import Ryuk.Foundation.Noninterference
import Ryuk.Foundation.Table

/-!
# Confinement

A state that several principals share shows each of them a part.  A body is
*confined* to a principal when what it does depends on the part of that principal
alone, and the others are shown the same after it.  The rules show this statement
by statement; along the way they keep conditions on the state, as a Hoare logic
does.
-/

namespace Ryuk
namespace Foundation

/-! ### Parts of a table -/

namespace Table

variable {ρ κ : Type} {key : ρ → κ} {table next : Table ρ κ key} {keep condition : ρ → Bool}

/-- The rows that satisfy a condition, as a table. -/
def restrict (keep : ρ → Bool) (table : Table ρ κ key) : Table ρ κ key where
  rows := table.rows.filter keep
  unique := table.unique.sublist (List.filter_sublist.map key)

theorem eq_of_rows (h : table.rows = next.rows) : table = next := by
  obtain ⟨rows, unique⟩ := table
  obtain ⟨rows', unique'⟩ := next
  obtain rfl : rows = rows' := h
  rfl

theorem mem_restrict {row : ρ} :
    row ∈ (table.restrict keep).rows ↔ row ∈ table.rows ∧ keep row = true :=
  List.mem_filter

theorem select_restrict (h : ∀ row, condition row = true → keep row = true) :
    (table.restrict keep).select condition = table.select condition := by
  unfold select restrict
  rw [List.filter_filter]
  apply List.filter_congr
  intro row _
  cases hcondition : condition row with
  | false => rfl
  | true => rw [h row hcondition, Bool.and_self]

theorem fetchone_restrict (h : ∀ row, condition row = true → keep row = true) :
    (table.restrict keep).fetchone condition = table.fetchone condition := by
  have hselect := @select_restrict ρ κ key table keep condition h
  unfold fetchone
  rw [← List.head?_filter, ← List.head?_filter]
  exact congrArg List.head? hselect

theorem restrict_update {change : ρ → ρ} {hkey : ∀ row, key (change row) = key row}
    (hkept : ∀ row, keep (change row) = keep row) :
    (table.update condition change hkey).restrict keep =
      (table.restrict keep).update condition change hkey := by
  apply eq_of_rows
  unfold restrict update
  show List.filter keep (List.map _ _) = List.map _ (List.filter keep _)
  rw [List.filter_map]
  congr 1
  apply List.filter_congr
  intro row _
  show keep (if condition row then change row else row) = keep row
  split_ifs
  · exact hkept row
  · rfl

/-- An update of other rows. -/
theorem restrict_update_other {change : ρ → ρ} {hkey : ∀ row, key (change row) = key row}
    (hother : ∀ row ∈ table.rows, condition row = true → keep row = false)
    (hkept : ∀ row, keep (change row) = keep row) :
    (table.update condition change hkey).restrict keep = table.restrict keep := by
  rw [restrict_update hkept]
  apply eq_of_rows
  show List.map _ (List.filter keep table.rows) = List.filter keep table.rows
  rw [List.map_congr_left, List.map_id]
  intro row hrow
  -- a row that is kept is not one of the others
  rw [if_neg]
  · rfl
  · intro hcondition
    obtain ⟨hmem, hkeep⟩ := List.mem_filter.mp hrow
    rw [hother row hmem hcondition] at hkeep
    cases hkeep

/-- An insertion of a kept row, whose key only kept rows may have. -/
theorem restrict_insert [DecidableEq κ] {row : ρ} (hrow : keep row = true)
    (hown : ∀ other ∈ table.rows, key other = key row → keep other = true) :
    (table.insert row).map (restrict keep) = (table.restrict keep).insert row := by
  have htaken : key row ∈ (table.restrict keep).rows.map key ↔ key row ∈ table.rows.map key := by
    rw [List.mem_map, List.mem_map]
    constructor
    · rintro ⟨other, hother, hkey⟩
      exact ⟨other, (mem_restrict.mp hother).1, hkey⟩
    · rintro ⟨other, hother, hkey⟩
      exact ⟨other, mem_restrict.mpr ⟨hother, hown other hother hkey⟩, hkey⟩
  unfold insert
  by_cases h : key row ∈ table.rows.map key
  · rw [dif_pos h, dif_pos (htaken.mpr h)]
    rfl
  · rw [dif_neg h, dif_neg fun h' => h (htaken.mp h'), Option.map_some, Option.some.injEq]
    apply eq_of_rows
    show List.filter keep (table.rows ++ [row]) = List.filter keep table.rows ++ [row]
    rw [List.filter_append, List.filter_singleton, hrow]
    rfl

/-- An insertion of another row. -/
theorem restrict_insert_other [DecidableEq κ] {row : ρ} (h : table.insert row = some next)
    (hrow : keep row = false) : next.restrict keep = table.restrict keep := by
  apply eq_of_rows
  show List.filter keep next.rows = List.filter keep table.rows
  rw [insert_rows h, List.filter_append, List.filter_singleton, hrow]
  exact List.append_nil _

end Table

/-! ### Confined bodies -/

namespace Transaction

variable {σ ε α β κ : Type}

/-- States that show the same, and satisfy a condition. -/
def Showing (view : σ → σ) (condition : σ → Prop) (left right : σ) : Prop :=
  view left = view right ∧ condition left ∧ condition right

/-- From states that satisfy `before`, the body does what the part of `own` says, leaves
states that satisfy `after`, and shows the others what they were shown. -/
structure Confined (view : κ → σ → σ) (own : κ) (before after : σ → Prop)
    (body : Transaction σ ε α) : Prop where
  silent : ∀ other, other ≠ own → ∀ state result final, before state →
    body state = .ok (result, final) → view other final = view other state
  secure : Secure (Showing (view own) before) (Showing (view own) after) body

section Rules

variable {view : κ → σ → σ} {own : κ} {before middle after condition : σ → Prop}

/-- What holds after the body. -/
theorem Confined.holds {body : Transaction σ ε α} (h : Confined view own before after body)
    {state final : σ} {result : α} (hstate : before state)
    (hbody : body state = .ok (result, final)) : after final := by
  have hsame := h.secure state state ⟨rfl, hstate, hstate⟩
  rw [hbody] at hsame
  cases hsame with
  | returned value hshowing => exact hshowing.2.1

theorem Confined.pure {value : α} :
    Confined view own condition condition (Pure.pure value : Transaction σ ε α) where
  silent other _ state result final _ hbody := by rw [(pure_ok.mp hbody).2]
  secure := Secure.pure

theorem Confined.fail {error : ε} :
    Confined view own before after (Transaction.fail error : Transaction σ ε α) where
  silent _ _ _ _ _ _ hbody := (fail_ok.mp hbody).elim
  secure := Secure.fail

theorem Confined.require {test : Bool} {error : ε} :
    Confined view own condition condition
      (Transaction.require test error : Transaction σ ε Unit) where
  silent other _ state result final _ hbody := by rw [(require_ok.mp hbody).2]
  secure := Secure.require

theorem Confined.lift {value : Except ε α} :
    Confined view own condition condition (Transaction.lift value : Transaction σ ε α) where
  silent other _ state result final _ hbody := by rw [(lift_ok.mp hbody).2]
  secure := Secure.lift

/-- A read of the part of the principal. -/
theorem Confined.query {read : σ → α} (h : ∀ state, condition state →
    read (view own state) = read state) :
    Confined view own condition condition (Transaction.query read : Transaction σ ε α) where
  silent other _ state result final _ hbody := by
    rw [← (Prod.mk.inj (Except.ok.inj hbody)).2]
  secure := Secure.query fun left right hshowing => by
    rw [← h left hshowing.2.1, hshowing.1, h right hshowing.2.2]

/-- A change of the part of the principal. -/
theorem Confined.write {change : σ → σ}
    (hown : ∀ state, before state → view own (change state) = change (view own state))
    (hother : ∀ other, other ≠ own → ∀ state, before state →
      view other (change state) = view other state)
    (hkept : ∀ state, before state → after (change state)) :
    Confined view own before after (Transaction.write change : Transaction σ ε Unit) where
  silent other hne state result final hstate hbody := by
    rw [← write_ok.mp hbody]
    exact hother other hne state hstate
  secure := Secure.write fun left right hshowing =>
    ⟨by rw [hown left hshowing.2.1, hown right hshowing.2.2, hshowing.1],
      hkept left hshowing.2.1, hkept right hshowing.2.2⟩

/-- A change of the part of the principal that depends on this part whether it is
refused. -/
theorem Confined.attempt {change : σ → Option σ} {error : ε}
    (hown : ∀ state, before state → (change state).map (view own) = change (view own state))
    (hother : ∀ other, other ≠ own → ∀ state next, before state → change state = some next →
      view other next = view other state)
    (hkept : ∀ state next, before state → change state = some next → after next) :
    Confined view own before after (Transaction.attempt change error : Transaction σ ε Unit) where
  silent other hne state result final hstate hbody :=
    hother other hne state final hstate (attempt_ok.mp hbody)
  secure := Secure.attempt fun left right hshowing => by
    have hsame : (change left).map (view own) = (change right).map (view own) := by
      rw [hown left hshowing.2.1, hown right hshowing.2.2, hshowing.1]
    cases hleft : change left with
    | none =>
        cases hright : change right with
        | none => exact Option.Rel.none
        | some next =>
            rw [hleft, hright] at hsame
            cases hsame
    | some next =>
        cases hright : change right with
        | none =>
            rw [hleft, hright] at hsame
            cases hsame
        | some next' =>
            rw [hleft, hright] at hsame
            exact Option.Rel.some ⟨Option.some.inj hsame, hkept left next hshowing.2.1 hleft,
              hkept right next' hshowing.2.2 hright⟩

theorem Confined.bind {body : Transaction σ ε α} {rest : α → Transaction σ ε β}
    (hbody : Confined view own before middle body)
    (hrest : ∀ value, Confined view own middle after (rest value)) :
    Confined view own before after (body >>= rest) where
  silent other hne state result final hstate h := by
    rw [bind_ok] at h
    obtain ⟨value, next, hfirst, hsecond⟩ := h
    rw [(hrest value).silent other hne next result final (hbody.holds hstate hfirst) hsecond]
    exact hbody.silent other hne state value next hstate hfirst
  secure := Secure.bind hbody.secure fun value => (hrest value).secure

/-- A body whose value tells something of the state it leaves. -/
theorem Confined.bindLearn {body : Transaction σ ε α} {rest : α → Transaction σ ε β}
    {fact : α → σ → Prop} (hbody : Confined view own before middle body)
    (hfact : ∀ state value next, before state → body state = .ok (value, next) → fact value next)
    (hrest : ∀ value, Confined view own (fun state => middle state ∧ fact value state) after
      (rest value)) :
    Confined view own before after (body >>= rest) where
  silent other hne state result final hstate h := by
    rw [bind_ok] at h
    obtain ⟨value, next, hfirst, hsecond⟩ := h
    rw [(hrest value).silent other hne next result final
      ⟨hbody.holds hstate hfirst, hfact state value next hstate hfirst⟩ hsecond]
    exact hbody.silent other hne state value next hstate hfirst
  secure := by
    intro left right hshowing
    have hleft := hfact left
    have hright := hfact right
    have hsame := hbody.secure left right hshowing
    show Same _ (Except.bind (body left) fun pair => rest pair.1 pair.2)
      (Except.bind (body right) fun pair => rest pair.1 pair.2)
    generalize body left = first at hleft hsame ⊢
    generalize body right = second at hright hsame ⊢
    cases hsame with
    | returned value hnext =>
        exact (hrest value).secure _ _ ⟨hnext.1, ⟨hnext.2.1, hleft _ _ hshowing.2.1 rfl⟩,
          ⟨hnext.2.2, hright _ _ hshowing.2.2 rfl⟩⟩
    | raised error => exact Same.raised error

/-- A read whose value the rest remembers. -/
theorem Confined.read {read : σ → α} {rest : α → Transaction σ ε β}
    (h : ∀ state, before state → read (view own state) = read state)
    (hrest : ∀ value, (∃ state, before state ∧ read state = value) →
      Confined view own (fun state => before state ∧ read state = value) after (rest value)) :
    Confined view own before after (Transaction.query read >>= rest) where
  silent other hne state result final hstate hbody := by
    rw [query_bind_ok] at hbody
    exact (hrest _ ⟨state, hstate, rfl⟩).silent other hne state result final ⟨hstate, rfl⟩ hbody
  secure := by
    intro left right hshowing
    have hsame : read left = read right := by
      rw [← h left hshowing.2.1, hshowing.1, h right hshowing.2.2]
    show Same _ (rest (read left) left) (rest (read right) right)
    rw [← hsame]
    exact (hrest (read left) ⟨left, hshowing.2.1, rfl⟩).secure left right
      ⟨hshowing.1, ⟨hshowing.2.1, rfl⟩, ⟨hshowing.2.2, hsame.symm⟩⟩

theorem Confined.map {body : Transaction σ ε α} {change : α → β}
    (hbody : Confined view own before after body) :
    Confined view own before after (change <$> body) := by
  rw [map_eq_pure_bind]
  exact Confined.bind hbody fun _ => Confined.pure

/-- The rule of consequence. -/
theorem Confined.weaken {body : Transaction σ ε α} {before' after' : σ → Prop}
    (hbody : Confined view own before after body) (hbefore : ∀ state, before' state → before state)
    (hafter : ∀ state, after state → after' state) : Confined view own before' after' body where
  silent other hne state result final hstate h :=
    hbody.silent other hne state result final (hbefore state hstate) h
  secure := (hbody.secure.mono fun _ _ h => ⟨h.1, hbefore _ h.2.1, hbefore _ h.2.2⟩).weaken
    fun _ _ h => ⟨h.1, hafter _ h.2.1, hafter _ h.2.2⟩

/-- What a body that returned tells of the state. -/
theorem Confined.learn {body : Transaction σ ε α} {fact : σ → Prop}
    (hbody : Confined view own before after body)
    (hfact : ∀ state result final, before state → body state = .ok (result, final) → fact final) :
    Confined view own before (fun state => after state ∧ fact state) body := by
  rw [← bind_pure body]
  exact hbody.bindLearn hfact fun _ => Confined.pure

end Rules

/-! ### Statements on tables -/

/-- One of the tables of a state; what a principal is shown of it are the rows it keeps. -/
structure ShowsTable {ρ γ : Type} {key : ρ → γ} (view : κ → σ → σ) (keep : κ → ρ → Bool)
    (get : σ → Table ρ γ key) (set : σ → Table ρ γ key → σ) : Prop where
  get_view : ∀ principal state, get (view principal state) = (get state).restrict (keep principal)
  set_view : ∀ principal state table,
    view principal (set state table) = set (view principal state) (table.restrict (keep principal))
  set_get : ∀ state, set state (get state) = state

section Statements

variable {ρ γ : Type} {key : ρ → γ} {view : κ → σ → σ} {keep : κ → ρ → Bool}
  {get : σ → Table ρ γ key} {set : σ → Table ρ γ key → σ} {own : κ} {before after : σ → Prop}

/-- `UPDATE` of rows of the principal. -/
theorem ShowsTable.update (h : ShowsTable view keep get set) {test : ρ → Bool} {change : ρ → ρ}
    {hkey : ∀ row, key (change row) = key row}
    (hown : ∀ state, before state → ∀ row ∈ (get state).rows, test row = true → ∀ other,
      other ≠ own → keep other row = false)
    (hkeep : ∀ principal row, keep principal (change row) = keep principal row)
    (hkept : ∀ state, before state → after (set state ((get state).update test change hkey))) :
    Confined view own before after
      (Transaction.write fun state => set state ((get state).update test change hkey) :
        Transaction σ ε Unit) := by
  apply Confined.write
  · intro state _
    rw [h.set_view, h.get_view, Table.restrict_update (hkeep own)]
  · intro other hne state hstate
    rw [h.set_view, Table.restrict_update_other _ (hkeep other), ← h.get_view, h.set_get]
    intro row hrow htest
    exact hown state hstate row hrow htest other hne
  · exact hkept

/-- `INSERT` of a row of the principal. -/
theorem ShowsTable.insert [DecidableEq γ] (h : ShowsTable view keep get set) {row : ρ} {error : ε}
    (hrow : keep own row = true) (hother : ∀ other, other ≠ own → keep other row = false)
    (hown : ∀ state, before state → ∀ taken ∈ (get state).rows, key taken = key row →
      keep own taken = true)
    (hkept : ∀ state table, before state → (get state).insert row = some table →
      after (set state table)) :
    Confined view own before after
      (Transaction.attempt (fun state => ((get state).insert row).map (set state)) error :
        Transaction σ ε Unit) := by
  apply Confined.attempt
  · intro state hstate
    rw [h.get_view, ← Table.restrict_insert hrow (hown state hstate), Option.map_map,
      Option.map_map]
    congr 1
    funext table
    exact h.set_view own state table
  · intro other hne state next _ hinsert
    obtain ⟨table, htable, rfl⟩ := Option.map_eq_some_iff.mp hinsert
    rw [h.set_view, Table.restrict_insert_other htable (hother other hne), ← h.get_view, h.set_get]
  · intro state next hstate hinsert
    obtain ⟨table, htable, rfl⟩ := Option.map_eq_some_iff.mp hinsert
    exact hkept state table hstate htable

end Statements

/-! ### Two states side by side -/

variable {σ' : Type}

/-- The body on the first of two states. -/
def onFirst (body : Transaction σ ε α) : Transaction (σ × σ') ε α := fun state =>
  (body state.1).map fun pair => (pair.1, (pair.2, state.2))

/-- The body on the second of two states. -/
def onSecond (body : Transaction σ' ε α) : Transaction (σ × σ') ε α := fun state =>
  (body state.2).map fun pair => (pair.1, (state.1, pair.2))

section Pairs

variable {view : κ → σ → σ} {view' : κ → σ' → σ'} {own : κ} {before after : σ → Prop}
  {before' after' : σ' → Prop}

theorem Confined.onFirst {body : Transaction σ ε α} (h : Confined view own before after body)
    (condition : σ' → Prop) :
    Confined (fun principal (state : σ × σ') => (view principal state.1, view' principal state.2))
      own (fun state => before state.1 ∧ condition state.2)
      (fun state => after state.1 ∧ condition state.2) body.onFirst where
  silent other hne state result final hstate hbody := by
    have hsilent := h.silent other hne state.1
    unfold Transaction.onFirst at hbody
    generalize body state.1 = outcome at hsilent hbody
    cases outcome with
    | error error => cases hbody
    | ok pair =>
        obtain ⟨-, rfl⟩ := Prod.mk.inj (Except.ok.inj hbody)
        show (view other pair.2, view' other state.2) = _
        rw [hsilent pair.1 pair.2 hstate.1 rfl]
  secure := by
    intro left right hshowing
    obtain ⟨hview, hleft, hright⟩ := hshowing
    obtain ⟨hfirst, hsecond⟩ := Prod.mk.inj hview
    have hsame := h.secure left.1 right.1 ⟨hfirst, hleft.1, hright.1⟩
    unfold Transaction.onFirst
    generalize body left.1 = outcome at hsame ⊢
    generalize body right.1 = outcome' at hsame ⊢
    cases hsame with
    | returned value hnext =>
        exact Same.returned value ⟨Prod.ext hnext.1 hsecond, ⟨hnext.2.1, hleft.2⟩,
          ⟨hnext.2.2, hright.2⟩⟩
    | raised error => exact Same.raised error

theorem Confined.onSecond {body : Transaction σ' ε α} (h : Confined view' own before' after' body)
    (condition : σ → Prop) :
    Confined (fun principal (state : σ × σ') => (view principal state.1, view' principal state.2))
      own (fun state => condition state.1 ∧ before' state.2)
      (fun state => condition state.1 ∧ after' state.2) body.onSecond where
  silent other hne state result final hstate hbody := by
    have hsilent := h.silent other hne state.2
    unfold Transaction.onSecond at hbody
    generalize body state.2 = outcome at hsilent hbody
    cases outcome with
    | error error => cases hbody
    | ok pair =>
        obtain ⟨-, rfl⟩ := Prod.mk.inj (Except.ok.inj hbody)
        show (view other state.1, view' other pair.2) = _
        rw [hsilent pair.1 pair.2 hstate.2 rfl]
  secure := by
    intro left right hshowing
    obtain ⟨hview, hleft, hright⟩ := hshowing
    obtain ⟨hfirst, hsecond⟩ := Prod.mk.inj hview
    have hsame := h.secure left.2 right.2 ⟨hsecond, hleft.2, hright.2⟩
    unfold Transaction.onSecond
    generalize body left.2 = outcome at hsame ⊢
    generalize body right.2 = outcome' at hsame ⊢
    cases hsame with
    | returned value hnext =>
        exact Same.returned value ⟨Prod.ext hfirst hnext.1, ⟨hleft.1, hnext.2.1⟩,
          ⟨hright.1, hnext.2.2⟩⟩
    | raised error => exact Same.raised error

end Pairs

end Transaction

/-! ### Machines of confined calls -/

namespace Machine

open Transaction

variable {σ ε α κ ι ρ : Type} [DecidableEq κ]

/-- A machine whose inputs are calls, each by a principal. -/
def ofCalls (body : κ → ι → Transaction σ ε α) : Machine σ (κ × ι) (Except ε α) where
  step state call := commit (body call.1 call.2) state

/-- The calls of a principal. -/
def callOf (own : κ) (call : κ × ι) : Option ι := if call.1 = own then some call.2 else none

theorem callOf_self {own : κ} {call : ι} : callOf own (own, call) = some call := if_pos rfl

theorem callOf_other {own caller : κ} {call : ι} (h : caller ≠ own) :
    callOf own (caller, call) = none := if_neg h

/-- **Confinement rule.**  Calls that are confined to their callers, as far as `read`
tells of what they return, unwind for every principal. -/
theorem unwinds_of_confined {body : κ → ι → Transaction σ ε α} {view : κ → σ → σ}
    {holds : σ → Prop} {allowed : ι → σ → Prop} {read : α → ρ}
    (h : ∀ own call, Confined view own (fun state => holds state ∧ allowed call state) holds
      (read <$> body own call)) (own : κ) :
    Unwinds (ofCalls body) (callOf own) (fun state call => allowed call.2 state)
      (Showing (view own) holds) (Except.map read) := by
  have hcommit : ∀ (made : Transaction σ ε α) (state : σ),
      commit (read <$> made) state = ((commit made state).1.map read, (commit made state).2) := by
    intro made state
    unfold commit
    have hmap : (read <$> made) state =
        (made state).map fun pair => (read pair.1, pair.2) := rfl
    rw [hmap]
    cases made state with
    | error error => rfl
    | ok pair => rfl
  have hnext : ∀ state call, (ofCalls body).next state call =
      (commit (read <$> body call.1 call.2) state).2 := by
    intro state call
    rw [hcommit]
    rfl
  refine ⟨fun left right halike => ⟨halike.1.symm, halike.2.2, halike.2.1⟩, ?_, ?_⟩
  · intro left right input input' call halike hfollow hfollow' hleft hright
    obtain ⟨caller, made⟩ := input
    obtain ⟨caller', made'⟩ := input'
    unfold callOf at hfollow hfollow'
    split_ifs at hfollow hfollow' with hown hown'
    obtain rfl : made = call := Option.some.inj hfollow
    obtain rfl : made' = made := Option.some.inj hfollow'
    obtain rfl : caller = own := hown
    obtain rfl : caller' = caller := hown'
    have hsame := (h caller' made').secure left right
      ⟨halike.1, ⟨halike.2.1, hleft⟩, ⟨halike.2.2, hright⟩⟩
    rw [hnext, hnext]
    show (commit (body caller' made') left).1.map read =
      (commit (body caller' made') right).1.map read ∧ _
    have hanswer : ∀ state, (commit (body caller' made') state).1.map read =
        (commit (read <$> body caller' made') state).1 := fun state => by rw [hcommit]
    rw [hanswer, hanswer]
    unfold commit
    generalize (read <$> body caller' made') left = outcome at hsame ⊢
    generalize (read <$> body caller' made') right = outcome' at hsame ⊢
    cases hsame with
    | returned value hshowing => exact ⟨rfl, hshowing⟩
    | raised error => exact ⟨rfl, halike⟩
  · intro left right input halike hfollow hleft
    obtain ⟨caller, made⟩ := input
    unfold callOf at hfollow
    split_ifs at hfollow with hown
    rw [hnext]
    have hconfined := h caller made
    have hshown : view own (commit (read <$> body caller made) left).2 = view own left ∧
        holds (commit (read <$> body caller made) left).2 := by
      rcases commit_cases (read <$> body caller made) left with ⟨result, -, hok⟩ | ⟨-, hsame⟩
      · exact ⟨hconfined.silent own (Ne.symm hown) left result _ ⟨halike.2.1, hleft⟩ hok,
          hconfined.holds ⟨halike.2.1, hleft⟩ hok⟩
      · rw [hsame]
        exact ⟨rfl, halike.2.1⟩
    exact ⟨hshown.1.trans halike.1, hshown.2, halike.2.2⟩

end Machine

end Foundation
end Ryuk
