import Mathlib.Tactic

/-!
# Transactions

A transaction body reads and writes a state and may fail.  `commit` runs it: a
body that returns keeps its writes, a body that fails rolls all of them back.
The `_ok` lemmas turn "the body returned this from that state" into the facts
the body checked and the writes it made, one statement at a time.
-/

namespace Ryuk
namespace Foundation

/-- A transaction body over a state `σ` with failures `ε`. -/
abbrev Transaction (σ ε α : Type) := StateT σ (Except ε) α

namespace Transaction

variable {σ ε α β : Type}

/-- Read something off the state. -/
def query (read : σ → α) : Transaction σ ε α := fun state => .ok (read state, state)

/-- Change the state. -/
def write (change : σ → σ) : Transaction σ ε Unit := fun state => .ok ((), change state)

/-- Fail. -/
def fail (error : ε) : Transaction σ ε α := fun _ => .error error

/-- Fail unless a condition holds. -/
def require (condition : Bool) (error : ε) : Transaction σ ε Unit :=
  if condition then pure () else fail error

/-- The value of a computation that does not touch the state. -/
def lift (value : Except ε α) : Transaction σ ε α := fun state =>
  match value with
  | .ok result => .ok (result, state)
  | .error error => .error error

/-- A change of the state that may be refused. -/
def attempt (change : σ → Option σ) (error : ε) : Transaction σ ε Unit := fun state =>
  match change state with
  | some next => .ok ((), next)
  | none => .error error

/-- Run a body: its writes are kept when it returns and dropped when it fails. -/
def commit (body : Transaction σ ε α) (state : σ) : Except ε α × σ :=
  match body state with
  | .ok (result, next) => (.ok result, next)
  | .error error => (.error error, state)

/-! ### What a returning body did -/

theorem bind_ok {body : Transaction σ ε α} {rest : α → Transaction σ ε β} {state final : σ}
    {result : β} :
    (body >>= rest) state = .ok (result, final) ↔
      ∃ value next, body state = .ok (value, next) ∧ rest value next = .ok (result, final) := by
  change (Except.bind (body state) fun pair => rest pair.1 pair.2) = _ ↔ _
  cases hbody : body state with
  | error error => simp [Except.bind]
  | ok pair =>
      obtain ⟨value, next⟩ := pair
      simp [Except.bind]

@[simp] theorem pure_ok {value result : α} {state final : σ} :
    (pure value : Transaction σ ε α) state = .ok (result, final) ↔
      value = result ∧ state = final := by
  change (Except.ok (value, state) : Except ε (α × σ)) = _ ↔ _
  simp

theorem map_ok {body : Transaction σ ε α} {change : α → β} {state final : σ} {result : β} :
    (change <$> body) state = .ok (result, final) ↔
      ∃ value, body state = .ok (value, final) ∧ change value = result := by
  rw [map_eq_pure_bind, bind_ok]
  constructor
  · rintro ⟨value, next, hbody, hpure⟩
    obtain ⟨hresult, rfl⟩ := pure_ok.mp hpure
    exact ⟨value, hbody, hresult⟩
  · rintro ⟨value, hbody, hresult⟩
    exact ⟨value, final, hbody, pure_ok.mpr ⟨hresult, rfl⟩⟩

@[simp] theorem write_ok {change : σ → σ} {result : Unit} {state final : σ} :
    (write change : Transaction σ ε Unit) state = .ok (result, final) ↔
      change state = final := by
  simp [write]

@[simp] theorem fail_ok {error : ε} {result : α} {state final : σ} :
    (fail error : Transaction σ ε α) state = .ok (result, final) ↔ False := by
  simp [fail]

@[simp] theorem require_ok {condition : Bool} {error : ε} {result : Unit} {state final : σ} :
    (require condition error : Transaction σ ε Unit) state = .ok (result, final) ↔
      condition = true ∧ state = final := by
  unfold require
  by_cases hcondition : condition = true
  · simp [hcondition]
  · simp [hcondition]

@[simp] theorem attempt_ok {change : σ → Option σ} {error : ε} {result : Unit}
    {state final : σ} :
    (attempt change error : Transaction σ ε Unit) state = .ok (result, final) ↔
      change state = some final := by
  unfold attempt
  cases hchange : change state with
  | none => simp
  | some next => simp

theorem lift_ok {value : Except ε α} {result : α} {state final : σ} :
    (lift value : Transaction σ ε α) state = .ok (result, final) ↔
      value = .ok result ∧ state = final := by
  unfold lift
  cases value with
  | error error => simp
  | ok found => simp

variable {state final : σ} {result : β}

/-- A statement that reads. -/
theorem query_bind_ok {read : σ → α} {rest : α → Transaction σ ε β} :
    (query read >>= rest) state = .ok (result, final) ↔
      rest (read state) state = .ok (result, final) := by
  rw [bind_ok]
  simp [query]

/-- A statement that writes. -/
theorem write_bind_ok {change : σ → σ} {rest : Unit → Transaction σ ε β} :
    (write change >>= rest) state = .ok (result, final) ↔
      rest () (change state) = .ok (result, final) := by
  rw [bind_ok]
  constructor
  · rintro ⟨_, next, hwrite, hrest⟩
    simp only [write, Except.ok.injEq, Prod.mk.injEq, true_and] at hwrite
    rw [hwrite]
    exact hrest
  · intro hrest
    exact ⟨(), change state, rfl, hrest⟩

/-- A statement that checks. -/
theorem require_bind_ok {condition : Bool} {error : ε} {rest : Unit → Transaction σ ε β} :
    (require condition error >>= rest) state = .ok (result, final) ↔
      condition = true ∧ rest () state = .ok (result, final) := by
  rw [bind_ok]
  simp only [require_ok]
  constructor
  · rintro ⟨_, _, ⟨hcondition, rfl⟩, hrest⟩
    exact ⟨hcondition, hrest⟩
  · rintro ⟨hcondition, hrest⟩
    exact ⟨(), state, ⟨hcondition, rfl⟩, hrest⟩

/-- A statement that computes. -/
theorem lift_bind_ok {value : Except ε α} {rest : α → Transaction σ ε β} :
    (lift value >>= rest) state = .ok (result, final) ↔
      ∃ found, value = .ok found ∧ rest found state = .ok (result, final) := by
  rw [bind_ok]
  unfold lift
  cases value with
  | error error => simp
  | ok found => simp

/-- A statement that writes or is refused. -/
theorem attempt_bind_ok {change : σ → Option σ} {error : ε} {rest : Unit → Transaction σ ε β} :
    (attempt change error >>= rest) state = .ok (result, final) ↔
      ∃ next, change state = some next ∧ rest () next = .ok (result, final) := by
  rw [bind_ok]
  simp only [attempt_ok]
  constructor
  · rintro ⟨_, next, hchange, hrest⟩
    exact ⟨next, hchange, hrest⟩
  · rintro ⟨next, hchange, hrest⟩
    exact ⟨(), next, hchange, hrest⟩

theorem isOk_iff {outcome : Except ε α} :
    outcome.isOk = true ↔ ∃ result, outcome = .ok result := by
  cases outcome with
  | error error => simp [Except.isOk, Except.toBool]
  | ok result => simp [Except.isOk, Except.toBool]

/-! ### What a body never raises -/

/-- The body raises this error from no state. -/
def Avoids (error : ε) (body : Transaction σ ε α) : Prop := ∀ state, body state ≠ .error error

section Avoiding

variable {error other : ε}

theorem Avoids.pure {value : α} : Avoids error (Pure.pure value : Transaction σ ε α) := by
  intro state h
  cases h

theorem Avoids.query {read : σ → α} : Avoids error (Transaction.query read) := by
  intro state h
  cases h

theorem Avoids.write {change : σ → σ} : Avoids error (Transaction.write change) := by
  intro state h
  cases h

theorem Avoids.fail (h : other ≠ error) :
    Avoids error (Transaction.fail other : Transaction σ ε α) := by
  intro state hraised
  exact h (Except.error.inj hraised)

theorem Avoids.require {condition : Bool} (h : other ≠ error) :
    Avoids error (Transaction.require condition other : Transaction σ ε Unit) := by
  unfold Transaction.require
  split_ifs
  · exact Avoids.pure
  · exact Avoids.fail h

theorem Avoids.lift {value : Except ε α} (h : value ≠ .error error) :
    Avoids error (Transaction.lift value : Transaction σ ε α) := by
  intro state hraised
  unfold Transaction.lift at hraised
  split at hraised
  · cases hraised
  · rename_i found hfound
    rw [Except.error.inj hraised] at h
    exact h rfl

/-- A rest has to avoid the error only for the values its body returns. -/
theorem Avoids.bind {body : Transaction σ ε α} {rest : α → Transaction σ ε β}
    (hbody : Avoids error body)
    (hrest : ∀ value state next, body state = .ok (value, next) → Avoids error (rest value)) :
    Avoids error (body >>= rest) := by
  intro state hraised
  change (Except.bind (body state) fun pair => rest pair.1 pair.2) = _ at hraised
  cases hcase : body state with
  | error found =>
      rw [hcase] at hraised
      have hsame : found = error := Except.error.inj hraised
      exact hbody state (hsame ▸ hcase)
  | ok pair =>
      obtain ⟨value, next⟩ := pair
      rw [hcase] at hraised
      exact hrest value state next hcase next hraised

end Avoiding

/-! ### Committing -/

theorem commit_ok {body : Transaction σ ε α} {state final : σ} {result : α}
    (h : commit body state = (.ok result, final)) : body state = .ok (result, final) := by
  unfold commit at h
  cases hbody : body state with
  | error error => simp [hbody] at h
  | ok pair =>
      obtain ⟨value, next⟩ := pair
      simp only [hbody, Prod.mk.injEq, Except.ok.injEq] at h
      rw [h.1, h.2]

/-- A transaction that answered kept the writes of its body. -/
theorem commit_of_answer {body : Transaction σ ε α} {state : σ} {result : α}
    (h : (commit body state).1 = .ok result) :
    body state = .ok (result, (commit body state).2) :=
  commit_ok (Prod.ext h rfl)

theorem commit_of_ok {body : Transaction σ ε α} {state final : σ} {result : α}
    (h : body state = .ok (result, final)) : commit body state = (.ok result, final) := by
  simp [commit, h]

/-- A transaction either kept the writes of a body that returned or changed
nothing. -/
theorem commit_cases (body : Transaction σ ε α) (state : σ) :
    (∃ result, (commit body state).1 = .ok result ∧
        body state = .ok (result, (commit body state).2)) ∨
      ((∃ error, (commit body state).1 = .error error) ∧ (commit body state).2 = state) := by
  cases hcommit : commit body state with
  | mk outcome final =>
      cases outcome with
      | ok result => exact Or.inl ⟨result, rfl, commit_ok hcommit⟩
      | error error =>
          refine Or.inr ⟨⟨error, rfl⟩, ?_⟩
          unfold commit at hcommit
          split at hcommit
          · cases hcommit
          · cases hcommit
            rfl

/-- A failed transaction changes nothing. -/
theorem commit_error {body : Transaction σ ε α} {state : σ} {error : ε}
    (h : (commit body state).1 = .error error) : (commit body state).2 = state := by
  rcases commit_cases body state with ⟨result, hok, -⟩ | ⟨-, hsame⟩
  · rw [hok] at h
    cases h
  · exact hsame

/-- What holds of the state before and is kept by every returning body holds
after the transaction. -/
theorem commit_preserves {body : Transaction σ ε α} {holds : σ → Prop} {state : σ}
    (hstate : holds state)
    (hbody : ∀ result final, body state = .ok (result, final) → holds final) :
    holds (commit body state).2 := by
  rcases commit_cases body state with ⟨result, -, hok⟩ | ⟨-, hsame⟩
  · exact hbody result _ hok
  · rw [hsame]
    exact hstate

end Transaction
end Foundation
end Ryuk
