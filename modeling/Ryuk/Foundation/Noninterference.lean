import Ryuk.Foundation.Simulation
import Ryuk.Foundation.Views

/-!
# Noninterference

Two states may look alike to an observer.  A body is *secure* when it does the
same from states that look alike, as far as the observer can tell: it returns the
same or raises the same, and leaves states that look alike again.  The rules show
this statement by statement.

For a machine, secure observed inputs and other inputs that change nothing the
observer sees are enough: two runs with the same observed inputs answer them
alike, whatever else happens in between.
-/

namespace Ryuk
namespace Foundation
namespace Transaction

variable {σ τ ε α β : Type}

/-- The same answer from both sides, in states that look alike, or the same error. -/
inductive Same (alike : σ → σ → Prop) : Except ε (α × σ) → Except ε (α × σ) → Prop
  | returned (value : α) {left right : σ} (h : alike left right) :
      Same alike (.ok (value, left)) (.ok (value, right))
  | raised (error : ε) : Same alike (.error error) (.error error)

/-- The body does the same from states that look alike before, and leaves states that
look alike after. -/
def Secure (before after : σ → σ → Prop) (body : Transaction σ ε α) : Prop :=
  ∀ left right, before left right → Same after (body left) (body right)

section Rules

variable {before middle after alike : σ → σ → Prop}

theorem Secure.pure {value : α} : Secure alike alike (Pure.pure value : Transaction σ ε α) :=
  fun _ _ h => Same.returned value h

theorem Secure.fail {error : ε} :
    Secure before after (Transaction.fail error : Transaction σ ε α) :=
  fun _ _ _ => Same.raised error

theorem Secure.require {condition : Bool} {error : ε} :
    Secure alike alike (Transaction.require condition error : Transaction σ ε Unit) := by
  intro left right h
  unfold Transaction.require
  split_ifs
  · exact Same.returned () h
  · exact Same.raised error

theorem Secure.lift {value : Except ε α} :
    Secure alike alike (Transaction.lift value : Transaction σ ε α) := by
  intro left right h
  unfold Transaction.lift
  cases value with
  | ok result => exact Same.returned result h
  | error error => exact Same.raised error

/-- A read of something that looks the same. -/
theorem Secure.query {read : σ → α} (h : ∀ left right, alike left right → read left = read right) :
    Secure alike alike (Transaction.query read : Transaction σ ε α) := by
  intro left right halike
  unfold Transaction.query
  rw [h left right halike]
  exact Same.returned _ halike

theorem Secure.write {change : σ → σ}
    (h : ∀ left right, before left right → after (change left) (change right)) :
    Secure before after (Transaction.write change : Transaction σ ε Unit) :=
  fun left right halike => Same.returned () (h left right halike)

/-- A change that is refused on both sides or made on both. -/
theorem Secure.attempt {change : σ → Option σ} {error : ε}
    (h : ∀ left right, before left right → Option.Rel after (change left) (change right)) :
    Secure before after (Transaction.attempt change error : Transaction σ ε Unit) := by
  intro left right halike
  have hchange := h left right halike
  unfold Transaction.attempt
  generalize change left = first at hchange ⊢
  generalize change right = second at hchange ⊢
  cases hchange with
  | none => exact Same.raised error
  | some hnext => exact Same.returned () hnext

theorem Secure.bind {body : Transaction σ ε α} {rest : α → Transaction σ ε β}
    (hbody : Secure before middle body) (hrest : ∀ value, Secure middle after (rest value)) :
    Secure before after (body >>= rest) := by
  intro left right halike
  have hsame := hbody left right halike
  show Same after (Except.bind (body left) fun pair => rest pair.1 pair.2)
    (Except.bind (body right) fun pair => rest pair.1 pair.2)
  generalize body left = first at hsame ⊢
  generalize body right = second at hsame ⊢
  cases hsame with
  | returned value hnext => exact hrest value _ _ hnext
  | raised error => exact Same.raised error

/-- A read that is checked may differ as long as the check fails on both sides. -/
theorem Secure.checked {read : σ → α} {check : α → Bool} {error : ε}
    {rest : α → Transaction σ ε β}
    (hcheck : ∀ left right, before left right → check (read left) = check (read right) ∧
      (check (read left) = true → read left = read right))
    (hrest : ∀ value, Secure (fun left right => before left right ∧ read left = value ∧
      read right = value) after (rest value)) :
    Secure before after (Transaction.query read >>= fun value =>
      Transaction.require (check value) error >>= fun _ => rest value) := by
  intro left right halike
  obtain ⟨hsame, hread⟩ := hcheck left right halike
  have hrun : ∀ state : σ, (Transaction.query read >>= fun value =>
      Transaction.require (check value) error >>= fun _ => rest value) state =
        if check (read state) = true then rest (read state) state else .error error := by
    intro state
    show (Transaction.require (check (read state)) error >>= fun _ => rest (read state)) state = _
    unfold Transaction.require
    split_ifs
    · rfl
    · rfl
  rw [hrun, hrun, ← hsame]
  split_ifs with hpassed
  · rw [← hread hpassed]
    exact hrest (read left) left right ⟨halike, rfl, (hread hpassed).symm⟩
  · exact Same.raised error

/-- States that look alike in more respects look alike in fewer. -/
theorem Secure.mono {body : Transaction σ ε α} (hbody : Secure middle after body)
    (h : ∀ left right, before left right → middle left right) : Secure before after body :=
  fun left right halike => hbody left right (h left right halike)

/-- What looks alike after in more respects looks alike in fewer. -/
theorem Secure.weaken {body : Transaction σ ε α} (hbody : Secure before middle body)
    (h : ∀ left right, middle left right → after left right) : Secure before after body := by
  intro left right halike
  have hsame := hbody left right halike
  generalize body left = first at hsame ⊢
  generalize body right = second at hsame ⊢
  cases hsame with
  | returned value hnext => exact Same.returned value (h _ _ hnext)
  | raised error => exact Same.raised error

/-- A transaction answers alike, and leaves states that look alike. -/
theorem Secure.commit {body : Transaction σ ε α} (h : Secure before after body)
    (hkept : ∀ left right, before left right → after left right) {left right : σ}
    (halike : before left right) :
    (Transaction.commit body left).1 = (Transaction.commit body right).1 ∧
      after (Transaction.commit body left).2 (Transaction.commit body right).2 := by
  have hsame := h left right halike
  unfold Transaction.commit
  generalize body left = first at hsame ⊢
  generalize body right = second at hsame ⊢
  cases hsame with
  | returned value hnext => exact ⟨rfl, hnext⟩
  | raised error => exact ⟨rfl, hkept left right halike⟩

/-- What a body returns or raises. -/
def outcome (body : Transaction σ ε α) (state : σ) : Except ε α := (body state).map Prod.fst

theorem Secure.outcome {body : Transaction σ ε α} (h : Secure before after body) {left right : σ}
    (halike : before left right) : body.outcome left = body.outcome right := by
  have hsame := h left right halike
  unfold Transaction.outcome
  generalize body left = first at hsame ⊢
  generalize body right = second at hsame ⊢
  cases hsame with
  | returned value hnext => rfl
  | raised error => rfl

end Rules

end Transaction

namespace Machine

variable {σ ι ο κ ρ : Type}

/-- What makes two runs of a machine look alike: observed inputs are answered alike,
as far as `read` tells, and keep likeness, and the others keep it on their own side. -/
structure Unwinds (machine : Machine σ ι ο) (follow : ι → Option κ) (allowed : σ → ι → Prop)
    (alike : σ → σ → Prop) (read : ο → ρ) : Prop where
  symm : ∀ left right, alike left right → alike right left
  seen : ∀ left right input input' call, alike left right → follow input = some call →
    follow input' = some call → allowed left input → allowed right input' →
    read (machine.answer left input) = read (machine.answer right input') ∧
      alike (machine.next left input) (machine.next right input')
  unseen : ∀ left right input, alike left right → follow input = none → allowed left input →
    alike (machine.next left input) right

/-- Every input of the run is allowed where it is met. -/
def AllowedRun (machine : Machine σ ι ο) (allowed : σ → ι → Prop) (state : σ) : List ι → Prop
  | [] => True
  | input :: rest => allowed state input ∧ machine.AllowedRun allowed (machine.next state input) rest

/-- The observed inputs of a run, each with what is read of its answer. -/
def observed (machine : Machine σ ι ο) (follow : ι → Option κ) (read : ο → ρ) (state : σ)
    (inputs : List ι) : List (κ × ρ) :=
  (machine.transcript follow state inputs).map fun pair => (pair.1, read pair.2)

section Observed

variable {machine : Machine σ ι ο} {follow : ι → Option κ} {read : ο → ρ} {state : σ} {input : ι}
  {rest : List ι}

theorem observed_unseen (h : follow input = none) :
    machine.observed follow read state (input :: rest) =
      machine.observed follow read (machine.next state input) rest := by
  unfold observed
  simp only [transcript, h]

theorem observed_seen {call : κ} (h : follow input = some call) :
    machine.observed follow read state (input :: rest) =
      (call, read (machine.answer state input)) ::
        machine.observed follow read (machine.next state input) rest := by
  unfold observed
  simp only [transcript, h, List.map_cons]

theorem observed_nil (h : rest.filterMap follow = []) :
    machine.observed follow read state rest = [] := by
  induction rest generalizing state with
  | nil => rfl
  | cons input rest ih =>
      cases hfollow : follow input with
      | none =>
          rw [List.filterMap_cons_none hfollow] at h
          rw [observed_unseen hfollow]
          exact ih h
      | some call =>
          rw [List.filterMap_cons_some hfollow] at h
          cases h

end Observed

/-- **Unwinding rule.**  Runs with the same observed inputs answer them alike. -/
theorem Unwinds.observed {machine : Machine σ ι ο} {follow : ι → Option κ}
    {allowed : σ → ι → Prop} {alike : σ → σ → Prop} {read : ο → ρ}
    (h : Unwinds machine follow allowed alike read) {left right : σ} (halike : alike left right)
    {first second : List ι} (hfirst : machine.AllowedRun allowed left first)
    (hsecond : machine.AllowedRun allowed right second)
    (hsame : first.filterMap follow = second.filterMap follow) :
    machine.observed follow read left first = machine.observed follow read right second := by
  induction first generalizing left right second with
  | nil =>
      -- the other run has no observed input either
      rw [@observed_nil σ ι ο κ ρ machine follow read right _ hsame.symm]
      rfl
  | cons input rest ih =>
      cases hfollow : follow input with
      | none =>
          rw [List.filterMap_cons_none hfollow] at hsame
          rw [observed_unseen hfollow]
          exact ih (h.unseen left right input halike hfollow hfirst.1) hfirst.2 hsecond hsame
      | some call =>
          rw [List.filterMap_cons_some hfollow] at hsame
          -- the other run comes to the same call, after inputs nobody observes
          induction second generalizing right with
          | nil => cases hsame
          | cons input' rest' ih' =>
              cases hfollow' : follow input' with
              | none =>
                  rw [List.filterMap_cons_none hfollow'] at hsame
                  have hstep := h.symm _ _
                    (h.unseen right left input' (h.symm _ _ halike) hfollow' hsecond.1)
                  rw [observed_unseen hfollow']
                  exact ih' hstep hsecond.2 hsame
              | some call' =>
                  rw [List.filterMap_cons_some hfollow', List.cons.injEq] at hsame
                  obtain ⟨rfl, hsame⟩ := hsame
                  obtain ⟨hanswer, hnext⟩ := h.seen left right input input' call halike hfollow
                    hfollow' hfirst.1 hsecond.1
                  rw [observed_seen hfollow, observed_seen hfollow', hanswer,
                    ih hnext hfirst.2 hsecond.2 hsame]

end Machine
end Foundation
end Ryuk
