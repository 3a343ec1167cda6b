import Mathlib.Tactic

/-!
# Runs of a deterministic machine

A machine answers each input and moves to a next state.  A run feeds it a list
of inputs.  The rules here lift a fact about one step to a whole run: an
invariant, a relation between the state before and the state after, and the
bound "this event happens at most once".
-/

namespace Ryuk
namespace Foundation

/-- A deterministic machine with inputs `ι`, answers `ο` and states `σ`. -/
structure Machine (σ ι ο : Type) where
  step : σ → ι → ο × σ

namespace Machine

variable {σ ι ο : Type} (machine : Machine σ ι ο)

/-- The state after one input. -/
def next (state : σ) (input : ι) : σ := (machine.step state input).2

/-- The answer to one input. -/
def answer (state : σ) (input : ι) : ο := (machine.step state input).1

/-- One step, taken apart. -/
theorem next_of_step {machine : Machine σ ι ο} {state final : σ} {input : ι} {output : ο}
    (h : machine.step state input = (output, final)) : machine.next state input = final :=
  congrArg Prod.snd h

theorem answer_of_step {machine : Machine σ ι ο} {state final : σ} {input : ι} {output : ο}
    (h : machine.step state input = (output, final)) : machine.answer state input = output :=
  congrArg Prod.fst h

/-- The state after a list of inputs. -/
def after (state : σ) (inputs : List ι) : σ := inputs.foldl machine.next state

@[simp] theorem after_nil (state : σ) : machine.after state [] = state := rfl

@[simp] theorem after_cons (state : σ) (input : ι) (rest : List ι) :
    machine.after state (input :: rest) = machine.after (machine.next state input) rest := rfl

theorem after_append (state : σ) (first second : List ι) :
    machine.after state (first ++ second) =
      machine.after (machine.after state first) second :=
  List.foldl_append ..

/-- The states some run from a given state ends in. -/
def Reachable (start state : σ) : Prop := ∃ inputs, machine.after start inputs = state

variable {machine}

theorem Reachable.refl (start : σ) : machine.Reachable start start := ⟨[], rfl⟩

theorem Reachable.of_eq {start final : σ} (h : start = final) : machine.Reachable start final :=
  ⟨[], h⟩

theorem Reachable.trans {start middle final : σ} (hfirst : machine.Reachable start middle)
    (hsecond : machine.Reachable middle final) : machine.Reachable start final := by
  obtain ⟨first, rfl⟩ := hfirst
  obtain ⟨second, rfl⟩ := hsecond
  exact ⟨first ++ second, machine.after_append ..⟩

theorem Reachable.next {start state : σ} (h : machine.Reachable start state) (input : ι) :
    machine.Reachable start (machine.next state input) :=
  h.trans ⟨[input], rfl⟩

/-- **Invariant rule.** -/
theorem after_invariant {holds : σ → Prop}
    (hstep : ∀ state input, holds state → holds (machine.next state input))
    {state : σ} (hstate : holds state) (inputs : List ι) :
    holds (machine.after state inputs) := by
  induction inputs generalizing state with
  | nil => exact hstate
  | cons input rest ih => exact ih (hstep state input hstate)

theorem Reachable.invariant {holds : σ → Prop}
    (hstep : ∀ state input, holds state → holds (machine.next state input))
    {start state : σ} (hreach : machine.Reachable start state) (hstart : holds start) :
    holds state := by
  obtain ⟨inputs, rfl⟩ := hreach
  exact after_invariant hstep hstart inputs

/-- **Progress rule.**  A reflexive and transitive relation that every step from
an invariant state respects is respected by every run. -/
theorem after_related {holds : σ → Prop} {related : σ → σ → Prop}
    (hinv : ∀ state input, holds state → holds (machine.next state input))
    (hrefl : ∀ state, related state state)
    (htrans : ∀ first second third, related first second → related second third →
      related first third)
    (hstep : ∀ state input, holds state → related state (machine.next state input))
    {state : σ} (hstate : holds state) (inputs : List ι) :
    related state (machine.after state inputs) := by
  induction inputs generalizing state with
  | nil => exact hrefl state
  | cons input rest ih =>
      exact htrans _ _ _ (hstep state input hstate) (ih (hinv state input hstate))

/-- **Conditional invariant rule.**  What every step that meets its input under a condition keeps
is kept by a run all of whose inputs are met under it. -/
theorem after_range {holds : σ → Prop} {condition : σ → ι → Prop}
    (hstep : ∀ state input, holds state → condition state input → holds (machine.next state input))
    {state : σ} (hstate : holds state) (inputs : Nat → ι)
    (hinputs : ∀ step, condition (machine.after state ((List.range step).map inputs)) (inputs step))
    (steps : Nat) : holds (machine.after state ((List.range steps).map inputs)) := by
  induction steps with
  | zero => exact hstate
  | succ steps ih =>
      rw [List.range_succ, List.map_append, List.map_singleton, after_append]
      exact hstep _ _ ih (hinputs steps)

/-- How many inputs of a run, met in their states, are events of a kind. -/
def count (machine : Machine σ ι ο) (event : σ → ι → Bool) (state : σ) : List ι → Nat
  | [] => 0
  | input :: rest =>
      (if event state input then 1 else 0) + machine.count event (machine.next state input) rest

/-- Once spent, an event that spent states rule out never happens again. -/
theorem count_eq_zero {holds spent : σ → Prop} {event : σ → ι → Bool}
    (hinv : ∀ state input, holds state → holds (machine.next state input))
    (hspent : ∀ state input, holds state → spent state → spent (machine.next state input))
    (hnone : ∀ state input, holds state → spent state → event state input = false)
    {state : σ} (hstate : holds state) (hdone : spent state) (inputs : List ι) :
    machine.count event state inputs = 0 := by
  induction inputs generalizing state with
  | nil => rfl
  | cons input rest ih =>
      rw [count, hnone state input hstate hdone,
        ih (hinv state input hstate) (hspent state input hstate hdone)]
      rfl

/-- **At-most-once rule.**  An event that makes the state spent, where spent
states rule the event out and stay spent, happens at most once in a run. -/
theorem count_le_one {holds spent : σ → Prop} {event : σ → ι → Bool}
    (hinv : ∀ state input, holds state → holds (machine.next state input))
    (hspent : ∀ state input, holds state → spent state → spent (machine.next state input))
    (hnone : ∀ state input, holds state → spent state → event state input = false)
    (hevent : ∀ state input, holds state → event state input = true →
      spent (machine.next state input))
    {state : σ} (hstate : holds state) (inputs : List ι) :
    machine.count event state inputs ≤ 1 := by
  induction inputs generalizing state with
  | nil => exact Nat.zero_le 1
  | cons input rest ih =>
      rw [count]
      by_cases hhit : event state input = true
      · have hzero := count_eq_zero hinv hspent hnone (hinv state input hstate)
          (hevent state input hstate hhit) rest
        rw [hzero, hhit]
        exact Nat.le_refl 1
      · have hmiss : event state input = false := by simpa using hhit
        have hrest := ih (hinv state input hstate)
        rw [hmiss]
        simpa using hrest

/-- A run in which no input is an event counts none. -/
theorem count_eq_zero_of_forall {event : σ → ι → Bool} {state : σ} {inputs : List ι}
    (h : ∀ before input later, inputs = before ++ input :: later →
      event (machine.after state before) input = false) :
    machine.count event state inputs = 0 := by
  induction inputs generalizing state with
  | nil => rfl
  | cons input rest ih =>
      have hrest : machine.count event (machine.next state input) rest = 0 := by
        apply ih
        intro before other later hsplit
        exact h (input :: before) other later (by rw [hsplit, List.cons_append])
      have hhead : event state input = false := h [] input rest rfl
      rw [count, hhead, hrest]
      rfl

/-- What every other input keeps is kept by a run without the event. -/
theorem after_of_count_eq_zero {holds : σ → Prop} {event : σ → ι → Bool}
    (hstep : ∀ state input, holds state → event state input = false →
      holds (machine.next state input))
    {state : σ} (hstate : holds state) (inputs : List ι)
    (hcount : machine.count event state inputs = 0) : holds (machine.after state inputs) := by
  induction inputs generalizing state with
  | nil => exact hstate
  | cons input rest ih =>
      rw [count, Nat.add_eq_zero_iff] at hcount
      obtain ⟨hhead, hrest⟩ := hcount
      have hmiss : event state input = false := by
        by_contra hhit
        simp [hhit] at hhead
      exact ih (hstep state input hstate hmiss) hrest

/-- **Origin rule.**  What holds at the end of a run but not at its start was
brought about by one input, and has held ever since. -/
theorem after_origin {valid holds : σ → Prop} {origin : σ → ι → Prop} {start : σ}
    (hinv : ∀ state input, valid state → valid (machine.next state input))
    (hstep : ∀ state input, valid state → holds (machine.next state input) →
      holds state ∨ origin state input)
    (hvalid : valid start) (hstart : ¬ holds start) (inputs : List ι)
    (hend : holds (machine.after start inputs)) :
    ∃ before input rest, inputs = before ++ input :: rest ∧
      origin (machine.after start before) input ∧
      ∀ middle later, rest = middle ++ later →
        holds (machine.after start (before ++ input :: middle)) := by
  induction inputs using List.reverseRecOn with
  | nil => exact absurd hend hstart
  | append_singleton inputs last ih =>
      have hlast : machine.after start (inputs ++ [last]) =
          machine.next (machine.after start inputs) last := by
        rw [after_append, after_cons, after_nil]
      have hnow : holds (machine.next (machine.after start inputs) last) := hlast ▸ hend
      rcases hstep _ last (after_invariant hinv hvalid inputs) hnow with hbefore | horigin
      · obtain ⟨before, input, rest, rfl, horigin, hsince⟩ := ih hbefore
        refine ⟨before, input, rest ++ [last], by simp, horigin, fun middle later hsplit => ?_⟩
        -- the new stretch is an old one, or the whole run
        rcases List.eq_nil_or_concat later with rfl | ⟨earlier, final, rfl⟩
        · rw [List.append_nil] at hsplit
          rw [← hsplit, ← List.cons_append, ← List.append_assoc]
          exact hend
        · rw [List.concat_eq_append, ← List.append_assoc] at hsplit
          exact hsince middle earlier (List.append_inj' hsplit rfl).1
      · refine ⟨inputs, last, [], rfl, horigin, fun middle later hsplit => ?_⟩
        obtain ⟨rfl, rfl⟩ := List.nil_eq_append_iff.mp hsplit
        exact hend

end Machine
end Foundation
end Ryuk
