import Mathlib.Logic.Function.Iterate
import Mathlib.Tactic

/-!
# Programs that talk to a handler

A program asks queries and goes on with the answers until it ends; a handler answers
them from a state of its own.  A talk is what the two have come to after some turns.
What the handler keeps true, it keeps true whatever the program does: the program is
arbitrary, so the rules here are the ones for code that wraps foreign code.
-/

namespace Ryuk
namespace Foundation

/-- A program over states `σ` that asks queries `κ`, gets answers `α` and ends in an
outcome `ω`, if it ends. -/
structure Program (σ κ α ω : Type) where
  turn : σ → κ ⊕ ω
  resume : σ → α → σ

/-- What a program and a handler with states `ρ` have come to. -/
structure Talk (σ ρ ω : Type) where
  program : σ
  handler : ρ
  outcome : Option ω

namespace Talk

variable {σ ρ κ α ω : Type}

/-- A talk that begins. -/
def begin (program : σ) (handler : ρ) : Talk σ ρ ω := ⟨program, handler, none⟩

/-- One turn: a query is answered, or the program ends. -/
def step (program : Program σ κ α ω) (handle : ρ → κ → α × ρ) (talk : Talk σ ρ ω) :
    Talk σ ρ ω :=
  if talk.outcome.isSome then talk
  else
    match program.turn talk.program with
    | .inl query =>
        { talk with
          program := program.resume talk.program (handle talk.handler query).1
          handler := (handle talk.handler query).2 }
    | .inr outcome => { talk with outcome := some outcome }

/-- The talk after a number of turns. -/
def after (program : Program σ κ α ω) (handle : ρ → κ → α × ρ) (start : Talk σ ρ ω)
    (turns : Nat) : Talk σ ρ ω :=
  (step program handle)^[turns] start

section Rules

variable {program : Program σ κ α ω} {handle : ρ → κ → α × ρ} {talk start : Talk σ ρ ω}

@[simp] theorem after_zero : after program handle start 0 = start := rfl

theorem after_succ (turns : Nat) :
    after program handle start (turns + 1) =
      step program handle (after program handle start turns) :=
  Function.iterate_succ_apply' ..

theorem step_ended (h : talk.outcome.isSome = true) : step program handle talk = talk :=
  if_pos h

theorem step_query {query : κ} (h : talk.outcome = none)
    (hturn : program.turn talk.program = .inl query) :
    step program handle talk =
      ⟨program.resume talk.program (handle talk.handler query).1,
        (handle talk.handler query).2, none⟩ := by
  unfold step
  rw [hturn, h]
  rfl

theorem step_outcome {outcome : ω} (h : talk.outcome = none)
    (hturn : program.turn talk.program = .inr outcome) :
    step program handle talk = ⟨talk.program, talk.handler, some outcome⟩ := by
  unfold step
  rw [hturn, h]
  rfl

/-- **Handler rule.**  What every answer keeps of the handler's state holds in every
talk, whatever the program is. -/
theorem after_handler {holds : ρ → Prop}
    (hstep : ∀ state query, holds state → holds (handle state query).2)
    (hstart : holds start.handler) (turns : Nat) :
    holds (after program handle start turns).handler := by
  induction turns with
  | zero => exact hstart
  | succ turns ih =>
      rw [after_succ]
      generalize after program handle start turns = talk at ih
      cases houtcome : talk.outcome with
      | some outcome =>
          rw [step_ended (by rw [houtcome]; rfl)]
          exact ih
      | none =>
          cases hturn : program.turn talk.program with
          | inl query =>
              rw [step_query houtcome hturn]
              exact hstep _ _ ih
          | inr outcome =>
              rw [step_outcome houtcome hturn]
              exact ih

/-- **Guard rule.**  A property that each turn keeps exactly when the turn is allowed
holds in all talks of a run exactly when every turn that is taken is allowed. -/
theorem always_iff {holds : Talk σ ρ ω → Prop} {allowed : Talk σ ρ ω → Prop}
    (hstep : ∀ talk, talk.outcome = none → holds talk →
      (holds (step program handle talk) ↔ allowed talk))
    (hstart : holds start) :
    (∀ turns, holds (after program handle start turns)) ↔
      ∀ turns, (after program handle start turns).outcome = none →
        allowed (after program handle start turns) := by
  constructor
  · intro hholds turns houtcome
    have hnext := hholds (turns + 1)
    rw [after_succ] at hnext
    exact (hstep _ houtcome (hholds turns)).mp hnext
  · intro hallowed turns
    induction turns with
    | zero => exact hstart
    | succ turns ih =>
        rw [after_succ]
        cases houtcome : (after program handle start turns).outcome with
        | some outcome =>
            rw [step_ended (by rw [houtcome]; rfl)]
            exact ih
        | none => exact (hstep _ houtcome ih).mpr (hallowed turns houtcome)

end Rules

end Talk

end Foundation
end Ryuk
