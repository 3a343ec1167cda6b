import Ryuk.Foundation.Allowance
import Ryuk.Foundation.Datetime
import Ryuk.Workflows.Contracts

/-!
# The budget of one workflow

`WorkflowBudget` lives in memory and counts attempts and output tokens from the
moment it was made.  Readings of its clock are whole microseconds; the arithmetic
on them is exact.
-/

namespace Ryuk
namespace Workflows

open Foundation Foundation.Json Foundation.Datetime

/-- The checks of `WorkflowBudget`. -/
def WorkflowBudget.check (deadlineSeconds : ℚ) (maxAttempts : Int)
    (maxOutputTokens : Option Int) : Except PyError Unit := do
  ensure (decide (0 < deadlineSeconds)) (.valueError "deadline_seconds must be positive")
  ensure (decide (1 ≤ maxAttempts)) (.valueError "max_attempts must be positive")
  ensure (maxOutputTokens.all fun tokens => decide (1 ≤ tokens))
    (.valueError "max_output_tokens must be positive when provided")

structure WorkflowBudget where
  deadlineSeconds : ℚ
  maxAttempts : Int
  maxOutputTokens : Option Int
  started : Instant
  attempts : Int
  outputTokens : Int
  checked : WorkflowBudget.check deadlineSeconds maxAttempts maxOutputTokens = .ok ()

/-- `WorkflowBudget(deadline_seconds, max_attempts, max_output_tokens)`. -/
def WorkflowBudget.new (deadlineSeconds : ℚ) (maxAttempts : Int) (maxOutputTokens : Option Int)
    (clock : Instant) : Except PyError WorkflowBudget :=
  match h : WorkflowBudget.check deadlineSeconds maxAttempts maxOutputTokens with
  | .ok () => .ok ⟨deadlineSeconds, maxAttempts, maxOutputTokens, clock, 0, 0, h⟩
  | .error error => .error error

/-- `budget.remaining_seconds()`. -/
def WorkflowBudget.remainingSeconds (budget : WorkflowBudget) (clock : Instant) : ℚ :=
  max 0 (budget.deadlineSeconds - ((clock.micros : ℚ) - budget.started.micros) / 1000000)

/-- `budget.reserve_attempt()`. -/
def WorkflowBudget.reserveAttempt (budget : WorkflowBudget) (clock : Instant) :
    Except PyError Bool × WorkflowBudget :=
  if budget.remainingSeconds clock ≤ 0 ∨ budget.maxAttempts ≤ budget.attempts then
    (.ok false, budget)
  else (.ok true, { budget with attempts := budget.attempts + 1 })

/-- `budget.record_output_tokens(count)`. -/
def WorkflowBudget.recordOutputTokens (budget : WorkflowBudget) (count : Option Int) :
    Except PyError Bool × WorkflowBudget :=
  match count with
  | none => (.ok true, budget)
  | some count =>
      if count < 0 then (.error (.valueError "output token count cannot be negative"), budget)
      else if budget.maxOutputTokens.any fun limit =>
          decide (limit < budget.outputTokens + count) then (.ok false, budget)
      else (.ok true, { budget with outputTokens := budget.outputTokens + count })

/-- A call of a budget; a reservation reads the clock. -/
inductive BudgetCall where
  | reserveAttempt (clock : Instant)
  | recordOutputTokens (count : Option Int)

/-- The budget in memory as a machine. -/
def workflowBudget : Machine WorkflowBudget BudgetCall (Except PyError Bool) where
  step budget call :=
    match call with
    | .reserveAttempt clock => budget.reserveAttempt clock
    | .recordOutputTokens count => budget.recordOutputTokens count

/-! ### What a budget allows -/

/-- The call, as a request of an allowance that counts microseconds. -/
def BudgetCall.request : BudgetCall → Allowance.Request Int
  | .reserveAttempt clock => .reserve clock.micros
  | .recordOutputTokens count => .record count

/-- An allowance that is asked by calls of a budget. -/
def budgetAllowance : Machine (Allowance Int) BudgetCall Allowance.Reply where
  step allowance call := Allowance.step allowance call.request

/-- An answer as a reply; other errors than `ValueError` are none. -/
def budgetReply : Except PyError Bool → Option Allowance.Reply
  | .ok true => some .granted
  | .ok false => some .refused
  | .error (.valueError _) => some .invalid
  | .error _ => none

/-- The allowance of a budget: its deadline is the first microsecond at which
nothing remains. -/
def WorkflowBudget.allowance (budget : WorkflowBudget) : Allowance Int where
  deadline := budget.started.micros + ⌈budget.deadlineSeconds * 1000000⌉
  maxUses := budget.maxAttempts
  maxAmount := budget.maxOutputTokens
  uses := budget.attempts
  amount := budget.outputTokens

theorem remainingSeconds_le_iff (budget : WorkflowBudget) (clock : Instant) :
    budget.remainingSeconds clock ≤ 0 ↔ budget.allowance.deadline ≤ (clock.micros : Int) := by
  have hceil : budget.allowance.deadline ≤ (clock.micros : Int) ↔
      budget.deadlineSeconds * 1000000 ≤ ((clock.micros - budget.started.micros : Int) : ℚ) := by
    rw [← Int.ceil_le]
    show (budget.started.micros : Int) + ⌈budget.deadlineSeconds * 1000000⌉ ≤ clock.micros ↔ _
    omega
  rw [hceil]
  unfold WorkflowBudget.remainingSeconds
  rw [max_le_iff, and_iff_right (le_refl 0), sub_nonpos, le_div_iff₀ (by norm_num)]
  push_cast
  rfl

/-- **Refinement.**  The budget in memory does what its allowance does. -/
theorem workflowBudget_simulates :
    Machine.Simulates workflowBudget budgetAllowance some (fun _ _ => True)
      (fun budget allowance => budget.allowance = allowance) budgetReply some where
  unseen _ _ _ _ h := by cases h
  seen budget allowance input call hrelated hcall _ := by
    subst hrelated
    obtain rfl := Option.some.inj hcall
    cases input with
    | reserveAttempt clock =>
        show budgetReply (budget.reserveAttempt clock).1 =
            some (Allowance.step budget.allowance (.reserve clock.micros)).1 ∧
          (budget.reserveAttempt clock).2.allowance =
            (Allowance.step budget.allowance (.reserve clock.micros)).2
        have hiff := remainingSeconds_le_iff budget clock
        by_cases hrefused : budget.remainingSeconds clock ≤ 0 ∨
            budget.maxAttempts ≤ budget.attempts
        · have hrefused' : budget.allowance.deadline ≤ (clock.micros : Int) ∨
              budget.allowance.maxUses ≤ budget.allowance.uses := by
            rw [← hiff]
            exact hrefused
          unfold WorkflowBudget.reserveAttempt
          simp only [Allowance.step]
          rw [if_pos hrefused, if_pos hrefused']
          exact ⟨rfl, rfl⟩
        · have hgranted : ¬ (budget.allowance.deadline ≤ (clock.micros : Int) ∨
              budget.allowance.maxUses ≤ budget.allowance.uses) := by
            rw [← hiff]
            exact hrefused
          unfold WorkflowBudget.reserveAttempt
          simp only [Allowance.step]
          rw [if_neg hrefused, if_neg hgranted]
          exact ⟨rfl, rfl⟩
    | recordOutputTokens count =>
        cases count with
        | none => exact ⟨rfl, rfl⟩
        | some count =>
            show budgetReply (budget.recordOutputTokens (some count)).1 =
                some (Allowance.step budget.allowance (.record (some count))).1 ∧
              (budget.recordOutputTokens (some count)).2.allowance =
                (Allowance.step budget.allowance (.record (some count))).2
            unfold WorkflowBudget.recordOutputTokens
            simp only [Allowance.step]
            by_cases hnegative : count < 0
            · rw [if_pos hnegative, if_pos hnegative]
              exact ⟨rfl, rfl⟩
            · rw [if_neg hnegative, if_neg hnegative]
              by_cases hexceeds : Allowance.exceeds budget.maxOutputTokens
                  (budget.outputTokens + count) = true
              · have hrefused : Allowance.exceeds budget.allowance.maxAmount
                    (budget.allowance.amount + count) = true := hexceeds
                unfold Allowance.exceeds at hexceeds
                rw [if_pos hexceeds, if_pos hrefused]
                exact ⟨rfl, rfl⟩
              · have haccepted : ¬ Allowance.exceeds budget.allowance.maxAmount
                    (budget.allowance.amount + count) = true := hexceeds
                unfold Allowance.exceeds at hexceeds
                rw [if_neg hexceeds, if_neg haccepted]
                exact ⟨rfl, rfl⟩

end Workflows
end Ryuk
