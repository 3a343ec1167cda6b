import Ryuk.Foundation.Simulation

/-!
# Allowances

An allowance grants a bounded number of uses before a deadline, and keeps count of
an amount that may be bounded as well.  Times come from any linear order; nothing
is assumed of the readings of a clock, not even that they rise.
-/

namespace Ryuk
namespace Foundation

/-- What may be used, until when, and what was used of it. -/
structure Allowance (τ : Type) where
  deadline : τ
  maxUses : Int
  maxAmount : Option Int
  uses : Int
  amount : Int

namespace Allowance

variable {τ : Type}

/-- A use, or an amount to be counted; an unknown amount is not counted. -/
inductive Request (τ : Type) where
  | reserve (now : τ)
  | record (count : Option Int)

inductive Reply where
  | granted
  | refused
  | invalid
  deriving DecidableEq

/-- The amount goes beyond the bound. -/
def exceeds (bound : Option Int) (amount : Int) : Bool :=
  bound.any fun limit => decide (limit < amount)

section Steps

variable [LinearOrder τ]

def step (allowance : Allowance τ) : Request τ → Reply × Allowance τ
  | .reserve now =>
      if allowance.deadline ≤ now ∨ allowance.maxUses ≤ allowance.uses then (.refused, allowance)
      else (.granted, { allowance with uses := allowance.uses + 1 })
  | .record none => (.granted, allowance)
  | .record (some count) =>
      if count < 0 then (.invalid, allowance)
      else if exceeds allowance.maxAmount (allowance.amount + count) then (.refused, allowance)
      else (.granted, { allowance with amount := allowance.amount + count })

/-- The allowance as a machine. -/
def machine : Machine (Allowance τ) (Request τ) Reply where
  step := step

/-- A granted use. -/
def grantedUse : Request τ → Reply → Int
  | .reserve _, .granted => 1
  | _, _ => 0

/-- An accepted amount. -/
def acceptedAmount : Request τ → Reply → Int
  | .record (some count), .granted => count
  | _, _ => 0

variable {allowance : Allowance τ} {requests : List (Request τ)}

/-! ### One step -/

theorem next_limits (allowance : Allowance τ) (request : Request τ) :
    (machine.next allowance request).deadline = allowance.deadline ∧
      (machine.next allowance request).maxUses = allowance.maxUses ∧
      (machine.next allowance request).maxAmount = allowance.maxAmount := by
  show (step allowance request).2.deadline = _ ∧ (step allowance request).2.maxUses = _ ∧
    (step allowance request).2.maxAmount = _
  cases request with
  | reserve now =>
      simp only [step]
      split_ifs
      · exact ⟨rfl, rfl, rfl⟩
      · exact ⟨rfl, rfl, rfl⟩
  | record count =>
      cases count with
      | none => exact ⟨rfl, rfl, rfl⟩
      | some count =>
          simp only [step]
          split_ifs
          · exact ⟨rfl, rfl, rfl⟩
          · exact ⟨rfl, rfl, rfl⟩
          · exact ⟨rfl, rfl, rfl⟩

theorem next_uses (allowance : Allowance τ) (request : Request τ) :
    (machine.next allowance request).uses =
      allowance.uses + grantedUse request (machine.answer allowance request) := by
  show (step allowance request).2.uses = allowance.uses + grantedUse request (step allowance request).1
  cases request with
  | reserve now =>
      simp only [step]
      split_ifs
      · simp [grantedUse]
      · simp [grantedUse]
  | record count =>
      have hnone : ∀ reply, grantedUse (.record count : Request τ) reply = 0 := by
        intro reply
        rfl
      rw [hnone]
      cases count with
      | none => simp [step]
      | some count =>
          simp only [step]
          split_ifs <;> simp

theorem next_amount (allowance : Allowance τ) (request : Request τ) :
    (machine.next allowance request).amount =
      allowance.amount + acceptedAmount request (machine.answer allowance request) := by
  show (step allowance request).2.amount =
    allowance.amount + acceptedAmount request (step allowance request).1
  cases request with
  | reserve now =>
      simp only [step]
      split_ifs <;> simp [acceptedAmount]
  | record count =>
      cases count with
      | none => simp [step, acceptedAmount]
      | some count =>
          simp only [step]
          split_ifs <;> simp [acceptedAmount]

/-! ### Within the bounds -/

/-- What was used is within the bounds. -/
structure Within (allowance : Allowance τ) : Prop where
  uses_nonneg : 0 ≤ allowance.uses
  uses_le : allowance.uses ≤ allowance.maxUses
  amount_nonneg : 0 ≤ allowance.amount
  amount_le : ∀ limit ∈ allowance.maxAmount, allowance.amount ≤ limit

theorem not_exceeds {bound : Option Int} {amount : Int} (h : exceeds bound amount = false) :
    ∀ limit ∈ bound, amount ≤ limit := by
  rintro limit hlimit
  rw [Option.mem_def] at hlimit
  rw [hlimit] at h
  simp only [exceeds, Option.any_some, decide_eq_false_iff_not] at h
  omega

/-- **Step lemma.** -/
theorem Within.next (allowance : Allowance τ) (request : Request τ) (h : Within allowance) :
    Within (machine.next allowance request) := by
  show Within (step allowance request).2
  cases request with
  | reserve now =>
      simp only [step]
      split_ifs with hrefused
      · exact h
      · push Not at hrefused
        have hlow := h.uses_nonneg
        refine ⟨?_, ?_, h.amount_nonneg, h.amount_le⟩
        · show 0 ≤ allowance.uses + 1
          omega
        · show allowance.uses + 1 ≤ allowance.maxUses
          omega
  | record count =>
      cases count with
      | none => exact h
      | some count =>
          simp only [step]
          split_ifs with hnegative hexceeds
          · exact h
          · exact h
          · have hlow := h.amount_nonneg
            refine ⟨h.uses_nonneg, h.uses_le, ?_, not_exceeds (by simpa using hexceeds)⟩
            show 0 ≤ allowance.amount + count
            omega

/-- **Run lemma.** -/
theorem Within.after (h : Within allowance) : Within (machine.after allowance requests) :=
  Machine.after_invariant Within.next h requests

theorem after_limits (allowance : Allowance τ) (requests : List (Request τ)) :
    (machine.after allowance requests).deadline = allowance.deadline ∧
      (machine.after allowance requests).maxUses = allowance.maxUses ∧
      (machine.after allowance requests).maxAmount = allowance.maxAmount := by
  induction requests generalizing allowance with
  | nil => exact ⟨rfl, rfl, rfl⟩
  | cons request rest ih =>
      obtain ⟨hdeadline, huses, hamount⟩ := next_limits allowance request
      obtain ⟨hdeadline', huses', hamount'⟩ := ih (machine.next allowance request)
      exact ⟨hdeadline'.trans hdeadline, huses'.trans huses, hamount'.trans hamount⟩

/-- What was used never becomes less. -/
theorem next_le (allowance : Allowance τ) (request : Request τ) :
    allowance.uses ≤ (machine.next allowance request).uses ∧
      allowance.amount ≤ (machine.next allowance request).amount := by
  show allowance.uses ≤ (step allowance request).2.uses ∧
    allowance.amount ≤ (step allowance request).2.amount
  cases request with
  | reserve now =>
      simp only [step]
      split_ifs
      · exact ⟨Int.le_refl _, Int.le_refl _⟩
      · exact ⟨by show allowance.uses ≤ allowance.uses + 1; omega, Int.le_refl _⟩
  | record count =>
      cases count with
      | none => exact ⟨Int.le_refl _, Int.le_refl _⟩
      | some count =>
          simp only [step]
          split_ifs with hnegative
          · exact ⟨Int.le_refl _, Int.le_refl _⟩
          · exact ⟨Int.le_refl _, Int.le_refl _⟩
          · refine ⟨Int.le_refl _, ?_⟩
            show allowance.amount ≤ allowance.amount + count
            omega

theorem after_le (allowance : Allowance τ) (requests : List (Request τ)) :
    allowance.uses ≤ (machine.after allowance requests).uses ∧
      allowance.amount ≤ (machine.after allowance requests).amount := by
  induction requests generalizing allowance with
  | nil => exact ⟨Int.le_refl _, Int.le_refl _⟩
  | cons request rest ih =>
      obtain ⟨huses, hamount⟩ := next_le allowance request
      obtain ⟨huses', hamount'⟩ := ih (machine.next allowance request)
      exact ⟨huses.trans huses', hamount.trans hamount'⟩

/-- No use is granted once the deadline has come. -/
theorem refused_of_deadline (allowance : Allowance τ) (requests : List (Request τ)) :
    ∀ now reply, (Request.reserve now, reply) ∈ machine.answers allowance requests →
      allowance.deadline ≤ now → reply = .refused := by
  induction requests generalizing allowance with
  | nil =>
      intro now reply hmem
      cases hmem
  | cons request rest ih =>
      intro now reply hmem hdeadline
      rw [Machine.answers_cons] at hmem
      rcases List.mem_cons.mp hmem with hhead | htail
      · obtain ⟨rfl, rfl⟩ := Prod.mk.inj hhead
        show (step allowance (.reserve now)).1 = .refused
        simp only [step]
        rw [if_pos (Or.inl hdeadline)]
      · apply ih (machine.next allowance request) now reply htail
        rw [(next_limits allowance request).1]
        exact hdeadline

end Steps

end Allowance
end Foundation
end Ryuk
