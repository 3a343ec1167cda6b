import Mathlib.Logic.Relation
import Mathlib.Order.WellFounded
import Mathlib.Tactic

/-!
# Acyclic dependencies

Nodes depend on nodes.  Peeling removes, round by round, the nodes whose
dependencies are all gone; when it removes everything, the rounds rank the nodes
and the dependency relation is well founded.

Over a well-founded dependency relation a labelling that is right for the direct
dependencies of every node is right for the transitive ones: `Consistent` is the
local condition, `skipped_iff`, `blocked_iff` and `scheduled_succeeded` are the
global ones, and `exists_active` says that nothing waits in vain.
-/

namespace Ryuk
namespace Foundation
namespace Dependency

open Relation

/-! ### Peeling -/

section Peeling

variable {ι : Type} [DecidableEq ι]

/-- Whether a node has no dependency among the remaining ones. -/
def free (dependencies : ι → List ι) (remaining : List ι) (node : ι) : Bool :=
  (dependencies node).all fun dependency => decide (dependency ∉ remaining)

/-- Remove the free nodes until nothing remains; `false` when no node is free.
The fuel is the number of rounds. -/
def peel (dependencies : ι → List ι) : Nat → List ι → Bool
  | 0, remaining => remaining.isEmpty
  | fuel + 1, remaining =>
      if remaining.isEmpty then true
      else if remaining.any (free dependencies remaining) then
        peel dependencies fuel
          (remaining.filter fun node => !free dependencies remaining node)
      else false

/-- A rank of the nodes above their dependencies. -/
def Ranked (dependencies : ι → List ι) (nodes : List ι) : Prop :=
  ∃ rank : ι → Nat, ∀ node ∈ nodes, ∀ dependency ∈ dependencies node, dependency ∈ nodes →
    rank dependency < rank node

/-- Peeling that removes every node ranks them by the round that removed them. -/
theorem ranked_of_peel {dependencies : ι → List ι} {fuel : Nat} {nodes : List ι}
    (h : peel dependencies fuel nodes = true) : Ranked dependencies nodes := by
  induction fuel generalizing nodes with
  | zero =>
      rw [peel, List.isEmpty_iff] at h
      subst h
      exact ⟨fun _ => 0, by simp⟩
  | succ fuel ih =>
      rw [peel] at h
      split_ifs at h with hempty hfree
      · rw [List.isEmpty_iff] at hempty
        subst hempty
        exact ⟨fun _ => 0, by simp⟩
      · obtain ⟨rank, hrank⟩ := ih h
        -- the free nodes come first, the others one round later than in the rest
        refine ⟨fun node => if free dependencies nodes node then 0 else rank node + 1, ?_⟩
        intro node hnode dependency hdependency hmem
        have hheld : free dependencies nodes node = false := by
          by_contra hnot
          have hall : free dependencies nodes node = true := by simpa using hnot
          have := List.all_eq_true.mp hall dependency hdependency
          simp [hmem] at this
        simp only [hheld, Bool.false_eq_true, if_false]
        by_cases hfirst : free dependencies nodes dependency = true
        · simp only [hfirst, if_true]
          omega
        · have hlater : free dependencies nodes dependency = false := by simpa using hfirst
          simp only [hlater, Bool.false_eq_true, if_false]
          have hlt := hrank node (List.mem_filter.mpr ⟨hnode, by simp [hheld]⟩) dependency
            hdependency (List.mem_filter.mpr ⟨hmem, by simp [hlater]⟩)
          omega

end Peeling

/-! ### Labellings -/

/-- How a node stands for the nodes that depend on it. -/
inductive Standing where
  | blocked
  | active
  | succeeded
  | failed
  | skipped
  deriving DecidableEq

section Labelling

variable {ι : Type} {depends : ι → ι → Prop} {standing : ι → Standing}

/-- A relation along which a rank falls is well founded. -/
theorem wellFounded_of_rank (rank : ι → Nat)
    (h : ∀ node other, depends node other → rank other < rank node) :
    WellFounded (flip depends) :=
  Subrelation.wf (fun {other node} hstep => h node other hstep) (measure rank).wf

/-- **Sink rule.**  What holds of every node that nothing depends on, and holds of
a node once it holds of one that depends on it, holds of all nodes. -/
theorem holds_of_sinks {nodes : List ι} (rank : ι → Nat)
    (hrank : ∀ node other, depends node other → rank other < rank node) {holds : ι → Prop}
    (hsink : ∀ other ∈ nodes, (∀ node ∈ nodes, ¬ depends node other) → holds other)
    (hdown : ∀ node other, depends node other → holds node → holds other) :
    ∀ node ∈ nodes, holds node := by
  have hbound : ∀ node ∈ nodes, rank node ≤ (nodes.map rank).sum := fun node hnode =>
    List.le_sum_of_mem (List.mem_map_of_mem hnode)
  generalize (nodes.map rank).sum = bound at hbound
  -- induction on what is left above the node
  intro node hnode
  induction hleft : bound - rank node using Nat.strong_induction_on generalizing node with
  | h left ih =>
      by_cases hnone : ∀ above ∈ nodes, ¬ depends above node
      · exact hsink node hnode hnone
      · push Not at hnone
        obtain ⟨above, habove, hstep⟩ := hnone
        apply hdown above node hstep
        apply ih (bound - rank above) _ above habove rfl
        have hlt := hrank above node hstep
        have hle := hbound above habove
        omega

/-- A labelling that is right for direct dependencies. -/
structure Consistent (depends : ι → ι → Prop) (standing : ι → Standing) : Prop where
  blocked : ∀ node, standing node = .blocked →
    (∃ other, depends node other ∧ standing other ≠ .succeeded) ∧
      ∀ other, depends node other → standing other ≠ .failed ∧ standing other ≠ .skipped
  skipped : ∀ node, standing node = .skipped →
    ∃ other, depends node other ∧ (standing other = .failed ∨ standing other = .skipped)
  scheduled : ∀ node, standing node ≠ .blocked → standing node ≠ .skipped →
    ∀ other, depends node other → standing other = .succeeded

/-- A scheduled node has only succeeded transitive dependencies. -/
theorem Consistent.scheduled_succeeded (h : Consistent depends standing) {node other : ι}
    (hblocked : standing node ≠ .blocked) (hskipped : standing node ≠ .skipped)
    (hpath : TransGen depends node other) : standing other = .succeeded := by
  induction hpath with
  | single hstep => exact h.scheduled node hblocked hskipped _ hstep
  | tail hpath hstep ih =>
      refine h.scheduled _ ?_ ?_ _ hstep
      · rw [ih]
        decide
      · rw [ih]
        decide

/-- A failed transitive dependency makes a node skipped. -/
theorem Consistent.skipped_of_failed (h : Consistent depends standing) {node other : ι}
    (hpath : TransGen depends node other) (hfailed : standing other = .failed) :
    standing node = .skipped := by
  -- along the path from its end, every node has a dependency that failed or was skipped
  have hdirect : ∀ node other, depends node other →
      (standing other = .failed ∨ standing other = .skipped) → standing node = .skipped := by
    intro node other hstep hother
    by_contra hnode
    by_cases hblocked : standing node = .blocked
    · obtain ⟨hnot, hnot'⟩ := (h.blocked node hblocked).2 other hstep
      rcases hother with hother | hother
      · exact hnot hother
      · exact hnot' hother
    · have hsucceeded := h.scheduled node hblocked hnode other hstep
      rw [hsucceeded] at hother
      rcases hother with hother | hother <;> cases hother
  induction hpath using TransGen.head_induction_on with
  | single hstep => exact hdirect _ _ hstep (Or.inl hfailed)
  | head hstep _ ih => exact hdirect _ _ hstep (Or.inr ih)

/-- A node is skipped exactly when some transitive dependency failed. -/
theorem Consistent.skipped_iff (h : Consistent depends standing)
    (hwf : WellFounded (flip depends)) (node : ι) :
    standing node = .skipped ↔ ∃ other, TransGen depends node other ∧ standing other = .failed := by
  constructor
  · induction node using hwf.induction with
    | h node ih =>
        intro hskipped
        obtain ⟨next, hstep, hnext | hnext⟩ := h.skipped node hskipped
        · exact ⟨next, TransGen.single hstep, hnext⟩
        · obtain ⟨other, hpath, hfailed⟩ := ih next hstep hnext
          exact ⟨other, TransGen.head hstep hpath, hfailed⟩
  · rintro ⟨other, hpath, hfailed⟩
    exact h.skipped_of_failed hpath hfailed

/-- A blocked node waits for an active transitive dependency. -/
theorem Consistent.active_of_blocked (h : Consistent depends standing)
    (hwf : WellFounded (flip depends)) (node : ι) (hblocked : standing node = .blocked) :
    ∃ other, TransGen depends node other ∧ standing other = .active := by
  induction node using hwf.induction with
  | h node ih =>
      obtain ⟨⟨next, hstep, hunfinished⟩, hnone⟩ := h.blocked node hblocked
      obtain ⟨hfailed, hskipped⟩ := hnone next hstep
      cases hnext : standing next with
      | active => exact ⟨next, TransGen.single hstep, hnext⟩
      | blocked =>
          obtain ⟨other, hpath, hactive⟩ := ih next hstep hnext
          exact ⟨other, TransGen.head hstep hpath, hactive⟩
      | succeeded => exact absurd hnext hunfinished
      | failed => exact absurd hnext hfailed
      | skipped => exact absurd hnext hskipped

/-- A node is blocked exactly when no transitive dependency failed and some is
active. -/
theorem Consistent.blocked_iff (h : Consistent depends standing)
    (hwf : WellFounded (flip depends)) (node : ι) :
    standing node = .blocked ↔
      (¬ ∃ other, TransGen depends node other ∧ standing other = .failed) ∧
        ∃ other, TransGen depends node other ∧ standing other = .active := by
  constructor
  · intro hblocked
    refine ⟨?_, h.active_of_blocked hwf node hblocked⟩
    rw [← h.skipped_iff hwf node, hblocked]
    decide
  · rintro ⟨hnone, other, hpath, hactive⟩
    rw [← h.skipped_iff hwf node] at hnone
    by_contra hblocked
    have hsucceeded := h.scheduled_succeeded hblocked hnone hpath
    rw [hactive] at hsucceeded
    cases hsucceeded

/-! ### One labelling for given outcomes -/

/-- A node that its dependencies block, free or rule out. -/
def Standing.Open (own : Standing) : Prop := own = .blocked ∨ own = .active ∨ own = .skipped

variable {standing' : ι → Standing} {node : ι}

/-- What blocks a node blocks it under every labelling of its dependencies that
agrees. -/
theorem Consistent.blocked_of_agree (h : Consistent depends standing)
    (h' : Consistent depends standing')
    (hagree : ∀ other, depends node other → standing' other = standing other)
    (hblocked : standing node = .blocked) : standing' node = .blocked := by
  obtain ⟨⟨other, hother, hunfinished⟩, hnone⟩ := h.blocked node hblocked
  by_contra hnot
  by_cases hskipped : standing' node = .skipped
  · obtain ⟨culprit, hculprit, hfailed⟩ := h'.skipped node hskipped
    rw [hagree culprit hculprit] at hfailed
    exact hfailed.elim (hnone culprit hculprit).1 (hnone culprit hculprit).2
  · have hsucceeded := h'.scheduled node hnot hskipped other hother
    rw [hagree other hother] at hsucceeded
    exact hunfinished hsucceeded

/-- What rules a node out rules it out under every labelling of its dependencies
that agrees. -/
theorem Consistent.skipped_of_agree (h : Consistent depends standing)
    (h' : Consistent depends standing')
    (hagree : ∀ other, depends node other → standing' other = standing other)
    (hskipped : standing node = .skipped) : standing' node = .skipped := by
  obtain ⟨other, hother, hfailed⟩ := h.skipped node hskipped
  rw [← hagree other hother] at hfailed
  by_contra hnot
  by_cases hblocked : standing' node = .blocked
  · exact hfailed.elim (((h'.blocked node hblocked).2 other hother).1)
      (((h'.blocked node hblocked).2 other hother).2)
  · have hsucceeded := h'.scheduled node hblocked hnot other hother
    rw [hsucceeded] at hfailed
    rcases hfailed with hfailed | hfailed <;> cases hfailed

/-- **Uniqueness.**  Consistent labellings that differ at open nodes only do not
differ. -/
theorem Consistent.unique (h : Consistent depends standing) (h' : Consistent depends standing')
    (hwf : WellFounded (flip depends))
    (hopen : ∀ node, standing node = standing' node ∨
      ((standing node).Open ∧ (standing' node).Open)) : standing = standing' := by
  funext node
  induction node using hwf.induction with
  | h node ih =>
      rcases hopen node with hsame | ⟨hfirst, hsecond⟩
      · exact hsame
      · -- the dependencies agree, and they decide
        have hagree : ∀ other, depends node other → standing' other = standing other :=
          fun other hother => (ih other hother).symm
        have hagree' : ∀ other, depends node other → standing other = standing' other :=
          fun other hother => ih other hother
        rcases hfirst with hblocked | hactive | hskipped
        · rw [hblocked, h.blocked_of_agree h' hagree hblocked]
        · rcases hsecond with hblocked' | hactive' | hskipped'
          · rw [hblocked', h'.blocked_of_agree h hagree' hblocked']
          · rw [hactive, hactive']
          · rw [hskipped', h'.skipped_of_agree h hagree' hskipped']
        · rw [hskipped, h.skipped_of_agree h' hagree hskipped]

end Labelling

end Dependency
end Foundation
end Ryuk
