import Mathlib.Logic.Function.Basic
import Mathlib.Logic.Relation
import Mathlib.Order.WellFounded
import Mathlib.Tactic

/-!
# Saturation under stable rules

A labelling of nodes in which some nodes wait, and rules that give a waiting node a
label.  The rules are stable: what may fire still may after other nodes were
labelled.  Then the order of the firings is irrelevant: every run that ends with no
rule left to fire ends in the least labelling that obeys the rules.

When a rule reads only the nodes that a node depends on, and the dependencies are
well founded, that labelling is also the only one in which every new label is
justified and nothing is left to do.
-/

namespace Ryuk
namespace Foundation
namespace Saturation

open Relation

section Labelling

variable {ι α : Type} (waiting : α)

/-- The later labelling differs at waiting nodes only. -/
def Refines (before after : ι → α) : Prop :=
  ∀ node, before node ≠ waiting → after node = before node

variable {waiting} {first second third : ι → α}

theorem Refines.refl (labels : ι → α) : Refines waiting labels labels := fun _ _ => rfl

theorem Refines.trans (hfirst : Refines waiting first second)
    (hsecond : Refines waiting second third) : Refines waiting first third := by
  intro node hnode
  have hsame := hfirst node hnode
  rw [hsecond node (hsame ▸ hnode), hsame]

theorem Refines.update [DecidableEq ι] {labels : ι → α} {node : ι} {label : α}
    (hnode : labels node = waiting) : Refines waiting labels (Function.update labels node label) := by
  intro other hother
  apply Function.update_of_ne
  rintro rfl
  exact hother hnode

end Labelling

/-- Rules that label waiting nodes.  A rule that may fire still may when more nodes
are labelled, and a node is never given two labels. -/
structure Rules (ι α : Type) where
  waiting : α
  fires : (ι → α) → ι → α → Prop
  labels : ∀ {labels node label}, fires labels node label → label ≠ waiting
  stable : ∀ {before after node label}, Refines waiting before after →
    fires before node label → fires after node label
  deterministic : ∀ {labels node label other}, fires labels node label →
    fires labels node other → label = other

namespace Rules

variable {ι α : Type} (rules : Rules ι α)

/-- No rule is left to fire. -/
def Settled (labels : ι → α) : Prop :=
  ∀ node, labels node = rules.waiting → ∀ label, ¬ rules.fires labels node label

/-- The later labelling obeys the rules: a node that waited has the label that a rule
gives it now. -/
def Obeys (before after : ι → α) : Prop :=
  Refines rules.waiting before after ∧
    ∀ node, before node = rules.waiting → ∀ label, rules.fires after node label →
      after node = label

/-- The later labelling is justified: a node that waited and has a label now has it
from a rule. -/
def Justified (before after : ι → α) : Prop :=
  Refines rules.waiting before after ∧
    ∀ node, before node = rules.waiting → after node ≠ rules.waiting →
      rules.fires after node (after node)

/-- One rule fires. -/
def Step [DecidableEq ι] (before after : ι → α) : Prop :=
  ∃ node label, before node = rules.waiting ∧ rules.fires before node label ∧
    after = Function.update before node label

variable {rules} {before middle after other : ι → α}

/-- A justified labelling with nothing left to fire obeys the rules. -/
theorem Justified.obeys (h : rules.Justified before after) (hsettled : rules.Settled after) :
    rules.Obeys before after := by
  refine ⟨h.1, fun node hnode label hfires => ?_⟩
  by_cases hafter : after node = rules.waiting
  · exact absurd hfires (hsettled node hafter label)
  · exact rules.deterministic (h.2 node hnode hafter) hfires

section Runs

variable [DecidableEq ι]

theorem Step.refines (h : rules.Step before after) : Refines rules.waiting before after := by
  obtain ⟨node, label, hnode, -, rfl⟩ := h
  exact Refines.update hnode

/-- **Step lemma.**  A firing keeps every labelling that obeys the rules above it. -/
theorem Step.below (h : rules.Step before after) (hobeys : rules.Obeys before other) :
    rules.Obeys after other := by
  obtain ⟨node, label, hnode, hfires, rfl⟩ := h
  have hlabel : other node = label := hobeys.2 node hnode label (rules.stable hobeys.1 hfires)
  constructor
  · intro found hfound
    by_cases hsame : found = node
    · subst hsame
      rw [Function.update_self, hlabel]
    · rw [Function.update_of_ne hsame] at hfound ⊢
      exact hobeys.1 found hfound
  · intro found hfound given hgiven
    by_cases hsame : found = node
    · subst hsame
      -- a node that was just labelled does not wait
      rw [Function.update_self] at hfound
      exact absurd hfound (rules.labels hfires)
    · rw [Function.update_of_ne hsame] at hfound
      exact hobeys.2 found hfound given hgiven

/-- **Step lemma.**  A firing keeps a labelling justified. -/
theorem Step.justified (h : rules.Step middle after) (hjustified : rules.Justified before middle) :
    rules.Justified before after := by
  have hrefines := h.refines
  obtain ⟨node, label, hnode, hfires, rfl⟩ := h
  refine ⟨hjustified.1.trans hrefines, fun found hfound hlabelled => ?_⟩
  by_cases hsame : found = node
  · subst hsame
    rw [Function.update_self]
    exact rules.stable hrefines hfires
  · rw [Function.update_of_ne hsame] at hlabelled ⊢
    exact rules.stable hrefines (hjustified.2 found hfound hlabelled)

/-- **Run lemma.**  What obeys the rules from the start stays above every run. -/
theorem run_below (hrun : ReflTransGen rules.Step before after)
    (hobeys : rules.Obeys before other) : rules.Obeys after other := by
  induction hrun with
  | refl => exact hobeys
  | tail _ hstep ih => exact hstep.below ih

/-- **Run lemma.**  Every label that a run gave is justified in the end. -/
theorem run_justified (hrun : ReflTransGen rules.Step before after) :
    rules.Justified before after := by
  induction hrun with
  | refl => exact ⟨Refines.refl _, fun _ hnode hlabelled => absurd hnode hlabelled⟩
  | tail _ hstep ih => exact hstep.justified ih

/-- **Leastness.**  A run that leaves nothing to fire ends in the least labelling
that obeys the rules. -/
theorem run_least (hrun : ReflTransGen rules.Step before after) (hsettled : rules.Settled after) :
    rules.Obeys before after ∧
      ∀ other, rules.Obeys before other → Refines rules.waiting after other :=
  ⟨(run_justified hrun).obeys hsettled, fun _ hobeys => (run_below hrun hobeys).1⟩

end Runs

/-- **Uniqueness.**  Over well-founded dependencies at most one justified labelling
leaves nothing to fire. -/
theorem Justified.unique {depends : ι → ι → Prop} (hwf : WellFounded (flip depends))
    (hlocal : ∀ {labels labels' : ι → α} {node label},
      (∀ dependency, depends node dependency → labels dependency = labels' dependency) →
      rules.fires labels node label → rules.fires labels' node label)
    (h : rules.Justified before after) (hsettled : rules.Settled after)
    (h' : rules.Justified before other) (hsettled' : rules.Settled other) : after = other := by
  funext node
  induction node using hwf.induction with
  | h node ih =>
      by_cases hnode : before node = rules.waiting
      · -- the labels of the dependencies decide what fires
        by_cases hlabelled : after node = rules.waiting
        · by_cases hlabelled' : other node = rules.waiting
          · rw [hlabelled, hlabelled']
          · have hfires := hlocal (fun dependency hdependency => (ih dependency hdependency).symm)
              (h'.2 node hnode hlabelled')
            exact absurd hfires (hsettled node hlabelled _)
        · have hfires := hlocal ih (h.2 node hnode hlabelled)
          exact ((h'.obeys hsettled').2 node hnode _ hfires).symm
      · rw [h.1 node hnode, h'.1 node hnode]

end Rules

end Saturation
end Foundation
end Ryuk
