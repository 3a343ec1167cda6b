import Ryuk.Foundation.Confinement
import Ryuk.Foundation.Interaction

/-!
# Secluded scripts

A script whose transactions are confined to the part of a principal ends the same way from two
states that show the principal the same, whatever others do in between to their own parts.  And
it leaves alone what the others are shown.
-/

namespace Ryuk
namespace Foundation
/-! ### Histories -/

namespace Machine

variable {σ ι ο κ ρ : Type} {machine : Machine σ ι ο} {follow : ι → Option κ}
  {allowed : σ → ι → Prop} {alike : σ → σ → Prop} {read : ο → ρ} {left right : σ}

/-- Inputs nobody observes keep likeness. -/
theorem Unwinds.after_unseen (h : Unwinds machine follow allowed alike read)
    (halike : alike left right) {inputs : List ι} (hallowed : machine.AllowedRun allowed left inputs)
    (hunseen : ∀ input ∈ inputs, follow input = none) : alike (machine.after left inputs) right := by
  induction inputs generalizing left with
  | nil => exact halike
  | cons input rest ih =>
      have hstep := h.unseen left right input halike (hunseen input List.mem_cons_self) hallowed.1
      exact ih hstep hallowed.2 fun later hmem => hunseen later (List.mem_cons_of_mem _ hmem)

/-- Runs with the same observed inputs end in states that are alike. -/
theorem Unwinds.after_alike (h : Unwinds machine follow allowed alike read)
    (halike : alike left right) {first second : List ι}
    (hfirst : machine.AllowedRun allowed left first)
    (hsecond : machine.AllowedRun allowed right second)
    (hsame : first.filterMap follow = second.filterMap follow) :
    alike (machine.after left first) (machine.after right second) := by
  induction first generalizing left right second with
  | nil =>
      rw [after_nil]
      apply h.symm
      apply h.after_unseen (h.symm _ _ halike) hsecond
      exact fun input hmem => List.filterMap_eq_nil_iff.mp hsame.symm input hmem
  | cons input rest ih =>
      rw [after_cons]
      cases hfollow : follow input with
      | none =>
          rw [List.filterMap_cons_none hfollow] at hsame
          exact ih (h.unseen left right input halike hfollow hfirst.1) hfirst.2 hsecond hsame
      | some call =>
          rw [List.filterMap_cons_some hfollow] at hsame
          -- the other run comes to the same call, after inputs nobody observes
          induction second generalizing right with
          | nil => cases hsame
          | cons input' rest' ih' =>
              rw [after_cons]
              cases hfollow' : follow input' with
              | none =>
                  rw [List.filterMap_cons_none hfollow'] at hsame
                  have hstep := h.symm _ _
                    (h.unseen right left input' (h.symm _ _ halike) hfollow' hsecond.1)
                  exact ih' hstep hsecond.2 hsame
              | some call' =>
                  rw [List.filterMap_cons_some hfollow', List.cons.injEq] at hsame
                  obtain ⟨rfl, hsame⟩ := hsame
                  have hnext := (h.seen left right input input' call halike hfollow hfollow'
                    hfirst.1 hsecond.1).2
                  exact ih hnext hfirst.2 hsecond.2 hsame

end Machine

/-! ### Scripts -/

namespace Script

open Transaction

variable {σ σ' ε φ ψ α β κ : Type}

/-- Every transaction is confined to the part of `own` in states that satisfy `holds`.  The first
one may also rely on `fresh`. -/
def Secluded (view : κ → σ → σ) (own : κ) (holds fresh : σ → Prop) : Script σ ε φ α → Prop
  | .done _ => True
  | .call body next => Confined view own (fun state => holds state ∧ fresh state) holds body ∧
      ∀ answer, (next answer).Secluded view own holds fun _ => True

section Rules

variable {view : κ → σ → σ} {own : κ} {holds fresh : σ → Prop}

theorem secluded_done {result : Except φ α} :
    (lift result : Script σ ε φ α).Secluded view own holds fresh := trivial

theorem Secluded.weaken {script : Script σ ε φ α}
    (h : script.Secluded view own holds fun _ => True) :
    script.Secluded view own holds fresh := by
  cases script with
  | done result => trivial
  | call body next =>
      exact ⟨h.1.weaken (fun state hstate => ⟨hstate.1, trivial⟩) fun _ hstate => hstate, h.2⟩

theorem secluded_bind {script : Script σ ε φ α} {rest : α → Script σ ε φ β}
    (h : script.Secluded view own holds fresh)
    (hrest : ∀ value, (rest value).Secluded view own holds fun _ => True) :
    (script >>= rest).Secluded view own holds fresh := by
  show (script.andThen rest).Secluded view own holds fresh
  induction script generalizing fresh with
  | done result =>
      cases result with
      | ok value => exact (hrest value).weaken
      | error failure => trivial
  | call body next ih => exact ⟨h.1, fun answer => ih answer (h.2 answer)⟩

theorem secluded_map {change : α → β} {script : Script σ ε φ α}
    (h : script.Secluded view own holds fresh) :
    (change <$> script).Secluded view own holds fresh := secluded_bind h fun _ => trivial

theorem secluded_handle {handler : Except φ α → Except ψ β} {script : Script σ ε φ α}
    (h : script.Secluded view own holds fresh) :
    (script.handle handler).Secluded view own holds fresh := by
  induction script generalizing fresh with
  | done result => trivial
  | call body next ih => exact ⟨h.1, fun answer => ih answer (h.2 answer)⟩

theorem secluded_transact {raised : ε → φ} {body : Transaction σ ε α}
    (h : Confined view own holds holds body) :
    (transact raised body).Secluded view own holds fresh :=
  ⟨h.weaken (fun _ hstate => hstate.1) fun _ hstate => hstate, fun _ => trivial⟩

/-- The transaction that relies on `fresh`. -/
theorem secluded_first {raised : ε → φ} {body : Transaction σ ε α}
    (h : Confined view own (fun state => holds state ∧ fresh state) holds body) :
    (transact raised body).Secluded view own holds fresh := ⟨h, fun _ => trivial⟩

end Rules

/-! ### Runs -/

/-- The moves of others that leave alone what a principal is shown, and what its script relies
on. -/
structure Spares (view : κ → σ → σ) (own : κ) (holds fresh : σ → Prop) (before after : σ) :
    Prop where
  shown : view own after = view own before
  holds : holds after
  fresh : fresh before → fresh after

section Runs

variable {view : κ → σ → σ} {own other : κ} {holds fresh : σ → Prop} {rely : σ → σ → Prop}
  {state left right final final' : σ}

theorem Spares.later {before after : σ} (h : Spares view own holds fresh before after) :
    Spares view own holds (fun _ => True) before after := ⟨h.shown, h.holds, fun _ => trivial⟩

/-- **Noninterference.**  From two states that show the principal the same, a secluded script
ends the same way in every two runs, and shows the principal the same at the end. -/
theorem Secluded.runs {script : Script σ ε φ α} {outcome outcome' : Except φ α}
    (hrely : ∀ before after, rely before after → holds before →
      Spares view own holds fresh before after)
    (h : script.Secluded view own holds fresh) (halike : view own left = view own right)
    (hleft : holds left ∧ fresh left) (hright : holds right ∧ fresh right)
    (hruns : script.Runs rely left outcome final) (hruns' : script.Runs rely right outcome' final') :
    outcome = outcome' ∧ view own final = view own final' := by
  induction script generalizing fresh left right with
  | done result =>
      obtain ⟨rfl, rfl⟩ := hruns
      obtain ⟨rfl, rfl⟩ := hruns'
      exact ⟨rfl, halike⟩
  | call body next ih =>
      obtain ⟨before, hothers, hrest⟩ := hruns
      obtain ⟨before', hothers', hrest'⟩ := hruns'
      have hspares := hrely _ _ hothers hleft.1
      have hspares' := hrely _ _ hothers' hright.1
      -- both transactions start from states that show the same
      have hshowing : Showing (view own) (fun state => holds state ∧ fresh state) before before' :=
        ⟨(hspares.shown.trans halike).trans hspares'.shown.symm,
          ⟨hspares.holds, hspares.fresh hleft.2⟩, ⟨hspares'.holds, hspares'.fresh hright.2⟩⟩
      obtain ⟨hanswer, hnext⟩ := h.1.secure.commit
        (fun left right hsame => ⟨hsame.1, hsame.2.1.1, hsame.2.2.1⟩) hshowing
      rw [← hanswer] at hrest'
      exact ih _ (fun first second hmoves hholds => (hrely first second hmoves hholds).later)
        (h.2 _) hnext.1 ⟨hnext.2.1, trivial⟩ ⟨hnext.2.2, trivial⟩ hrest hrest'

/-- A secluded script leaves alone what another principal is shown. -/
theorem Secluded.silent {script : Script σ ε φ α} {outcome : Except φ α} (hother : other ≠ own)
    (hrely : ∀ before after, rely before after → holds before →
      Spares view other holds fresh before after)
    (h : script.Secluded view own holds fresh) (hstate : holds state ∧ fresh state)
    (hruns : script.Runs rely state outcome final) : view other final = view other state := by
  induction script generalizing fresh state with
  | done result =>
      obtain ⟨-, rfl⟩ := hruns
      rfl
  | call body next ih =>
      obtain ⟨before, hothers, hrest⟩ := hruns
      have hspares := hrely _ _ hothers hstate.1
      have hbefore : holds before ∧ fresh before := ⟨hspares.holds, hspares.fresh hstate.2⟩
      have hcommit : view other (commit body before).2 = view other before ∧
          holds (commit body before).2 := by
        rcases commit_cases body before with ⟨result, -, hok⟩ | ⟨-, hsame⟩
        · exact ⟨h.1.silent other hother before result _ hbefore hok, h.1.holds hbefore hok⟩
        · rw [hsame]
          exact ⟨rfl, hspares.holds⟩
      have hrestSame := ih _ (fun first second hmoves hholds =>
        (hrely first second hmoves hholds).later) (h.2 _) ⟨hcommit.2, trivial⟩ hrest
      rw [hrestSame, hcommit.1, hspares.shown]

end Runs

/-! ### Pairs of states -/

/-- A script on the first component. -/
def onFirst : Script σ ε φ α → Script (σ × σ') ε φ α
  | .done result => .done result
  | .call body next => .call (Transaction.onFirst body) fun answer => (next answer).onFirst

/-- A script on the second component. -/
def onSecond : Script σ' ε φ α → Script (σ × σ') ε φ α
  | .done result => .done result
  | .call body next => .call (Transaction.onSecond body) fun answer => (next answer).onSecond

section Pairs

variable {view : κ → σ → σ} {view' : κ → σ' → σ'} {own : κ}

theorem Secluded.onFirst {holds fresh : σ → Prop} {script : Script σ ε φ α}
    (h : script.Secluded view own holds fresh) (condition : σ' → Prop) :
    script.onFirst.Secluded
      (fun principal (state : σ × σ') => (view principal state.1, view' principal state.2)) own
      (fun state => holds state.1 ∧ condition state.2) (fun state => fresh state.1) := by
  induction script generalizing fresh with
  | done result => trivial
  | call body next ih =>
      refine ⟨?_, fun answer => ih answer (h.2 answer)⟩
      exact (h.1.onFirst condition).weaken (fun _ hstate => ⟨⟨hstate.1.1, hstate.2⟩, hstate.1.2⟩)
        fun _ hstate => hstate

theorem Secluded.onSecond {holds fresh : σ' → Prop} {script : Script σ' ε φ α}
    (h : script.Secluded view' own holds fresh) (condition : σ → Prop) :
    script.onSecond.Secluded
      (fun principal (state : σ × σ') => (view principal state.1, view' principal state.2)) own
      (fun state => condition state.1 ∧ holds state.2) (fun state => fresh state.2) := by
  induction script generalizing fresh with
  | done result => trivial
  | call body next ih =>
      refine ⟨?_, fun answer => ih answer (h.2 answer)⟩
      exact (h.1.onSecond condition).weaken
        (fun _ hstate => ⟨hstate.1.1, ⟨hstate.1.2, hstate.2⟩⟩) fun _ hstate => hstate

end Pairs

end Script
end Foundation
end Ryuk
