import Ryuk.Foundation.Machine

/-!
# Registers that only grow

A register keeps what was registered first under a key: an identity and the digest
of the request that came with it.  When every step of a machine leaves the register
alone or adds a registration under a fresh key, whatever was registered stays, and a
key never stands for two identities, at any two times of a run.
-/

namespace Ryuk
namespace Foundation
namespace Registry

/-- What is registered under a key. -/
structure Registration (κ ι δ : Type) where
  key : κ
  identity : ι
  digest : δ

variable {κ ι δ : Type} {before after : List (Registration κ ι δ)}

/-- The register is as before, or has one registration more, under a fresh key. -/
def Extends (before after : List (Registration κ ι δ)) : Prop :=
  after = before ∨
    ∃ entry, entry.key ∉ before.map Registration.key ∧ after = before ++ [entry]

theorem Extends.kept (h : Extends before after) {entry : Registration κ ι δ}
    (hentry : entry ∈ before) : entry ∈ after := by
  rcases h with rfl | ⟨added, -, rfl⟩
  · exact hentry
  · exact List.mem_append_left _ hentry

theorem Extends.nodup (h : Extends before after) (hnodup : (before.map Registration.key).Nodup) :
    (after.map Registration.key).Nodup := by
  rcases h with rfl | ⟨added, hfresh, rfl⟩
  · exact hnodup
  · rw [List.map_append, List.map_singleton, List.nodup_append]
    refine ⟨hnodup, List.nodup_singleton _, fun key hkey other hother hsame => ?_⟩
    rw [List.mem_singleton] at hother
    subst hother hsame
    exact hfresh hkey

/-- A key has one registration. -/
theorem eq_of_key (hnodup : (before.map Registration.key).Nodup)
    {first second : Registration κ ι δ} (hfirst : first ∈ before) (hsecond : second ∈ before)
    (hkey : first.key = second.key) : first = second :=
  List.inj_on_of_nodup_map hnodup hfirst hsecond hkey

section Rows

variable {ρ : Type} {rows : List ρ} {registration : ρ → Registration κ ι δ} {condition : ρ → Bool}
  {key : κ}

/-- No row under the key: the key is fresh. -/
theorem fresh_of_find? (hcondition : ∀ row, condition row = true ↔ (registration row).key = key)
    (h : rows.find? condition = none) : key ∉ (rows.map registration).map Registration.key := by
  intro htaken
  obtain ⟨entry, hentry, hkey⟩ := List.mem_map.mp htaken
  obtain ⟨row, hrow, rfl⟩ := List.mem_map.mp hentry
  exact List.find?_eq_none.mp h row hrow ((hcondition row).mpr hkey)

/-- The query for a registered key finds the row of its registration. -/
theorem find?_registered (hcondition : ∀ row, condition row = true ↔ (registration row).key = key)
    (hnodup : ((rows.map registration).map Registration.key).Nodup)
    {entry : Registration κ ι δ} (hentry : entry ∈ rows.map registration) (hkey : entry.key = key) :
    ∃ row, rows.find? condition = some row ∧ registration row = entry := by
  cases hfound : rows.find? condition with
  | none =>
      have hfresh := fresh_of_find? hcondition hfound
      exact absurd (hkey ▸ List.mem_map_of_mem hentry) hfresh
  | some row =>
      have hmem : registration row ∈ rows.map registration :=
        List.mem_map_of_mem (List.mem_of_find?_eq_some hfound)
      have hsame : (registration row).key = entry.key :=
        ((hcondition row).mp (List.find?_some hfound)).trans hkey.symm
      exact ⟨row, rfl, eq_of_key hnodup hmem hentry hsame⟩

end Rows

section Machines

variable {σ α ο : Type} {machine : Machine σ α ο} {registered : σ → List (Registration κ ι δ)}

/-- Every step of the machine extends its register. -/
def Registers (machine : Machine σ α ο) (registered : σ → List (Registration κ ι δ)) : Prop :=
  ∀ state input, Extends (registered state) (registered (machine.next state input))

/-- What was registered stays registered. -/
theorem Registers.kept (h : Registers machine registered) {state : σ} (inputs : List α)
    {entry : Registration κ ι δ} (hentry : entry ∈ registered state) :
    entry ∈ registered (machine.after state inputs) :=
  @Machine.after_invariant _ _ _ machine (fun state => entry ∈ registered state)
    (fun state input => (h state input).kept) _ hentry inputs

theorem Registers.nodup (h : Registers machine registered) {state : σ} (inputs : List α)
    (hnodup : ((registered state).map Registration.key).Nodup) :
    ((registered (machine.after state inputs)).map Registration.key).Nodup :=
  @Machine.after_invariant _ _ _ machine
    (fun state => ((registered state).map Registration.key).Nodup)
    (fun state input => (h state input).nodup) _ hnodup inputs

/-- **One identity for ever.**  Registrations of one key, at two times of a run, are
one registration. -/
theorem Registers.unique (h : Registers machine registered) {state : σ} {inputs : List α}
    (hnodup : ((registered state).map Registration.key).Nodup)
    {first second : Registration κ ι δ} (hfirst : first ∈ registered state)
    (hsecond : second ∈ registered (machine.after state inputs))
    (hkey : first.key = second.key) : first = second :=
  eq_of_key (h.nodup inputs hnodup) (h.kept inputs hfirst) hsecond hkey

end Machines

end Registry
end Foundation
end Ryuk
