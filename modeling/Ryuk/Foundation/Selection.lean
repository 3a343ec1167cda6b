import Mathlib.Tactic

/-!
# Selecting from lists

`champions` goes over a list once and keeps, for every class of items, the first
item of the highest rank; `Leads` says the same without the loop.  `Before` is the
order of a list, and `Sorted` the order by rank in which later items come first.
-/

namespace Ryuk
namespace Foundation
namespace Selection

variable {α κ : Type} [DecidableEq κ] {classOf : α → κ} {rank : α → Int} {items : List α}

/-! ### The first item of the highest rank -/

/-- The item is the first of the highest rank in its class. -/
def Leads (classOf : α → κ) (rank : α → Int) (items : List α) (item : α) : Prop :=
  ∃ before after, items = before ++ item :: after ∧
    (∀ other ∈ before, classOf other = classOf item → rank other < rank item) ∧
    ∀ other ∈ after, classOf other = classOf item → rank other ≤ rank item

/-- One round of the loop: an item takes its class when nobody has it, or from an item
of a lower rank. -/
def challenge (classOf : α → κ) (rank : α → Int) (chosen : κ → Option α) (item : α) :
    κ → Option α :=
  match chosen (classOf item) with
  | none => Function.update chosen (classOf item) (some item)
  | some current =>
      if rank item > rank current then Function.update chosen (classOf item) (some item)
      else chosen

/-- The items that have their classes after the loop. -/
def champions (classOf : α → κ) (rank : α → Int) (items : List α) : κ → Option α :=
  items.foldl (challenge classOf rank) fun _ => none

omit [DecidableEq κ] in
theorem Leads.mem {item : α} (h : Leads classOf rank items item) : item ∈ items := by
  obtain ⟨before, after, rfl, -⟩ := h
  exact List.mem_append_right _ (List.mem_cons_self ..)

omit [DecidableEq κ] in
/-- Nobody in its class has a higher rank. -/
theorem Leads.le {item other : α} (h : Leads classOf rank items item) (hother : other ∈ items)
    (hclass : classOf other = classOf item) : rank other ≤ rank item := by
  obtain ⟨before, after, rfl, hbefore, hafter⟩ := h
  rcases List.mem_append.mp hother with hother | hother
  · exact le_of_lt (hbefore other hother hclass)
  · rcases List.mem_cons.mp hother with rfl | hother
    · exact le_refl _
    · exact hafter other hother hclass

omit [DecidableEq κ] in
theorem leads_append {last item : α} : Leads classOf rank (items ++ [last]) item ↔
    (Leads classOf rank items item ∧ (classOf last = classOf item → rank last ≤ rank item)) ∨
      (item = last ∧ ∀ other ∈ items, classOf other = classOf last → rank other < rank last) := by
  constructor
  · rintro ⟨before, after, hsplit, hbefore, hafter⟩
    rcases List.eq_nil_or_concat after with rfl | ⟨earlier, final, rfl⟩
    · obtain ⟨rfl, hlast⟩ := List.append_inj' hsplit rfl
      obtain rfl : last = item := List.singleton_inj.mp hlast
      exact Or.inr ⟨rfl, hbefore⟩
    · rw [List.concat_eq_append, ← List.cons_append, ← List.append_assoc] at hsplit
      obtain ⟨rfl, hlast⟩ := List.append_inj' hsplit rfl
      obtain rfl : last = final := List.singleton_inj.mp hlast
      refine Or.inl ⟨⟨before, earlier, rfl, hbefore, fun other hother => ?_⟩, ?_⟩
      · exact hafter other (by simp [hother])
      · exact hafter last (by simp)
  · rintro (⟨⟨before, after, rfl, hbefore, hafter⟩, hlast⟩ | ⟨rfl, hall⟩)
    · refine ⟨before, after ++ [last], by simp, hbefore, fun other hother => ?_⟩
      rcases List.mem_append.mp hother with hother | hother
      · exact hafter other hother
      · rw [List.mem_singleton.mp hother]
        exact hlast
    · exact ⟨items, [], rfl, hall, fun other hother => (List.not_mem_nil hother).elim⟩

theorem champions_append (last : α) : champions classOf rank (items ++ [last]) =
    challenge classOf rank (champions classOf rank items) last := by
  unfold champions
  rw [List.foldl_append]
  rfl

theorem challenge_other {chosen : κ → Option α} {item : α} {k : κ} (hother : classOf item ≠ k) :
    challenge classOf rank chosen item k = chosen k := by
  have hupdate : Function.update chosen (classOf item) (some item) k = chosen k :=
    Function.update_of_ne (Ne.symm hother) ..
  unfold challenge
  cases chosen (classOf item) with
  | none => exact hupdate
  | some current =>
      show (if rank item > rank current then Function.update chosen (classOf item) (some item)
        else chosen) k = chosen k
      split_ifs
      · exact hupdate
      · rfl

theorem challenge_free {chosen : κ → Option α} {item : α} (hfree : chosen (classOf item) = none) :
    challenge classOf rank chosen item (classOf item) = some item := by
  unfold challenge
  rw [hfree]
  exact Function.update_self ..

theorem challenge_held {chosen : κ → Option α} {item current : α}
    (hheld : chosen (classOf item) = some current) :
    challenge classOf rank chosen item (classOf item) =
      if rank item > rank current then some item else some current := by
  unfold challenge
  rw [hheld]
  show (if rank item > rank current then Function.update chosen (classOf item) (some item)
    else chosen) (classOf item) = _
  split_ifs
  · exact Function.update_self ..
  · exact hheld

/-- A class has a champion as soon as it has an item. -/
theorem champions_none {k : κ} :
    champions classOf rank items k = none ↔ ∀ other ∈ items, classOf other ≠ k := by
  induction items using List.reverseRecOn with
  | nil => simp [champions]
  | append_singleton items last ih =>
      rw [champions_append]
      simp only [List.mem_append, List.mem_singleton, or_imp, forall_and, forall_eq]
      by_cases hclass : classOf last = k
      · subst hclass
        cases hheld : champions classOf rank items (classOf last) with
        | none => simp [challenge_free hheld]
        | some current =>
            rw [challenge_held hheld]
            split_ifs <;> simp
      · rw [challenge_other hclass, ih]
        simp [hclass]

/-- **Champions.**  The loop finds the first item of the highest rank in each class. -/
theorem champions_iff {k : κ} {item : α} :
    champions classOf rank items k = some item ↔
      classOf item = k ∧ Leads classOf rank items item := by
  induction items using List.reverseRecOn generalizing k item with
  | nil =>
      constructor
      · intro h
        cases h
      · rintro ⟨-, hleads⟩
        cases hleads.mem
  | append_singleton items last ih =>
      rw [champions_append, leads_append]
      by_cases hclass : classOf last = k
      · subst hclass
        cases hheld : champions classOf rank items (classOf last) with
        | none =>
            -- the class is new
            have hnone := champions_none.mp hheld
            rw [challenge_free hheld, Option.some.injEq]
            constructor
            · rintro rfl
              exact ⟨rfl, Or.inr ⟨rfl, fun other hother hsame => absurd hsame (hnone other hother)⟩⟩
            · rintro ⟨hsame, ⟨hleads, -⟩ | ⟨rfl, -⟩⟩
              · exact absurd hsame (hnone item hleads.mem)
              · rfl
        | some current =>
            obtain ⟨hcurrent, hleads⟩ := ih.mp hheld
            rw [challenge_held hheld]
            split_ifs with hhigher
            · rw [Option.some.injEq]
              constructor
              · rintro rfl
                refine ⟨rfl, Or.inr ⟨rfl, fun other hother hsame => ?_⟩⟩
                exact lt_of_le_of_lt (hleads.le hother (hsame.trans hcurrent.symm)) hhigher
              · rintro ⟨hsame, ⟨hleads', hlast⟩ | ⟨rfl, -⟩⟩
                · -- an item that leads on would be outranked
                  have hle := hlast hsame.symm
                  have hle' := hleads'.le hleads.mem (hcurrent.trans hsame.symm)
                  have hle'' := hleads.le hleads'.mem (hsame.trans hcurrent.symm)
                  omega
                · rfl
            · rw [Option.some.injEq]
              constructor
              · rintro rfl
                exact ⟨hcurrent, Or.inl ⟨hleads, fun _ => not_lt.mp hhigher⟩⟩
              · rintro ⟨hsame, ⟨hleads', -⟩ | ⟨rfl, hall⟩⟩
                · have hsome := ih.mpr ⟨hsame, hleads'⟩
                  rw [hheld, Option.some.injEq] at hsome
                  exact hsome
                · exact absurd (hall current hleads.mem hcurrent) hhigher
      · rw [challenge_other hclass, ih]
        constructor
        · rintro ⟨rfl, hleads⟩
          exact ⟨rfl, Or.inl ⟨hleads, fun hsame => absurd hsame hclass⟩⟩
        · rintro ⟨rfl, ⟨hleads, -⟩ | ⟨rfl, -⟩⟩
          · exact ⟨rfl, hleads⟩
          · exact absurd rfl hclass

omit [DecidableEq κ] in
/-- A sublist that has exactly the items that pass a test is what the filter
leaves. -/
theorem sublist_eq_filter (hnodup : items.Nodup) {kept : List α} {test : α → Bool}
    (hsub : kept.Sublist items) (hmem : ∀ item ∈ items, item ∈ kept ↔ test item = true) :
    kept = items.filter test := by
  have hall : kept.filter test = kept := by
    rw [List.filter_eq_self]
    exact fun item hitem => (hmem item (hsub.subset hitem)).mp hitem
  have hsub' : kept.Sublist (items.filter test) := by
    have h := hsub.filter test
    rwa [hall] at h
  apply hsub'.eq_of_length_le
  refine (List.subperm_of_subset (hnodup.filter _) fun item hitem => ?_).length_le
  have hitem := List.mem_filter.mp hitem
  exact (hmem item hitem.1).mpr hitem.2

/-! ### Dropping by rank -/

/-- The first item stands before the second one. -/
def Before (items : List α) (first second : α) : Prop := [first, second].Sublist items

/-- Lower ranks come first, and of one rank the items that stand later. -/
def Drops (rank : α → Int) (items : List α) (first second : α) : Prop :=
  rank first < rank second ∨ (rank first = rank second ∧ Before items second first)

omit [DecidableEq κ] in
theorem Before.asymm (hnodup : items.Nodup) {first second : α} (h : Before items first second) :
    ¬ Before items second first := by
  unfold Before at h ⊢
  induction items with
  | nil => simp at h
  | cons head rest ih =>
      rw [List.nodup_cons] at hnodup
      intro h'
      rw [List.cons_sublist_cons'] at h h'
      rcases h with h | ⟨rfl, h⟩
      · rcases h' with h' | ⟨rfl, -⟩
        · exact ih hnodup.2 h h'
        · exact hnodup.1 (h.subset (by simp))
      · rcases h' with h' | ⟨rfl, h'⟩
        · exact hnodup.1 (h'.subset (by simp))
        · exact hnodup.1 (h'.subset (by simp))

omit [DecidableEq κ] in
/-- What stands at a smaller place stands before. -/
theorem before_of_getElem {first second : α} {i j : Nat} (hfirst : items[i]? = some first)
    (hsecond : items[j]? = some second) (hlt : i < j) : Before items first second := by
  have hearlier : first ∈ items.take j := by
    rw [List.mem_iff_getElem?]
    exact ⟨i, by rw [List.getElem?_take_of_lt hlt, hfirst]⟩
  have hlater : second ∈ items.drop j := by
    rw [List.mem_iff_getElem?]
    exact ⟨0, by rw [List.getElem?_drop, Nat.add_zero, hsecond]⟩
  have h := (List.singleton_sublist.mpr hearlier).append (List.singleton_sublist.mpr hlater)
  rw [List.take_append_drop] at h
  exact h

omit [DecidableEq κ] in
/-- There is one order in which to drop. -/
theorem drops_unique (hnodup : items.Nodup) {first second : List α} (hperm : first.Perm second)
    (hfirst : first.Pairwise (Drops rank items)) (hsecond : second.Pairwise (Drops rank items)) :
    first = second := by
  apply List.Perm.eq_of_pairwise _ hfirst hsecond hperm
  intro one other _ _ h h'
  rcases h with hlt | ⟨heq, hbefore⟩
  · rcases h' with hlt' | ⟨heq', -⟩
    · omega
    · omega
  · rcases h' with hlt' | ⟨-, hbefore'⟩
    · omega
    · exact absurd hbefore' (hbefore.asymm hnodup)

end Selection
end Foundation
end Ryuk
