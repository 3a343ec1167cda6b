import Mathlib.Tactic

/-!
# Which errors a computation raises

`Raises allowed x` says that whatever `x` raises is among the allowed errors.  The rules
follow the ways computations are put together, so that a long computation raises what its
parts raise.  `Returns good x` says in the same way that whatever `x` returns is good.
-/

namespace Ryuk
namespace Foundation

section Raises

variable {ε α β : Type} {allowed wider : ε → Prop}

/-- Everything a computation raises is allowed. -/
def Raises (allowed : ε → Prop) (x : Except ε α) : Prop := ∀ error, x = .error error → allowed error

theorem raises_ok (value : α) : Raises allowed (.ok value : Except ε α) := by
  intro error h
  cases h

theorem raises_pure (value : α) : Raises allowed (pure value : Except ε α) := raises_ok value

theorem raises_error {error : ε} (h : allowed error) :
    Raises allowed (.error error : Except ε α) := by
  intro found hfound
  cases hfound
  exact h

theorem raises_throw {error : ε} (h : allowed error) :
    Raises allowed (throw error : Except ε α) := raises_error h

/-- A sequence raises what its first or its second part raises. -/
theorem Raises.bind {x : Except ε α} {f : α → Except ε β} (hfirst : Raises allowed x)
    (hrest : ∀ value, Raises allowed (f value)) : Raises allowed (x >>= f) := by
  intro error h
  cases hx : x with
  | error found =>
      rw [hx] at h
      cases h
      exact hfirst error hx
  | ok value =>
      rw [hx] at h
      exact hrest value error h

theorem Raises.map {x : Except ε α} (h : Raises allowed x) (f : α → β) :
    Raises allowed (x.map f) := by
  intro error hmap
  cases hx : x with
  | error found =>
      rw [hx] at hmap
      cases hmap
      exact h error hx
  | ok value =>
      rw [hx] at hmap
      cases hmap

/-- A traversal raises what one of its steps raises. -/
theorem Raises.mapM {f : α → Except ε β} (h : ∀ value, Raises allowed (f value))
    (values : List α) : Raises allowed (values.mapM f) := by
  induction values with
  | nil => exact raises_pure []
  | cons value rest ih =>
      rw [List.mapM_cons]
      exact (h value).bind fun _ => ih.bind fun _ => raises_pure _

theorem Raises.ite {condition : Prop} [Decidable condition] {x y : Except ε α}
    (hthen : Raises allowed x) (helse : Raises allowed y) :
    Raises allowed (if condition then x else y) := by
  split
  · exact hthen
  · exact helse

theorem Raises.dite {condition : Prop} [Decidable condition] {x : condition → Except ε α}
    {y : ¬ condition → Except ε α} (hthen : ∀ h, Raises allowed (x h))
    (helse : ∀ h, Raises allowed (y h)) :
    Raises allowed (if h : condition then x h else y h) := by
  split
  · exact hthen _
  · exact helse _

theorem Raises.mono {x : Except ε α} (h : Raises allowed x)
    (hwider : ∀ error, allowed error → wider error) : Raises wider x :=
  fun error herror => hwider error (h error herror)

/-- A sequence returns what its second part returns after the first part returned. -/
theorem bind_eq_ok {x : Except ε α} {f : α → Except ε β} {result : β} :
    (x >>= f) = .ok result ↔ ∃ value, x = .ok value ∧ f value = .ok result := by
  cases x with
  | error found =>
      constructor
      · intro h
        cases h
      · rintro ⟨value, hvalue, -⟩
        cases hvalue
  | ok value =>
      constructor
      · intro h
        exact ⟨value, rfl, h⟩
      · rintro ⟨found, hfound, h⟩
        cases hfound
        exact h

/-- A sequence whose first part raises only allowed errors: what matters is the rest. -/
theorem raises_bind_iff {x : Except ε α} {f : α → Except ε β} (hfirst : Raises allowed x) :
    Raises allowed (x >>= f) ↔ ∀ value, x = .ok value → Raises allowed (f value) := by
  constructor
  · intro h value hvalue error herror
    apply h error
    rw [hvalue]
    exact herror
  · intro h
    cases x with
    | error found =>
        intro error herror
        cases herror
        exact hfirst found rfl
    | ok value => exact h value rfl

/-- A sequence whose second part raises only allowed errors: what matters is the first part. -/
theorem raises_bind_iff_first {x : Except ε α} {f : α → Except ε β}
    (hrest : ∀ value, Raises allowed (f value)) : Raises allowed (x >>= f) ↔ Raises allowed x := by
  constructor
  · intro h error herror
    apply h error
    rw [herror]
    rfl
  · intro h
    exact h.bind hrest

/-- The ways a sequence raises. -/
theorem bind_eq_error {x : Except ε α} {f : α → Except ε β} {error : ε} :
    (x >>= f) = .error error ↔
      x = .error error ∨ ∃ value, x = .ok value ∧ f value = .error error := by
  cases x with
  | error found =>
      constructor
      · intro h
        cases h
        exact Or.inl rfl
      · rintro (h | ⟨value, hvalue, -⟩)
        · cases h
          rfl
        · cases hvalue
  | ok value =>
      constructor
      · intro h
        exact Or.inr ⟨value, rfl, h⟩
      · rintro (h | ⟨found, hfound, h⟩)
        · cases h
        · cases hfound
          exact h

/-- A sequence whose first part does not raise an error raises it in its second part. -/
theorem bind_eq_error_of_raises {x : Except ε α} {f : α → Except ε β} {error : ε}
    (hfirst : Raises allowed x) (herror : ¬ allowed error) :
    (x >>= f) = .error error ↔ ∃ value, x = .ok value ∧ f value = .error error := by
  rw [bind_eq_error]
  constructor
  · rintro (h | h)
    · exact absurd (hfirst error h) herror
    · exact h
  · exact Or.inr

/-- A traversal that raises gets through some values and raises at the next one. -/
theorem mapM_eq_error {f : α → Except ε β} {values : List α} {error : ε} :
    values.mapM f = .error error ↔
      ∃ before value after, values = before ++ value :: after ∧
        (∀ earlier ∈ before, ∃ found, f earlier = .ok found) ∧ f value = .error error := by
  induction values with
  | nil =>
      constructor
      · intro h
        cases h
      · rintro ⟨before, value, after, h, -⟩
        simp at h
  | cons first rest ih =>
      rw [List.mapM_cons, bind_eq_error]
      constructor
      · rintro (h | ⟨found, hfound, h⟩)
        · exact ⟨[], first, rest, rfl, by simp, h⟩
        · rw [bind_eq_error] at h
          rcases h with h | ⟨others, -, h⟩
          · obtain ⟨before, value, after, rfl, hbefore, hvalue⟩ := ih.mp h
            refine ⟨first :: before, value, after, rfl, fun earlier hearlier => ?_, hvalue⟩
            rcases List.mem_cons.mp hearlier with rfl | hearlier
            · exact ⟨found, hfound⟩
            · exact hbefore earlier hearlier
          · cases h
      · rintro ⟨before, value, after, hsplit, hbefore, hvalue⟩
        cases before with
        | nil =>
            cases hsplit
            exact Or.inl hvalue
        | cons head tail =>
            cases hsplit
            obtain ⟨found, hfound⟩ := hbefore first (List.mem_cons_self ..)
            refine Or.inr ⟨found, hfound, bind_eq_error.mpr (Or.inl (ih.mpr ?_))⟩
            exact ⟨tail, value, after, rfl,
              fun earlier hearlier => hbefore earlier (List.mem_cons_of_mem _ hearlier), hvalue⟩

end Raises

section Returns

variable {ε α β : Type} {good : β → Prop}

/-- Everything a computation returns is good. -/
def Returns (good : β → Prop) (x : Except ε β) : Prop := ∀ value, x = .ok value → good value

theorem returns_throw (error : ε) : Returns good (throw error : Except ε β) := by
  intro value h
  cases h

theorem returns_pure {value : β} (h : good value) : Returns good (pure value : Except ε β) := by
  intro found hfound
  cases hfound
  exact h

/-- A sequence returns what its last part returns, after whatever the first part returned. -/
theorem Returns.bind {x : Except ε α} {f : α → Except ε β}
    (hrest : ∀ value, x = .ok value → Returns good (f value)) : Returns good (x >>= f) := by
  intro result h
  cases hx : x with
  | error found =>
      rw [hx] at h
      cases h
  | ok value =>
      rw [hx] at h
      exact hrest value hx result h

theorem Returns.ite {condition : Prop} [Decidable condition] {x y : Except ε β}
    (hthen : Returns good x) (helse : Returns good y) :
    Returns good (if condition then x else y) := by
  split
  · exact hthen
  · exact helse

/-- The results of a traversal are good when those of its steps are. -/
theorem Returns.mapM {f : α → Except ε β} (h : ∀ value, Returns good (f value))
    (values : List α) : Returns (fun results => ∀ result ∈ results, good result)
      (values.mapM f) := by
  induction values with
  | nil => exact returns_pure (by simp)
  | cons value rest ih =>
      rw [List.mapM_cons]
      refine Returns.bind fun result hresult => Returns.bind fun results hresults => ?_
      refine returns_pure fun found hfound => ?_
      rcases List.mem_cons.mp hfound with rfl | hfound
      · exact h value found hresult
      · exact ih results hresults found hfound

/-- A traversal returns what its steps return. -/
theorem mapM_eq_ok {f : α → Except ε β} {values : List α} {results : List β} :
    values.mapM f = .ok results ↔
      List.Forall₂ (fun value result => f value = .ok result) values results := by
  induction values generalizing results with
  | nil =>
      rw [List.mapM_nil, List.forall₂_nil_left_iff]
      exact ⟨fun h => (Except.ok.inj h).symm, fun h => h ▸ rfl⟩
  | cons first rest ih =>
      rw [List.mapM_cons, List.forall₂_cons_left_iff]
      cases hfirst : f first with
      | error found =>
          constructor
          · intro h
            cases h
          · rintro ⟨result, others, h, -⟩
            cases h
      | ok found =>
          cases hrest : rest.mapM f with
          | error other =>
              constructor
              · intro h
                cases h
              · rintro ⟨result, others, -, hothers, -⟩
                rw [ih.mpr hothers] at hrest
                cases hrest
          | ok others =>
              constructor
              · intro h
                cases h
                exact ⟨found, others, rfl, ih.mp hrest, rfl⟩
              · rintro ⟨result, others', hresult, hothers, rfl⟩
                rw [ih.mpr hothers] at hrest
                cases hrest
                cases hresult
                rfl

/-- A traversal that returns has returned at every step. -/
theorem mapM_returned {f : α → Except ε β} {values : List α} {results : List β}
    (h : values.mapM f = .ok results) : ∀ value ∈ values, ∃ result, f value = .ok result := by
  have hsteps := mapM_eq_ok.mp h
  clear h
  induction hsteps with
  | nil =>
      intro value hvalue
      cases hvalue
  | @cons first result rest others hfirst _ ih =>
      intro value hvalue
      rcases List.mem_cons.mp hvalue with rfl | hmem
      · exact ⟨result, hfirst⟩
      · exact ih value hmem

/-- A traversal all of whose steps return returns. -/
theorem mapM_total {f : α → Except ε β} {values : List α}
    (h : ∀ value ∈ values, ∃ result, f value = .ok result) :
    ∃ results, values.mapM f = .ok results := by
  cases hmap : values.mapM f with
  | ok results => exact ⟨results, rfl⟩
  | error error =>
      obtain ⟨before, value, after, rfl, -, hstep⟩ := mapM_eq_error.mp hmap
      obtain ⟨result, hresult⟩ := h value (by simp)
      rw [hstep] at hresult
      cases hresult

/-- Every result of a traversal is what one of its steps returned. -/
theorem mem_of_mapM {f : α → Except ε β} {values : List α} {results : List β}
    (h : values.mapM f = .ok results) :
    ∀ result ∈ results, ∃ value ∈ values, f value = .ok result := by
  have hsteps := mapM_eq_ok.mp h
  clear h
  induction hsteps with
  | nil =>
      intro result hresult
      cases hresult
  | @cons first found rest others hfirst _ ih =>
      intro result hresult
      rcases List.mem_cons.mp hresult with rfl | hmem
      · exact ⟨first, List.mem_cons_self .., hfirst⟩
      · obtain ⟨value, hvalue, hstep⟩ := ih result hmem
        exact ⟨value, List.mem_cons_of_mem _ hvalue, hstep⟩

/-- What the steps of a traversal can be traced back to, in order. -/
theorem map_of_mapM {f : α → Except ε β} {back : β → α} {values : List α} {results : List β}
    (hback : ∀ value result, f value = .ok result → back result = value)
    (h : values.mapM f = .ok results) : results.map back = values := by
  have hsteps := mapM_eq_ok.mp h
  clear h
  induction hsteps with
  | nil => rfl
  | @cons first found rest others hfirst _ ih =>
      rw [List.map_cons, hback first found hfirst, ih]

end Returns

end Foundation
end Ryuk
