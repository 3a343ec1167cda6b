import Ryuk.Foundation.Transaction

/-!
# Views of a state

A view is what somebody can see of a state.  A body *keeps* a view when whatever
it returns leaves the view as it was; the rules here show it statement by
statement.
-/

namespace Ryuk
namespace Foundation
namespace Transaction

variable {σ τ ε α β : Type}

/-- A body that returned is followed by its rest. -/
theorem bind_of_ok {body : Transaction σ ε α} {rest : α → Transaction σ ε β} {state next : σ}
    {value : α} (h : body state = .ok (value, next)) : (body >>= rest) state = rest value next := by
  show (Except.bind (body state) fun pair => rest pair.1 pair.2) = rest value next
  rw [h]
  rfl

/-- A body that raised is followed by nothing. -/
theorem bind_of_error {body : Transaction σ ε α} {rest : α → Transaction σ ε β} {state : σ}
    {error : ε} (h : body state = .error error) : (body >>= rest) state = .error error := by
  show (Except.bind (body state) fun pair => rest pair.1 pair.2) = .error error
  rw [h]
  rfl

theorem attempt_error {change : σ → Option σ} {error : ε} {state : σ} (h : change state = none) :
    (attempt change error : Transaction σ ε Unit) state = .error error := by
  unfold attempt
  rw [h]

theorem lift_ok_bind {found : α} {rest : α → Transaction σ ε β} :
    (lift (.ok found) >>= rest) = rest found := rfl

theorem require_true_bind {condition : Bool} {error : ε} {rest : Unit → Transaction σ ε β}
    (h : condition = true) : (require condition error >>= rest) = rest () := by
  rw [h]
  rfl

theorem commit_map {body : Transaction σ ε α} {change : α → β} {state : σ} :
    commit (change <$> body) state = ((commit body state).1.map change, (commit body state).2) := by
  have hmap : (change <$> body) state =
      (body state).map fun pair => (change pair.1, pair.2) := by
    rw [map_eq_pure_bind]
    show Except.bind (body state) (fun pair => Except.ok (change pair.1, pair.2)) = _
    cases body state with
    | error error => rfl
    | ok pair => rfl
  unfold commit
  rw [hmap]
  cases body state with
  | error error => rfl
  | ok pair => rfl

/-- Whenever the body returns, the view is as before. -/
def Keeps (view : σ → τ) (body : Transaction σ ε α) : Prop :=
  ∀ state result final, body state = .ok (result, final) → view final = view state

section Keeping

variable {view : σ → τ}

theorem Keeps.pure {value : α} : Keeps view (Pure.pure value : Transaction σ ε α) := by
  intro state result final h
  rw [(pure_ok.mp h).2]

theorem Keeps.query {read : σ → α} : Keeps view (Transaction.query read : Transaction σ ε α) := by
  intro state result final h
  rw [(Prod.mk.inj (Except.ok.inj h)).2]

theorem Keeps.write {change : σ → σ} (h : ∀ state, view (change state) = view state) :
    Keeps view (Transaction.write change : Transaction σ ε Unit) := by
  intro state result final hwrite
  rw [← write_ok.mp hwrite]
  exact h state

theorem Keeps.fail {error : ε} : Keeps view (Transaction.fail error : Transaction σ ε α) := by
  intro state result final h
  exact (fail_ok.mp h).elim

theorem Keeps.require {condition : Bool} {error : ε} :
    Keeps view (Transaction.require condition error : Transaction σ ε Unit) := by
  intro state result final h
  rw [(require_ok.mp h).2]

theorem Keeps.lift {value : Except ε α} :
    Keeps view (Transaction.lift value : Transaction σ ε α) := by
  intro state result final h
  unfold Transaction.lift at h
  cases value with
  | error error => cases h
  | ok found => rw [(Prod.mk.inj (Except.ok.inj h)).2]

theorem Keeps.attempt {change : σ → Option σ} {error : ε}
    (h : ∀ state next, change state = some next → view next = view state) :
    Keeps view (Transaction.attempt change error : Transaction σ ε Unit) := by
  intro state result final hchange
  exact h state final (attempt_ok.mp hchange)

theorem Keeps.bind {body : Transaction σ ε α} {rest : α → Transaction σ ε β}
    (hbody : Keeps view body) (hrest : ∀ value, Keeps view (rest value)) :
    Keeps view (body >>= rest) := by
  intro state result final h
  rw [bind_ok] at h
  obtain ⟨value, next, hfirst, hsecond⟩ := h
  rw [hrest value next result final hsecond, hbody state value next hfirst]

theorem Keeps.map {body : Transaction σ ε α} {change : α → β} (hbody : Keeps view body) :
    Keeps view (change <$> body) := by
  intro state result final h
  obtain ⟨value, hvalue, -⟩ := map_ok.mp h
  exact hbody state value final hvalue

/-- A transaction keeps what its body keeps. -/
theorem Keeps.commit {body : Transaction σ ε α} (h : Keeps view body) (state : σ) :
    view (Transaction.commit body state).2 = view state := by
  rcases commit_cases body state with ⟨result, -, hok⟩ | ⟨-, hsame⟩
  · exact h state result _ hok
  · rw [hsame]

end Keeping

end Transaction
end Foundation
end Ryuk
