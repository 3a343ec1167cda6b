import Ryuk.Foundation.Noninterference

/-!
# Scripts with interference

A script runs transactions one after the other and goes on with their answers; at
the end it has a result or a failure.  Others may change the state between any two
of its transactions, in the ways a *rely* relation allows.

The rules take a run apart along the way the script is put together.  When scripts run at
once, and each of their transactions is a move that `rely` allows, what each of them does is
a run with interference (`Continues`).
-/

namespace Ryuk
namespace Foundation

open Transaction

/-- A script over states `σ`: transactions that fail with `ε`, and at the end a result
or a failure `φ`. -/
inductive Script (σ ε φ α : Type) : Type 1 where
  | done (result : Except φ α)
  | call {β : Type} (body : Transaction σ ε β) (next : Except ε β → Script σ ε φ α)

namespace Script

variable {σ ε φ ψ α β γ : Type}

/-- One script after the other; a failure ends both. -/
def andThen : Script σ ε φ α → (α → Script σ ε φ β) → Script σ ε φ β
  | .done (.ok value), rest => rest value
  | .done (.error failure), _ => .done (.error failure)
  | .call body next, rest => .call body fun answer => (next answer).andThen rest

instance : Monad (Script σ ε φ) where
  pure value := .done (.ok value)
  bind := andThen

/-- Fail. -/
def fail (failure : φ) : Script σ ε φ α := .done (.error failure)

/-- The value of a computation that runs no transaction. -/
def lift (value : Except φ α) : Script σ ε φ α := .done value

/-- One transaction, whose failures are failures of the script. -/
def transact (raised : ε → φ) (body : Transaction σ ε α) : Script σ ε φ α :=
  .call body fun answer => .done (answer.mapError raised)

/-- Handlers around a script: they see how it ends. -/
def handle (handler : Except φ α → Except ψ β) : Script σ ε φ α → Script σ ε ψ β
  | .done result => .done (handler result)
  | .call body next => .call body fun answer => (next answer).handle handler

@[simp] theorem pure_andThen (value : α) (rest : α → Script σ ε φ β) :
    (pure value >>= rest : Script σ ε φ β) = rest value := rfl

@[simp] theorem fail_andThen (failure : φ) (rest : α → Script σ ε φ β) :
    (fail failure >>= rest : Script σ ε φ β) = fail failure := rfl

@[simp] theorem lift_andThen (value : α) (rest : α → Script σ ε φ β) :
    (lift (.ok value) >>= rest : Script σ ε φ β) = rest value := rfl

/-- A run of a script with interference: before each transaction the others move. -/
def Runs (rely : σ → σ → Prop) : Script σ ε φ α → σ → Except φ α → σ → Prop
  | .done result, state, outcome, final => outcome = result ∧ final = state
  | .call body next, state, outcome, final => ∃ before, rely state before ∧
      (next (commit body before).1).Runs rely (commit body before).2 outcome final

/-- A run of two scripts is a run of the first and, if it has a result, of the second. -/
theorem runs_bind {rely : σ → σ → Prop} {script : Script σ ε φ α} {rest : α → Script σ ε φ β}
    {state final : σ} {outcome : Except φ β} :
    (script >>= rest).Runs rely state outcome final ↔
      (∃ value middle, script.Runs rely state (.ok value) middle ∧
        (rest value).Runs rely middle outcome final) ∨
      ∃ failure, script.Runs rely state (.error failure) final ∧ outcome = .error failure := by
  show (script.andThen rest).Runs rely state outcome final ↔ _
  induction script generalizing state with
  | done result =>
      cases result with
      | ok value => simp [andThen, Runs]
      | error failure => simp [andThen, Runs, and_comm]
  | call body next ih =>
      simp only [andThen, Runs, ih]
      constructor
      · rintro ⟨before, hrely, ⟨value, middle, hfirst, hsecond⟩ | ⟨failure, hfirst, rfl⟩⟩
        · exact Or.inl ⟨value, middle, ⟨before, hrely, hfirst⟩, hsecond⟩
        · exact Or.inr ⟨failure, ⟨before, hrely, hfirst⟩, rfl⟩
      · rintro (⟨value, middle, ⟨before, hrely, hfirst⟩, hsecond⟩ |
          ⟨failure, ⟨before, hrely, hfirst⟩, rfl⟩)
        · exact ⟨before, hrely, Or.inl ⟨value, middle, hfirst, hsecond⟩⟩
        · exact ⟨before, hrely, Or.inr ⟨failure, hfirst, rfl⟩⟩

/-- A run of a mapped script is a run of the script. -/
theorem runs_map {rely : σ → σ → Prop} {change : α → β} {script : Script σ ε φ α}
    {state final : σ} {outcome : Except φ β} (h : (change <$> script).Runs rely state outcome final) :
    ∃ result, script.Runs rely state result final ∧ outcome = result.map change := by
  rcases runs_bind.mp h with ⟨value, middle, hruns, rfl, rfl⟩ | ⟨failure, hruns, rfl⟩
  · exact ⟨_, hruns, rfl⟩
  · exact ⟨_, hruns, rfl⟩

/-- A run of a handled script is a run of the script. -/
theorem runs_handle {rely : σ → σ → Prop} {handler : Except φ α → Except ψ β}
    {script : Script σ ε φ α} {state final : σ} {outcome : Except ψ β} :
    (script.handle handler).Runs rely state outcome final ↔
      ∃ result, script.Runs rely state result final ∧ outcome = handler result := by
  induction script generalizing state with
  | done result => simp [handle, Runs, and_comm]
  | call body next ih =>
      simp only [handle, Runs, ih]
      constructor
      · rintro ⟨before, hrely, result, hrun, hresult⟩
        exact ⟨result, ⟨before, hrely, hrun⟩, hresult⟩
      · rintro ⟨result, ⟨before, hrely, hrun⟩, hresult⟩
        exact ⟨before, hrely, result, hrun, hresult⟩

/-- A transaction is made in the state the others leave; the script goes on when it returns,
and ends when it raises. -/
theorem runs_transact_bind {rely : σ → σ → Prop} {raised : ε → φ} {body : Transaction σ ε α}
    {rest : α → Script σ ε φ β} {state final : σ} {outcome : Except φ β} :
    (transact raised body >>= rest).Runs rely state outcome final ↔
      ∃ before, rely state before ∧
        ((∃ value next, body before = .ok (value, next) ∧
            (rest value).Runs rely next outcome final) ∨
          ∃ error, body before = .error error ∧ outcome = .error (raised error) ∧
            final = before) := by
  show (∃ before, rely state before ∧ ((Script.done
    ((commit body before).1.mapError raised)).andThen rest).Runs rely _ outcome final) ↔ _
  refine exists_congr fun before => and_congr_right fun _ => ?_
  unfold commit
  cases hbody : body before with
  | ok pair =>
      obtain ⟨value, next⟩ := pair
      simp [Except.mapError, andThen]
  | error error => simp [Except.mapError, andThen, Runs]

/-- A transaction that returns, in whatever state it is made. -/
theorem runs_transact_returns {rely : σ → σ → Prop} {raised : ε → φ} {body : Transaction σ ε α}
    {rest : α → Script σ ε φ β} {state final : σ} {outcome : Except φ β}
    (hreturns : ∀ before, rely state before → ∃ value next, body before = .ok (value, next))
    (hruns : (transact raised body >>= rest).Runs rely state outcome final) :
    ∃ before value next, rely state before ∧ body before = .ok (value, next) ∧
      (rest value).Runs rely next outcome final := by
  obtain ⟨before, hrely, ⟨value, next, hbody, hrest⟩ | ⟨error, hbody, -⟩⟩ :=
    runs_transact_bind.mp hruns
  · exact ⟨before, value, next, hrely, hbody, hrest⟩
  · obtain ⟨value, next, hreturned⟩ := hreturns before hrely
    rw [hreturned] at hbody
    cases hbody

/-! ### Scripts that run at once -/

section Concurrency

variable {rely : σ → σ → Prop} {start : Script σ ε φ α} {rest : Script σ ε φ α}
  {before state later : σ}

/-- Every transaction of the script moves the state as `rely` allows. -/
def Obeys (rely : σ → σ → Prop) : Script σ ε φ α → Prop
  | .done _ => True
  | .call body next => (∀ state, rely state (commit body state).2) ∧
      ∀ answer, (next answer).Obeys rely

theorem obeys_bind {script : Script σ ε φ α} {rest : α → Script σ ε φ β}
    (h : script.Obeys rely) (hrest : ∀ value, (rest value).Obeys rely) :
    (script >>= rest).Obeys rely := by
  show (script.andThen rest).Obeys rely
  induction script with
  | done result =>
      cases result with
      | ok value => exact hrest value
      | error failure => trivial
  | call body next ih => exact ⟨h.1, fun answer => ih answer (h.2 answer)⟩

theorem obeys_map {change : α → β} {script : Script σ ε φ α} (h : script.Obeys rely) :
    (change <$> script).Obeys rely := obeys_bind h fun _ => trivial

theorem obeys_handle {handler : Except φ α → Except ψ β} {script : Script σ ε φ α}
    (h : script.Obeys rely) : (script.handle handler).Obeys rely := by
  induction script with
  | done result => trivial
  | call body next ih => exact ⟨h.1, fun answer => ih answer (h.2 answer)⟩

theorem obeys_transact {raised : ε → φ} {body : Transaction σ ε α}
    (h : ∀ state, rely state (commit body state).2) : (transact raised body).Obeys rely :=
  ⟨h, fun _ => trivial⟩

/-- What is left of a script, and the state it is left in: however it goes on, the script has
such a run from its start. -/
def Continues (rely : σ → σ → Prop) (start : Script σ ε φ α) (before : σ)
    (rest : Script σ ε φ α) (state : σ) : Prop :=
  ∀ outcome final, rest.Runs rely state outcome final →
    ∃ last, start.Runs rely before outcome last ∧ rely last final

theorem continues_start (hrefl : ∀ state, rely state state) :
    Continues rely start before start before :=
  fun _ final hruns => ⟨final, hruns, hrefl final⟩

/-- Others move. -/
theorem Continues.others (h : Continues rely start before rest state)
    (htrans : ∀ first second third, rely first second → rely second third → rely first third)
    (hrely : rely state later) : Continues rely start before rest later := by
  intro outcome final hruns
  cases rest with
  | done result =>
      obtain ⟨rfl, rfl⟩ := hruns
      obtain ⟨last, hlast, hmoved⟩ := h outcome state ⟨rfl, rfl⟩
      exact ⟨last, hlast, htrans _ _ _ hmoved hrely⟩
  | call body next =>
      obtain ⟨middle, hmiddle, hrest⟩ := hruns
      exact h outcome final ⟨middle, htrans _ _ _ hrely hmiddle, hrest⟩

/-- The script makes its next transaction. -/
theorem Continues.call {τ : Type} {body : Transaction σ ε τ} {next : Except ε τ → Script σ ε φ α}
    (h : Continues rely start before (.call body next) state)
    (hrefl : ∀ state, rely state state) :
    Continues rely start before (next (commit body state).1) (commit body state).2 :=
  fun outcome final hruns => h outcome final ⟨state, hrefl state, hruns⟩

/-- A script that has come to its end had a run with this outcome. -/
theorem Continues.done {result : Except φ α}
    (h : Continues rely start before (.done result) state) :
    ∃ last, start.Runs rely before result last ∧ rely last state :=
  h result state ⟨rfl, rfl⟩

end Concurrency

end Script
end Foundation
end Ryuk
