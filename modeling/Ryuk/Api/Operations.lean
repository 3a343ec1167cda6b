import Ryuk.Api.Permits
import Ryuk.Foundation.Interaction

/-!
# Management operations

The routes on workflows and on workflow graphs share one context manager: a permit is
taken, the body runs against the store, its exceptions become failures of the control
plane, and at the end the permit is given back and a record is written, however the body
ended.
-/

namespace Ryuk
namespace Api

open Foundation
open Control (ControlPlaneFailure)

/-- The body of a route: it calls the store, one transaction after the other. -/
abbrev Route (σ α : Type) := Script σ PyError ApiError α

/-- A call of the store. -/
def Route.transact {σ α : Type} (body : Transaction σ PyError α) : Route σ α :=
  Script.transact .raised body

/-- A computation of the route itself. -/
def Route.compute {σ α : Type} (value : Except PyError α) : Route σ α :=
  Script.lift (value.mapError .raised)

/-- `raise ControlPlaneFailure(...)`. -/
def Route.refuse {σ α : Type} (failure : ControlPlaneFailure) : Route σ α :=
  Script.fail (.control failure)

/-- What a family of routes makes of the exceptions of its bodies. -/
structure FailureMap where
  conflict : ControlPlaneFailure
  unverified : ControlPlaneFailure

/-- `except WorkflowConflict` and `except (sqlite3.Error, ValueError, KeyError, TypeError)`, in
this order; other exceptions pass. -/
def FailureMap.translateError (failures : FailureMap) : ApiError → ApiError
  | .raised (.workflowConflict _) => .control failures.conflict
  | .raised (.valueError _) | .raised .keyError | .raised .typeError | .raised .integrityError =>
      .control failures.unverified
  | error => error

def FailureMap.translate {α : Type} (failures : FailureMap) (outcome : Except ApiError α) :
    Except ApiError α :=
  outcome.mapError failures.translateError

section Documented

variable {α β : Type} {failures : FailureMap} {documented : List ControlPlaneFailure}

/-- The failure of an outcome, if it has one, is translated into one of these. -/
def FailureMap.Documents (failures : FailureMap) (documented : List ControlPlaneFailure)
    (outcome : Except ApiError α) : Prop :=
  ∀ error, failures.translate outcome = .error error →
    ∃ failure ∈ documented, error = .control failure

theorem documents_ok {value : α} : failures.Documents documented (.ok value : Except ApiError α) := by
  intro error h
  cases h

theorem documents_control {failure : ControlPlaneFailure} (h : failure ∈ documented) :
    failures.Documents documented (.error (.control failure) : Except ApiError α) := by
  intro error htranslated
  exact ⟨failure, h, (Except.error.inj htranslated).symm⟩

/-- The conflicts the routes translate. -/
theorem documents_conflict {message : String} (h : failures.conflict ∈ documented) :
    failures.Documents documented
      (.error (.raised (.workflowConflict message)) : Except ApiError α) := by
  intro error htranslated
  exact ⟨failures.conflict, h, (Except.error.inj htranslated).symm⟩

/-- The other exceptions the routes translate. -/
theorem documents_raised {error : PyError} (hunverified : failures.unverified ∈ documented)
    (h : (∃ message, error = .valueError message) ∨ error = .keyError ∨ error = .typeError ∨
      error = .integrityError) :
    failures.Documents documented (.error (.raised error) : Except ApiError α) := by
  intro found htranslated
  have hfound := (Except.error.inj htranslated).symm
  rcases h with ⟨message, rfl⟩ | rfl | rfl | rfl
  · exact ⟨failures.unverified, hunverified, hfound⟩
  · exact ⟨failures.unverified, hunverified, hfound⟩
  · exact ⟨failures.unverified, hunverified, hfound⟩
  · exact ⟨failures.unverified, hunverified, hfound⟩

theorem FailureMap.Documents.map {result : Except ApiError α} {change : α → β}
    (h : failures.Documents documented result) : failures.Documents documented (result.map change) := by
  cases result with
  | ok value => exact documents_ok
  | error error =>
      intro found hfound
      apply h found
      exact congrArg Except.error (Except.error.inj hfound)

end Documented

/-- The failure of a request when there is no store. -/
def workflowsDisabled : ControlPlaneFailure :=
  ⟨503, "workflows_disabled", "Offline workflows are not enabled."⟩

namespace Circumstances

variable {σ α : Type}

/-- The `finally` of an operation: the permit is given back before the record is written. -/
def settle (given : Circumstances) (operation : String) (outcome : Except ApiError α)
    (permit : Control.AdmissionPermit) (state : ApiState) : Except ApiError α × ApiState :=
  let status := if outcome.isOk then "accepted" else "failed"
  match recordTerminal (given.terminal operation status .nothing) given.stored
      (release state permit) with
  | (.error failure, state) => (.error (.control failure), state)
  | (.ok (), state) => (outcome, state)

end Circumstances

end Api
end Ryuk
