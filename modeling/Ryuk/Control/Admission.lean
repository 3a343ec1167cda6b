import Mathlib.Data.Rat.Defs
import Mathlib.Algebra.Order.Ring.Rat
import Ryuk.Platform
import Ryuk.Foundation.Binary64
import Ryuk.Foundation.FixedWindow
import Ryuk.Foundation.Simulation

/-!
# Admission in one process

`AdmissionController` bounds, for each tenant, the requests and the estimated tokens
of a window of sixty seconds and the permits held at one time.  A window starts
with the first call after the last one is over, also when that call is refused.

A time is a float, named by its value; the difference of two times is rounded.
-/

namespace Ryuk
namespace Control

open Foundation Foundation.FixedWindow

/-! ### Quotas -/

structure QuotaPolicy where
  requestsPerMinute : Int
  concurrentRequests : Int
  tokensPerMinute : Int
  positive : 1 ≤ min (min requestsPerMinute concurrentRequests) tokensPerMinute

def QuotaPolicy.new (requestsPerMinute concurrentRequests tokensPerMinute : Int) :
    Except PyError QuotaPolicy :=
  if h : min (min requestsPerMinute concurrentRequests) tokensPerMinute < 1 then
    .error (.valueError "Quota limits must be positive.")
  else .ok ⟨requestsPerMinute, concurrentRequests, tokensPerMinute, by omega⟩

/-- `_TenantUsage`. -/
structure TenantUsage where
  windowStarted : Rat
  requests : Int
  tokens : Int
  concurrent : Int
  deriving DecidableEq

/-- `_TenantUsage(current)`. -/
def TenantUsage.new (current : Rat) : TenantUsage := ⟨current, 0, 0, 0⟩

/-- A fresh window, if the current one is over. -/
def TenantUsage.renewed (usage : TenantUsage) (current : Rat) : TenantUsage :=
  if 60 ≤ Binary64.nearest (current - usage.windowStarted) then
    { usage with windowStarted := current, requests := 0, tokens := 0 }
  else usage

/-- The checks of the three limits. -/
def TenantUsage.Refuses (usage : TenantUsage) (policy : QuotaPolicy) (estimatedTokens : Int) :
    Prop :=
  policy.requestsPerMinute ≤ usage.requests ∨
    policy.tokensPerMinute < usage.tokens + estimatedTokens ∨
    policy.concurrentRequests ≤ usage.concurrent

instance (usage : TenantUsage) (policy : QuotaPolicy) (estimatedTokens : Int) :
    Decidable (usage.Refuses policy estimatedTokens) :=
  inferInstanceAs (Decidable (_ ∨ _ ∨ _))

/-- The use of one granted request. -/
def TenantUsage.granted (usage : TenantUsage) (estimatedTokens : Int) : TenantUsage :=
  { usage with
    requests := usage.requests + 1
    tokens := usage.tokens + estimatedTokens
    concurrent := usage.concurrent + 1 }

/-! ### The controller -/

structure AdmissionController where
  policies : String → Option QuotaPolicy
  usage : String → Option TenantUsage

namespace AdmissionController

/-- `AdmissionController(policies)`. -/
def new (policies : String → Option QuotaPolicy) : AdmissionController :=
  ⟨policies, fun _ => none⟩

/-- What the controller keeps of a tenant's usage. -/
def store (controller : AdmissionController) (tenantId : String) (usage : TenantUsage) :
    AdmissionController :=
  { controller with usage := Function.update controller.usage tenantId (some usage) }

/-- `admit`; `current` is the argument `now`, or else the reading of the clock. -/
def admitRequest (controller : AdmissionController) (tenantId : String) (estimatedTokens : Int)
    (current : Rat) : Bool × AdmissionController :=
  match controller.policies tenantId with
  | none => (false, controller)
  | some policy =>
      if estimatedTokens < 0 then (false, controller)
      else
        let usage := ((controller.usage tenantId).getD (.new current)).renewed current
        if usage.Refuses policy estimatedTokens then (false, controller.store tenantId usage)
        else (true, controller.store tenantId (usage.granted estimatedTokens))

def release (controller : AdmissionController) (tenantId : String) : AdmissionController :=
  match controller.usage tenantId with
  | none => controller
  | some usage =>
      if 0 < usage.concurrent then
        controller.store tenantId { usage with concurrent := usage.concurrent - 1 }
      else controller

end AdmissionController

/-! ### Permits -/

/-- `ControlPlaneFailure`. -/
structure ControlPlaneFailure where
  statusCode : Int
  code : String
  message : String
  deriving DecidableEq

structure AdmissionPermit where
  tenantId : String
  released : Bool
  deriving DecidableEq

/-- `AdmissionPermit(controller, tenant_id)`. -/
def AdmissionPermit.new (tenantId : String) : AdmissionPermit := ⟨tenantId, false⟩

/-- `AdmissionPermit.release`. -/
def AdmissionPermit.release (permit : AdmissionPermit) (controller : AdmissionController) :
    AdmissionPermit × AdmissionController :=
  if permit.released = false then
    ({ permit with released := true }, controller.release permit.tenantId)
  else (permit, controller)

/-- `APIControlPlane.admit`, for the tenant of the principal. -/
def admitPermit (controller : AdmissionController) (tenantId : String) (estimatedTokens : Int)
    (current : Rat) : Except ControlPlaneFailure AdmissionPermit × AdmissionController :=
  match controller.admitRequest tenantId estimatedTokens current with
  | (false, controller) => (.error ⟨429, "quota_exceeded", "Request quota exceeded."⟩, controller)
  | (true, controller) => (.ok (.new tenantId), controller)

/-! ### The machine -/

/-- The controller and the permits it has granted each tenant, oldest first. -/
structure ControlPlane where
  admission : AdmissionController
  permits : String → List AdmissionPermit

def ControlPlane.new (policies : String → Option QuotaPolicy) : ControlPlane :=
  ⟨.new policies, fun _ => []⟩

/-- A request for a permit, or one more release of a permit that was granted. -/
inductive Call where
  | request (tenantId : String) (estimatedTokens : Int) (current : Rat)
  | release (tenantId : String) (index : Nat)
  deriving DecidableEq

def Call.tenantId : Call → String
  | .request tenantId _ _ => tenantId
  | .release tenantId _ => tenantId

/-- The time of a call that has one. -/
def Call.time : Call → Option Rat
  | .request _ _ current => some current
  | .release _ _ => none

inductive Answer where
  | permit (result : Except ControlPlaneFailure AdmissionPermit)
  | done

/-- A permit was granted. -/
def Answer.isGranted : Answer → Bool
  | .permit (.ok _) => true
  | _ => false

namespace ControlPlane

variable (plane : ControlPlane)

/-- The permits of a tenant are replaced. -/
def withPermits (admission : AdmissionController) (tenantId : String)
    (permits : List AdmissionPermit) : ControlPlane :=
  ⟨admission, Function.update plane.permits tenantId permits⟩

def step : Call → Answer × ControlPlane
  | .request tenantId estimatedTokens current =>
      match admitPermit plane.admission tenantId estimatedTokens current with
      | (.error failure, admission) => (.permit (.error failure), { plane with admission })
      | (.ok permit, admission) =>
          (.permit (.ok permit),
            plane.withPermits admission tenantId (plane.permits tenantId ++ [permit]))
  | .release tenantId index =>
      match (plane.permits tenantId)[index]? with
      | none => (.done, plane)
      | some permit =>
          let (permit, admission) := permit.release plane.admission
          (.done,
            plane.withPermits admission tenantId ((plane.permits tenantId).set index permit))

/-- The control plane as a machine. -/
def machine : Machine ControlPlane Call Answer where
  step := step

/-- `usage.concurrent`, nothing without any usage. -/
def concurrent (tenantId : String) : Int :=
  ((plane.admission.usage tenantId).map TenantUsage.concurrent).getD 0

/-- How many permits of a tenant are granted and not yet released. -/
def outstanding (tenantId : String) : Int :=
  ((plane.permits tenantId).countP fun permit => !permit.released : Nat)

end ControlPlane

/-- The request that an answer grants a tenant: its time and its estimated tokens. -/
def grantOf (tenantId : String) : Call × Answer → Option (Rat × Int)
  | (.request tenant estimatedTokens current, answer) =>
      if tenant = tenantId ∧ answer.isGranted = true then some (current, estimatedTokens) else none
  | (.release _ _, _) => none

/-- The requests a tenant was granted in a run. -/
def grants (policies : String → Option QuotaPolicy) (calls : List Call) (tenantId : String) :
    List (Rat × Int) :=
  (ControlPlane.machine.answers (.new policies) calls).filterMap (grantOf tenantId)

/-- Every grant counts for one request. -/
def asRequests (granted : List (Rat × Int)) : List (Rat × Int) :=
  granted.map fun entry => (entry.1, 1)

end Control
end Ryuk
