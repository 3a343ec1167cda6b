import Ryuk.Foundation.RedisScript
import Ryuk.Control.Admission

/-!
# Admission across processes

Any number of `RedisAdmissionController`s share one hash for each tenant.  A request
is one run of `_ADMIT_SCRIPT`, the release of a permit one run of `_RELEASE_SCRIPT`.
The hash counts what was granted in the current minute of the clock, and the permits
that are held; it is kept while a permit is held and for three minutes after that.
-/

namespace Ryuk
namespace Control

open Foundation Foundation.Redis Foundation.Redis.Script

/-! ### Scripts -/

inductive UsageField where
  | minute
  | requests
  | tokens
  | concurrent
  deriving DecidableEq

/-- What is stored for a tenant. -/
abbrev UsageEntry := Entry UsageField

/-- The minute of a time in microseconds. -/
def minuteOf (now : Nat) : Int := ((now / 1000000 / 60 : Nat) : Int)

/-- The counters start again with a new minute. -/
def startMinute (minute : Int) : Script UsageField Unit := do
  let stored := (← hget .minute).getD (-1)
  if stored ≠ minute then do
    hset .minute minute
    hset .requests 0
    hset .tokens 0
    pure ()
  else pure ()

/-- `_ADMIT_SCRIPT`. -/
def requestScript (now : Nat)
    (requestsPerMinute concurrentRequests tokensPerMinute estimatedTokens : Int) :
    Script UsageField Int := do
  startMinute (minuteOf now)
  let requests := tonumber ((← hget .requests).getD 0)
  let tokens := tonumber ((← hget .tokens).getD 0)
  let concurrent := tonumber ((← hget .concurrent).getD 0)
  if tonumber requestsPerMinute ≤ requests ∨
      tonumber tokensPerMinute < tonumber (tokens + tonumber estimatedTokens) ∨
      tonumber concurrentRequests ≤ concurrent then
    pure 0
  else do
    let _ ← hincrby .requests 1
    let _ ← hincrby .tokens estimatedTokens
    let _ ← hincrby .concurrent 1
    persist
    pure 1

/-- `_RELEASE_SCRIPT`. -/
def releaseScript (now : Nat) : Script UsageField Int := do
  let concurrent := tonumber ((← hget .concurrent).getD 0)
  if 0 < concurrent then do
    let remaining ← hincrby .concurrent (-1)
    if remaining = 0 then do
      expire now 180
      pure 1
    else pure 1
  else pure 1

/-! ### Controllers -/

structure RedisAdmissionController where
  policies : String → Option QuotaPolicy
  keyPrefix : String

/-- `_key`. -/
def RedisAdmissionController.key (controller : RedisAdmissionController) (tenantId : String) :
    String :=
  controller.keyPrefix ++ ":" ++ tenantId

/-- A call of `admit` or of `release`, with the time of the Redis server. -/
inductive RedisCall where
  | request (controller : RedisAdmissionController) (tenantId : String) (estimatedTokens : Int)
      (now : Nat)
  | release (controller : RedisAdmissionController) (tenantId : String) (now : Nat)

namespace RedisCall

def now : RedisCall → Nat
  | .request _ _ _ now => now
  | .release _ _ now => now

/-- The key that a call is about. -/
def key : RedisCall → String
  | .request controller tenantId _ _ => controller.key tenantId
  | .release controller tenantId _ => controller.key tenantId

/-- The script that a call runs, if any. -/
def script : RedisCall → Option (Script UsageField Int)
  | .request controller tenantId estimatedTokens now =>
      match controller.policies tenantId with
      | none => none
      | some policy =>
          if estimatedTokens < 0 then none
          else some (requestScript now policy.requestsPerMinute policy.concurrentRequests
            policy.tokensPerMinute estimatedTokens)
  | .release _ _ now => some (releaseScript now)

end RedisCall

/-- What a call gets from Redis; nothing when it runs no script. -/
abbrev RedisAnswer := Option (Except String Int)

/-- `result == 1`; an error is a refusal. -/
def RedisAnswer.isGranted : RedisAnswer → Bool
  | some (.ok result) => decide (result = 1)
  | _ => false

/-- All controllers and their database, as one machine; `due` says which deadlines
have passed. -/
def redisMachine (due : Nat → Nat → Bool) : Machine (Database UsageField) RedisCall RedisAnswer where
  step database call :=
    match call.script with
    | none => (none, database.purge due call.now)
    | some script =>
        let (answer, database) := (database.purge due call.now).eval call.key script
        (some answer, database)

/-- The database without any key. -/
def noKeys : Database UsageField := fun _ => none

/-- What a call adds to the permits that are held at a key. -/
def permitGain (key : String) : RedisCall → RedisAnswer → Int
  | .request controller tenantId _ _, answer =>
      if controller.key tenantId = key ∧ answer.isGranted = true then 1 else 0
  | .release controller tenantId _, _ => if controller.key tenantId = key then -1 else 0

/-- The permits granted at a key in a run, less the released ones. -/
def permitsHeld (due : Nat → Nat → Bool) (calls : List RedisCall) (key : String) : Int :=
  (redisMachine due).total (permitGain key) noKeys calls

end Control
end Ryuk
