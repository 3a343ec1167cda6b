import Ryuk.Api.Inference
import Ryuk.Control.Provisioning

/-!
# Who gets in

The dependency of the protected routes: a request bears a key, the key is judged, and the role
and the tenant the request asks for are checked.  The keys are those of a configuration.
-/

namespace Ryuk
namespace Api

open Foundation Foundation.Datetime Foundation.Encoding Foundation.Text
open Control

/-! ### The dependency -/

def authenticationRequired : ControlPlaneFailure :=
  ⟨401, "authentication_required", "Authentication required."⟩

def invalidCredentials : ControlPlaneFailure :=
  ⟨401, "invalid_credentials", "Invalid credentials."⟩

def forbidden : ControlPlaneFailure := ⟨403, "forbidden", "Operation not permitted."⟩

/-- The headers the dependency reads. -/
structure Headers where
  authorization : Option String
  tenantId : Option String

variable (platform : Platform) (scrypt : Scrypt) (keys : Dict String APIKeyRecord)

/-- The principal of a key, or a refusal. -/
def principalOf : Except PyError (Option Principal) → Except ApiError Principal
  | .error error => .error (.raised error)
  | .ok none => .error (.control invalidCredentials)
  | .ok (some principal) => .ok principal

/-- `authenticate`, by the clock. -/
def authenticate (authorization : Option String) (clock : Instant) : Except ApiError Principal :=
  match authorization with
  | none => .error (.control authenticationRequired)
  | some authorization =>
      match cutAt ' ' authorization.toList with
      | none => .error (.control invalidCredentials)
      | some (scheme, value) =>
          if platform.casefold (String.ofList scheme) ≠ "bearer" ∨
              isBlank (String.ofList value) = true then
            .error (.control invalidCredentials)
          else
            principalOf (authenticateApiKey scrypt (strip (String.ofList value)) keys clock.utc)

/-- `APIControlPlane.require_role`. -/
def requireGranted (principal : Principal) (role : Role) (tenantId : Option String) :
    Except ApiError Unit :=
  if authorize principal (tenantId.getD principal.tenantId) role then .ok ()
  else .error (.control forbidden)

/-- The dependency that `require_role` makes. -/
def requireRole (role : Role) (headers : Headers) (clock : Instant) : Except ApiError Principal := do
  let principal ← authenticate platform scrypt keys headers.authorization clock
  requireGranted principal role headers.tenantId
  pure principal

/-! ### What a request bears -/

/-- The value after the scheme, without outer white space. -/
def Bears (authorization value : String) : Prop :=
  ∃ scheme padded, authorization = scheme ++ " " ++ padded ∧ ' ' ∉ scheme.toList ∧
    platform.casefold scheme = "bearer" ∧ isBlank padded = false ∧ value = strip padded

/-- The role is granted, and the tenant asked for is the principal's own. -/
def Entitled (principal : Principal) (role : Role) (tenantId : Option String) : Prop :=
  (∀ asked ∈ tenantId, asked = principal.tenantId) ∧
    (role ∈ principal.roles ∨ Role.admin ∈ principal.roles)

section Decisions

variable {platform : Platform} {scrypt : Scrypt} {keys : Dict String APIKeyRecord}
  {role : Role} {headers : Headers} {clock later : Instant} {principal : Principal}
  {authorization value : String}

theorem authorize_iff {tenantId : Option String} :
    authorize principal (tenantId.getD principal.tenantId) role = true ↔
      Entitled principal role tenantId := by
  unfold authorize Entitled
  rw [Bool.and_eq_true, Bool.or_eq_true, decide_eq_true_iff, decide_eq_true_iff,
    decide_eq_true_iff]
  cases tenantId with
  | none => simp
  | some asked =>
      refine and_congr_left' ⟨fun h found hfound => ?_, fun h => (h asked rfl).symm⟩
      exact (Option.some.inj hfound).symm.trans h.symm

theorem requireGranted_cases {tenantId : Option String} :
    (Entitled principal role tenantId ∧ requireGranted principal role tenantId = .ok ()) ∨
      (¬ Entitled principal role tenantId ∧
        requireGranted principal role tenantId = .error (.control forbidden)) := by
  unfold requireGranted
  split_ifs with h
  · exact Or.inl ⟨authorize_iff.mp h, rfl⟩
  · exact Or.inr ⟨fun hentitled => h (authorize_iff.mpr hentitled), rfl⟩

/-- A request with a header bears a value and is judged by it, or is refused. -/
theorem authenticate_cases :
    (∃ value, Bears platform authorization value ∧
      authenticate platform scrypt keys (some authorization) clock =
        principalOf (authenticateApiKey scrypt value keys clock.utc)) ∨
    ((∀ value, ¬ Bears platform authorization value) ∧
      authenticate platform scrypt keys (some authorization) clock =
        .error (.control invalidCredentials)) := by
  unfold authenticate
  dsimp only
  cases hcut : cutAt ' ' authorization.toList with
  | none =>
      refine Or.inr ⟨?_, rfl⟩
      rintro value ⟨scheme, padded, rfl, hscheme, -⟩
      have hparts : cutAt ' ' (scheme ++ " " ++ padded).toList =
          some (scheme.toList, padded.toList) := cutAt_iff.mpr ⟨by simp, hscheme⟩
      rw [hcut] at hparts
      cases hparts
  | some parts =>
      obtain ⟨scheme, value⟩ := parts
      obtain ⟨hparts, hscheme⟩ := cutAt_iff.mp hcut
      dsimp only
      split_ifs with hrefused
      · refine Or.inr ⟨?_, rfl⟩
        rintro found ⟨scheme', padded, rfl, hscheme', hbearer, hwritten, -⟩
        have hsame : cutAt ' ' (scheme' ++ " " ++ padded).toList =
            some (scheme'.toList, padded.toList) := cutAt_iff.mpr ⟨by simp, hscheme'⟩
        rw [hcut, Option.some.injEq, Prod.mk.injEq] at hsame
        rw [hsame.1, hsame.2, String.ofList_toList, String.ofList_toList, hwritten] at hrefused
        rcases hrefused with hother | hblank
        · exact hother hbearer
        · cases hblank
      · rw [not_or, not_not, Bool.not_eq_true] at hrefused
        refine Or.inl ⟨_, ⟨String.ofList scheme, String.ofList value, ?_, ?_, hrefused.1,
          hrefused.2, rfl⟩, rfl⟩
        · rw [← String.toList_inj, hparts]
          simp
        · rw [String.toList_ofList]
          exact hscheme

/-- A request bears one value. -/
theorem Bears.unique {other : String} (h : Bears platform authorization value)
    (h' : Bears platform authorization other) : value = other := by
  obtain ⟨scheme, padded, rfl, hscheme, -, -, rfl⟩ := h
  obtain ⟨scheme', padded', heq, hscheme', -, -, rfl⟩ := h'
  have hcut : cutAt ' ' (scheme ++ " " ++ padded).toList =
      some (scheme.toList, padded.toList) := cutAt_iff.mpr ⟨by simp, hscheme⟩
  have hcut' : cutAt ' ' (scheme ++ " " ++ padded).toList =
      some (scheme'.toList, padded'.toList) := cutAt_iff.mpr ⟨by rw [heq]; simp, hscheme'⟩
  rw [hcut, Option.some.injEq, Prod.mk.injEq] at hcut'
  rw [String.toList_inj.mp hcut'.2]

theorem requireRole_error {failure : ApiError}
    (h : authenticate platform scrypt keys headers.authorization clock = .error failure) :
    requireRole platform scrypt keys role headers clock = .error failure := by
  unfold requireRole
  rw [h]
  rfl

/-- Who is authenticated gets in or is refused as he is entitled. -/
theorem requireRole_ok
    (h : authenticate platform scrypt keys headers.authorization clock = .ok principal) :
    (Entitled principal role headers.tenantId ∧
      requireRole platform scrypt keys role headers clock = .ok principal) ∨
    (¬ Entitled principal role headers.tenantId ∧
      requireRole platform scrypt keys role headers clock = .error (.control forbidden)) := by
  unfold requireRole
  rw [h]
  show (_ ∧ (requireGranted principal role headers.tenantId >>= fun _ => .ok principal) = _) ∨
    (_ ∧ (requireGranted principal role headers.tenantId >>= fun _ => .ok principal) = _)
  rcases @requireGranted_cases role principal headers.tenantId with ⟨hentitled, hgranted⟩ |
    ⟨hnot, hrefused⟩
  · rw [hgranted]
    exact Or.inl ⟨hentitled, rfl⟩
  · rw [hrefused]
    exact Or.inr ⟨hnot, rfl⟩

end Decisions

/-! ### Configured keys -/

section Configuration

variable {platform : Platform} {scrypt : Scrypt} {keys : Dict String APIKeyRecord}
  {items : List ApiKeyItem} {role : Role} {headers : Headers} {clock : Instant}
  {principal : Principal} {value : String}

end Configuration

/-! ### Decisions -/

section Production

variable {platform : Platform} {scrypt : Scrypt} {keys : Dict String APIKeyRecord} {role : Role}
  {headers : Headers} {principal : Principal} {document : Option ControlDocument}
  {recordPath databaseUrl redisUrl database redis : Bool} {plane : APIControlPlane}
  {clock later : Instant}

theorem principalOf_ok {outcome : Except PyError (Option Principal)}
    (h : principalOf outcome = .ok principal) : outcome = .ok (some principal) := by
  cases outcome with
  | error error => cases h
  | ok found =>
      cases found with
      | none => cases h
      | some found =>
          obtain rfl := Except.ok.inj h
          rfl

/-- Whoever gets in has a live record. -/
theorem requireRole_live
    (h : requireRole platform scrypt keys role headers clock = .ok principal) :
    ∃ record ∈ keys.values, record.Live clock ∧ record.principal = principal := by
  cases hjudged : authenticate platform scrypt keys headers.authorization clock with
  | error failure =>
      rw [requireRole_error hjudged] at h
      cases h
  | ok found =>
      obtain rfl : found = principal := by
        rcases @requireRole_ok platform scrypt keys role headers clock found hjudged with
          ⟨-, hgranted⟩ | ⟨-, hforbidden⟩
        · exact Except.ok.inj (hgranted.symm.trans h)
        · rw [hforbidden] at h
          cases h
      cases hheader : headers.authorization with
      | none =>
          rw [hheader] at hjudged
          cases hjudged
      | some authorization =>
          rw [hheader] at hjudged
          rcases @authenticate_cases platform scrypt keys clock authorization with
            ⟨value, -, hsame⟩ | ⟨-, hrefused⟩
          · rw [hsame] at hjudged
            exact authenticateApiKey_live (principalOf_ok hjudged)
          · rw [hrefused] at hjudged
            cases hjudged

/-- **Production.**  A process that passed its production check was given a document and shared
backends that answered; and whoever gets in then or later has the quotas of an entry of it. -/
theorem production_quotas
    (hloaded : loadApiControl document recordPath databaseUrl redisUrl = .ok plane)
    (hready : plane.verifyProductionReady clock database redis = .ok ()) :
    databaseUrl = true ∧ database = true ∧ redisUrl = true ∧ redis = true ∧
      ∃ given, document = some given ∧ ∀ later : Instant, clock.micros ≤ later.micros →
        ∀ role headers principal,
          requireRole platform scrypt plane.apiKeys role headers later = .ok principal →
          ∃ item ∈ given.quotas, ∃ policy, item.tenantId = principal.tenantId ∧
            QuotaPolicy.new item.requestsPerMinute item.concurrentRequests
              item.tokensPerMinute = .ok policy ∧
            plane.policies.get? principal.tenantId = some policy := by
  obtain ⟨hrecords, hdatabase, hadmission, hredis⟩ := ready_backends hready
  cases document with
  | none =>
      obtain rfl := Except.ok.inj hloaded
      cases hrecords
  | some given =>
      unfold loadApiControl at hloaded
      obtain ⟨apiKeys, -, hloaded⟩ := except_bind_ok.mp hloaded
      obtain ⟨policies, hpolicies, hloaded⟩ := except_bind_ok.mp hloaded
      obtain rfl := Except.ok.inj hloaded
      have hurls : databaseUrl = true ∧ redisUrl = true := by
        constructor
        · cases databaseUrl with
          | true => rfl
          | false => cases recordPath <;> cases hrecords
        · cases redisUrl with
          | true => rfl
          | false => cases hadmission
      refine ⟨hurls.1, hdatabase, hurls.2, hredis, given, rfl, ?_⟩
      intro later hlater role headers principal hgranted
      -- a record that lives later lived when the check was made
      obtain ⟨record, hmem, hlive, rfl⟩ := requireRole_live hgranted
      obtain ⟨policy, hpolicy⟩ := ready_quotas hready hmem (hlive.earlier hlater)
      rcases addPolicies_get hpolicies hpolicy with hempty | ⟨item, hitem, htenant, hnew⟩
      · cases hempty
      · exact ⟨item, hitem, policy, htenant, hnew, hpolicy⟩

end Production

end Api
end Ryuk
