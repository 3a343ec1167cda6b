import Ryuk.Control.RedisAdmission
import Ryuk.Control.Security

/-!
# The control plane of a configuration

The keys and the quotas of a configuration document, and the check a production process makes
before it serves.  The types of the document's fields are those the source declares for them.
-/

namespace Ryuk
namespace Control

open Foundation Foundation.Datetime Foundation.Encoding

/-! ### Documents -/

/-- `Role(value)`. -/
def Role.ofValue (value : String) : Except PyError Role :=
  if value = "inference" then .ok .inference
  else if value = "operator" then .ok .operator
  else if value = "admin" then .ok .admin
  else .error (.valueError (value ++ " is not a valid Role"))

/-- An entry of `api_keys`. -/
structure ApiKeyItem where
  principalId : String
  tenantId : String
  roles : List String
  keyId : String
  salt : String
  digest : String
  expiresAt : Option String
  revokedAt : Option String

/-- `_optional_datetime`. -/
def optionalDatetime : Option String → Except PyError (Option DateTime)
  | none => .ok none
  | some value =>
      match fromisoformat value with
      | none => .error (.valueError "Invalid isoformat string")
      | some moment => .ok (some moment)

/-- The record of an entry. -/
def ApiKeyItem.record (item : ApiKeyItem) : Except PyError APIKeyRecord := do
  let roles ← item.roles.mapM Role.ofValue
  let principal ← Principal.new item.principalId item.tenantId roles.toFinset
  let expiresAt ← optionalDatetime item.expiresAt
  let revokedAt ← optionalDatetime item.revokedAt
  APIKeyRecord.new item.keyId item.salt item.digest principal expiresAt revokedAt

/-- The loop of `load_api_control` over the entries. -/
def addKeys : List ApiKeyItem → Dict String APIKeyRecord → Except PyError (Dict String APIKeyRecord)
  | [], keys => .ok keys
  | item :: rest, keys => do
      let record ← item.record
      ensure (keys.get? record.keyId).isNone (.valueError "API key identifiers must be unique.")
      addKeys rest (keys.set record.keyId record)

/-- An entry of `quotas`. -/
structure QuotaItem where
  tenantId : String
  requestsPerMinute : Int
  concurrentRequests : Int
  tokensPerMinute : Int

/-- The policies of the entries. -/
def addPolicies : List QuotaItem → Dict String QuotaPolicy → Except PyError (Dict String QuotaPolicy)
  | [], policies => .ok policies
  | item :: rest, policies => do
      let policy ← QuotaPolicy.new item.requestsPerMinute item.concurrentRequests
        item.tokensPerMinute
      addPolicies rest (policies.set item.tenantId policy)

structure ControlDocument where
  apiKeys : List ApiKeyItem
  quotas : List QuotaItem

/-! ### The plane -/

/-- The store of the execution records. -/
inductive RecordsBackend where
  | sqlite
  | postgresql

/-- The coordinator of the admissions. -/
inductive AdmissionBackend where
  | process
  | redis

structure APIControlPlane where
  apiKeys : Dict String APIKeyRecord
  policies : Dict String QuotaPolicy
  admission : AdmissionBackend
  records : Option RecordsBackend

/-- `load_api_control`; the arguments say which locations are configured. -/
def loadApiControl (document : Option ControlDocument) (recordPath databaseUrl redisUrl : Bool) :
    Except PyError APIControlPlane :=
  match document with
  | none => .ok ⟨Dict.empty, Dict.empty, .process, none⟩
  | some document => do
      let apiKeys ← addKeys document.apiKeys Dict.empty
      let policies ← addPolicies document.quotas Dict.empty
      pure ⟨apiKeys, policies, if redisUrl then .redis else .process,
        if databaseUrl then some .postgresql else if recordPath then some .sqlite else none⟩

/-- What `health` of a store says: whether it is ready, durable and distributed. -/
def RecordsBackend.health (reachable : Bool) : RecordsBackend → Bool × Bool × Bool
  | .sqlite => (true, true, false)
  | .postgresql => (reachable, true, true)

/-- What `health` of a coordinator says, if it has one: whether it is ready and distributed. -/
def AdmissionBackend.health (reachable : Bool) : AdmissionBackend → Option (Bool × Bool)
  | .process => none
  | .redis => some (reachable, true)

/-- `active_records`. -/
def APIControlPlane.activeRecords (plane : APIControlPlane) (clock : Instant) :
    List APIKeyRecord :=
  plane.apiKeys.values.filter fun record => decide (record.Live clock)

/-- `verify_production_ready`, with the answers of the database and of Redis.  A failure is the
text of its `RuntimeError`. -/
def APIControlPlane.verifyProductionReady (plane : APIControlPlane) (clock : Instant)
    (database redis : Bool) : Except String Unit :=
  let active := plane.activeRecords clock
  if active.isEmpty then .error "Production requires at least one active API key."
  else if active.any fun record => (plane.policies.get? record.principal.tenantId).isNone then
    .error "Production requires quota policies for every credential tenant."
  else
    match plane.records with
    | none => .error "Production requires a durable execution-record store."
    | some records =>
        let (ready, durable, distributed) := records.health database
        if !ready || !durable || !distributed then
          .error "Production execution-record store is not ready."
        else
          match plane.admission.health redis with
          | none => .error "Production admission coordinator has no health check."
          | some (ready, distributed) =>
              if !ready || !distributed then
                .error "Production admission coordinator is not ready."
              else .ok ()

/-! ### Loaded keys -/

/-- An entry of the record of an issued key. -/
structure ApiKeyItem.IssuedAs (scrypt : Scrypt) (item : ApiKeyItem) (tokens : KeyTokens) : Prop where
  keyId : item.keyId = hexText tokens.keyId
  salt : item.salt = hexText tokens.salt
  digest : item.digest = hexText (scrypt (utf8Bytes (urlsafeText tokens.secret)) tokens.salt)

section Loaded

variable {scrypt : Scrypt} {item : ApiKeyItem} {record : APIKeyRecord} {tokens : KeyTokens}
  {items : List ApiKeyItem} {keys final : Dict String APIKeyRecord} {keyId : String}

theorem record_spec (h : item.record = .ok record) :
    record.keyId = item.keyId ∧ record.salt = item.salt ∧ record.digest = item.digest := by
  unfold ApiKeyItem.record at h
  obtain ⟨roles, -, h⟩ := except_bind_ok.mp h
  obtain ⟨principal, -, h⟩ := except_bind_ok.mp h
  obtain ⟨expiresAt, -, h⟩ := except_bind_ok.mp h
  obtain ⟨revokedAt, -, h⟩ := except_bind_ok.mp h
  unfold APIKeyRecord.new at h
  split_ifs at h with hzoned
  obtain rfl := Except.ok.inj h
  exact ⟨rfl, rfl, rfl⟩

theorem ApiKeyItem.IssuedAs.made (hissued : item.IssuedAs scrypt tokens)
    (h : item.record = .ok record) : record.IssuedAs scrypt tokens := by
  obtain ⟨hkeyId, hsalt, hdigest⟩ := record_spec h
  exact ⟨hkeyId.trans hissued.keyId, hsalt.trans hissued.salt, hdigest.trans hissued.digest⟩

theorem APIKeyRecord.IssuedAs.entry (hissued : record.IssuedAs scrypt tokens)
    (h : item.record = .ok record) : item.IssuedAs scrypt tokens := by
  obtain ⟨hkeyId, hsalt, hdigest⟩ := record_spec h
  exact ⟨hkeyId.symm.trans hissued.keyId, hsalt.symm.trans hissued.salt,
    hdigest.symm.trans hissued.digest⟩

end Loaded

/-! ### Loaded quotas -/

/-- A policy is one there was or that of an entry for its tenant. -/
theorem addPolicies_get {items : List QuotaItem} {policies final : Dict String QuotaPolicy}
    {tenantId : String} {policy : QuotaPolicy} (h : addPolicies items policies = .ok final)
    (hget : final.get? tenantId = some policy) :
    policies.get? tenantId = some policy ∨
      ∃ item ∈ items, item.tenantId = tenantId ∧
        QuotaPolicy.new item.requestsPerMinute item.concurrentRequests item.tokensPerMinute =
          .ok policy := by
  induction items generalizing policies with
  | nil =>
      obtain rfl := Except.ok.inj h
      exact Or.inl hget
  | cons item rest ih =>
      unfold addPolicies at h
      obtain ⟨added, hadded, h⟩ := except_bind_ok.mp h
      rcases ih h with hbefore | ⟨found, hmem, hfound⟩
      · by_cases htenant : item.tenantId = tenantId
        · subst htenant
          rw [Dict.get?_set_self] at hbefore
          obtain rfl := Option.some.inj hbefore
          exact Or.inr ⟨item, List.mem_cons_self, rfl, hadded⟩
        · rw [Dict.get?_set_other htenant] at hbefore
          exact Or.inl hbefore
      · exact Or.inr ⟨found, List.mem_cons_of_mem _ hmem, hfound⟩

/-! ### Ready planes -/

section Ready

variable {plane : APIControlPlane} {clock : Instant} {database redis : Bool}

/-- The tenants of a ready plane's active keys have quotas. -/
theorem ready_quotas (h : plane.verifyProductionReady clock database redis = .ok ())
    {record : APIKeyRecord} (hrecord : record ∈ plane.apiKeys.values) (hlive : record.Live clock) :
    ∃ policy, plane.policies.get? record.principal.tenantId = some policy := by
  unfold APIControlPlane.verifyProductionReady at h
  dsimp only at h
  split_ifs at h with hempty hmissing
  have hactive : record ∈ plane.activeRecords clock :=
    List.mem_filter.mpr ⟨hrecord, decide_eq_true hlive⟩
  rw [List.any_eq_true, not_exists] at hmissing
  apply Option.ne_none_iff_exists'.mp
  intro hnone
  exact hmissing record ⟨hactive, by rw [hnone]; rfl⟩

/-- The backends of a ready plane are the shared ones, and both answered. -/
theorem ready_backends (h : plane.verifyProductionReady clock database redis = .ok ()) :
    plane.records = some .postgresql ∧ database = true ∧ plane.admission = .redis ∧
      redis = true := by
  unfold APIControlPlane.verifyProductionReady at h
  dsimp only at h
  split_ifs at h
  cases hrecords : plane.records with
  | none =>
      rw [hrecords] at h
      cases h
  | some records =>
      cases records with
      | sqlite =>
          rw [hrecords] at h
          cases h
      | postgresql =>
          cases hadmission : plane.admission with
          | process =>
              rw [hrecords, hadmission] at h
              cases database <;> cases h
          | redis =>
              rw [hrecords, hadmission] at h
              cases database with
              | false => cases h
              | true =>
                  cases redis with
                  | false => cases h
                  | true => exact ⟨rfl, rfl, rfl, rfl⟩

end Ready

end Control
end Ryuk
