import Ryuk.Foundation.Datetime
import Ryuk.Foundation.Dict
import Ryuk.Foundation.Encoding
import Ryuk.Platform

/-!
# API keys

A key is three parts joined by underscores: a scheme, the identifier of a record and a secret.
The record keeps a salted digest of the secret, the principal of the key and the two ends of its
life.  The digest is a parameter.
-/

namespace Ryuk
namespace Control

open Foundation Foundation.Datetime Foundation.Encoding Foundation.Text

/-! ### Principals -/

inductive Role where
  | inference
  | operator
  | admin
  deriving DecidableEq

structure Principal where
  principalId : String
  tenantId : String
  roles : Finset Role
  identified : isBlank principalId = false ∧ isBlank tenantId = false ∧ roles.Nonempty

def Principal.new (principalId tenantId : String) (roles : Finset Role) :
    Except PyError Principal :=
  if h : isBlank principalId = false ∧ isBlank tenantId = false ∧ roles.Nonempty then
    .ok ⟨principalId, tenantId, roles, h⟩
  else .error (.valueError "Principal identity and roles are required.")

/-- `authorize`: the tenant is the principal's own, and the role is granted. -/
def authorize (principal : Principal) (tenantId : String) (role : Role) : Bool :=
  decide (principal.tenantId = tenantId) &&
    (decide (role ∈ principal.roles) || decide (Role.admin ∈ principal.roles))

/-! ### Records -/

/-- Whether a moment, if it is there, has an offset. -/
def isZoned (moment : Option DateTime) : Bool := moment.all fun value => value.utcoffset.isSome

structure APIKeyRecord where
  keyId : String
  salt : String
  digest : String
  principal : Principal
  expiresAt : Option DateTime
  revokedAt : Option DateTime
  zoned : isZoned expiresAt = true ∧ isZoned revokedAt = true

def APIKeyRecord.new (keyId salt digest : String) (principal : Principal)
    (expiresAt revokedAt : Option DateTime) : Except PyError APIKeyRecord :=
  if h : isZoned expiresAt = true ∧ isZoned revokedAt = true then
    .ok ⟨keyId, salt, digest, principal, expiresAt, revokedAt, h⟩
  else .error (.valueError "API key lifecycle timestamps require timezone data.")

/-- `current >= moment`; a reading with an offset is not compared with one without. -/
def hasReached (current moment : DateTime) : Except PyError Bool :=
  match current.utcoffset, moment.utcoffset with
  | some offset, some offset' =>
      .ok (decide ((moment.reading.micros : Int) - offset' ≤ current.reading.micros - offset))
  | none, none => .ok (decide (moment.reading.micros ≤ current.reading.micros))
  | _, _ => .error .typeError

/-! ### Keys -/

/-- The bytes a digest is made of, from those of the secret and of the salt. -/
abbrev Scrypt := List UInt8 → List UInt8 → List UInt8

/-- `_digest`. -/
def digestOf (scrypt : Scrypt) (secret salt : String) : Except PyError String :=
  match fromHex salt with
  | none => .error (.valueError "non-hexadecimal number found in fromhex() arg")
  | some bytes => .ok (hexText (scrypt (utf8Bytes secret) bytes))

/-- The random bytes of a new key. -/
structure KeyTokens where
  keyId : List UInt8
  secret : List UInt8
  salt : List UInt8
  sized : keyId.length = 12 ∧ secret.length = 32 ∧ salt.length = 16

/-- The key that is handed out. -/
def KeyTokens.text (tokens : KeyTokens) : String :=
  "ryuk_" ++ hexText tokens.keyId ++ "_" ++ urlsafeText tokens.secret

/-- `issue_api_key`. -/
def issueApiKey (scrypt : Scrypt) (tokens : KeyTokens) (principal : Principal)
    (expiresAt : Option DateTime) : Except PyError (String × APIKeyRecord) := do
  let digest ← digestOf scrypt (urlsafeText tokens.secret) (hexText tokens.salt)
  let record ← APIKeyRecord.new (hexText tokens.keyId) (hexText tokens.salt) digest principal
    expiresAt none
  pure (tokens.text, record)

/-- Whether every character is one of ASCII. -/
def isAscii (text : String) : Bool := text.toList.all fun c => decide (c.toNat < 128)

/-- `hmac.compare_digest` of two texts. -/
def compareDigest (left right : String) : Except PyError Bool :=
  if isAscii left && isAscii right then .ok (decide (left = right)) else .error .typeError

/-- Whether a record is revoked or has expired. -/
def APIKeyRecord.hasEnded (record : APIKeyRecord) (current : DateTime) : Except PyError Bool :=
  if record.revokedAt.isSome then .ok true
  else
    match record.expiresAt with
    | none => .ok false
    | some expiresAt => hasReached current expiresAt

/-- The principal of a record whose secret is presented in its life. -/
def APIKeyRecord.accept (scrypt : Scrypt) (record : APIKeyRecord) (secret : String)
    (current : DateTime) : Except PyError (Option Principal) := do
  let found ← digestOf scrypt secret record.salt
  let same ← compareDigest found record.digest
  if same then do
    let ended ← record.hasEnded current
    pure (if ended then none else some record.principal)
  else pure none

/-- The principal of the record with an identifier. -/
def acceptKey (scrypt : Scrypt) (records : Dict String APIKeyRecord) (keyId secret : String)
    (current : DateTime) : Except PyError (Option Principal) :=
  match records.get? keyId with
  | none => .ok none
  | some record => record.accept scrypt secret current

/-- `authenticate_api_key`; `current` is the argument `now`, or else the reading of the clock. -/
def authenticateApiKey (scrypt : Scrypt) (value : String) (records : Dict String APIKeyRecord)
    (current : DateTime) : Except PyError (Option Principal) :=
  match splitAtMost '_' 2 value.toList with
  | [scheme, keyId, secret] =>
      if String.ofList scheme = "ryuk" then
        acceptKey scrypt records (String.ofList keyId) (String.ofList secret) current
      else .ok none
  | _ => .ok none

/-! ### Lives -/

/-- The moment a reading with an offset stands for. -/
def momentOf (value : DateTime) : Int := value.reading.micros - value.utcoffset.getD 0

/-- A record that is not revoked, before it expires. -/
def APIKeyRecord.Live (record : APIKeyRecord) (clock : Instant) : Prop :=
  record.revokedAt = none ∧ ∀ expiresAt ∈ record.expiresAt, (clock.micros : Int) < momentOf expiresAt

instance (record : APIKeyRecord) (clock : Instant) : Decidable (record.Live clock) :=
  inferInstanceAs (Decidable (_ ∧ _))

section Lives

variable {scrypt : Scrypt} {record : APIKeyRecord} {clock later : Instant}

/-- By a clock in UTC the life of a record is always known. -/
theorem hasEnded_utc : record.hasEnded clock.utc = .ok (decide (¬ record.Live clock)) := by
  obtain ⟨_, _, _, _, expiresAt, revokedAt, hzoned⟩ := record
  cases revokedAt with
  | some revokedAt => simp [APIKeyRecord.hasEnded, APIKeyRecord.Live]
  | none =>
      cases expiresAt with
      | none => simp [APIKeyRecord.hasEnded, APIKeyRecord.Live]
      | some expiresAt =>
          obtain ⟨offset, hoffset⟩ := Option.isSome_iff_exists.mp hzoned.1
          simp [APIKeyRecord.hasEnded, APIKeyRecord.Live, hasReached, momentOf, hoffset, Instant.utc]

/-- A record that has ended stays so. -/
theorem APIKeyRecord.Live.earlier (h : record.Live later) (hclock : clock.micros ≤ later.micros) :
    record.Live clock :=
  ⟨h.1, fun expiresAt hmem => lt_of_le_of_lt (Int.ofNat_le.mpr hclock) (h.2 expiresAt hmem)⟩

end Lives

/-! ### Issued keys -/

/-- A record of a key that was issued, and perhaps revoked since. -/
structure APIKeyRecord.IssuedAs (scrypt : Scrypt) (record : APIKeyRecord) (tokens : KeyTokens) :
    Prop where
  keyId : record.keyId = hexText tokens.keyId
  salt : record.salt = hexText tokens.salt
  digest : record.digest = hexText (scrypt (utf8Bytes (urlsafeText tokens.secret)) tokens.salt)

section Issued

variable {scrypt : Scrypt} {record : APIKeyRecord} {tokens : KeyTokens} {clock : Instant}

theorem issueApiKey_issued {principal : Principal} {expiresAt : Option DateTime} {text : String}
    (h : issueApiKey scrypt tokens principal expiresAt = .ok (text, record)) :
    text = tokens.text ∧ record.IssuedAs scrypt tokens ∧ record.principal = principal ∧
      record.expiresAt = expiresAt ∧ record.revokedAt = none := by
  unfold issueApiKey digestOf at h
  rw [fromHex_hexText] at h
  obtain ⟨digest, hdigest, h⟩ := except_bind_ok.mp h
  obtain ⟨made, hmade, h⟩ := except_bind_ok.mp h
  obtain rfl := Except.ok.inj hdigest
  unfold APIKeyRecord.new at hmade
  split_ifs at hmade with hzoned
  obtain rfl := Except.ok.inj hmade
  injection h with hpair
  injection hpair with htext hrecord
  subst hrecord
  exact ⟨htext.symm, ⟨rfl, rfl, rfl⟩, rfl, rfl, rfl⟩

theorem isAscii_hexText {bytes : List UInt8} : isAscii (hexText bytes) = true := by
  unfold isAscii hexText
  rw [String.toList_ofList, List.all_eq_true]
  intro c hc
  exact decide_eq_true (hexChars_ascii hc)

/-- The digests of an issued key and of a secret are compared. -/
theorem accept_issued {secret : String} (h : record.IssuedAs scrypt tokens) :
    record.accept scrypt secret clock.utc =
      .ok (if scrypt (utf8Bytes secret) tokens.salt =
          scrypt (utf8Bytes (urlsafeText tokens.secret)) tokens.salt ∧ record.Live clock
        then some record.principal else none) := by
  unfold APIKeyRecord.accept digestOf
  rw [h.salt, fromHex_hexText, except_ok_bind, h.digest]
  unfold compareDigest
  rw [isAscii_hexText, isAscii_hexText, Bool.and_self, if_pos rfl, except_ok_bind, hasEnded_utc]
  by_cases hsame : scrypt (utf8Bytes secret) tokens.salt =
      scrypt (utf8Bytes (urlsafeText tokens.secret)) tokens.salt
  · rw [hsame, if_pos (decide_eq_true rfl), except_ok_bind]
    by_cases hlive : record.Live clock
    · simp [hlive]
      rfl
    · simp [hlive]
      rfl
  · rw [if_neg fun hcon => hsame (hexText_injective (of_decide_eq_true hcon)),
      if_neg fun hcon => hsame hcon.1]
    rfl

/-- The parts of a key. -/
theorem splitAtMost_text (tokens : KeyTokens) : splitAtMost '_' 2 tokens.text.toList =
    ["ryuk".toList, hexChars tokens.keyId, urlsafeChars tokens.secret] := by
  rw [splitAtMost_two]
  refine ⟨?_, by decide, hexChars_underscore⟩
  unfold KeyTokens.text hexText urlsafeText
  simp

/-- A live record of the store, whose key this is. -/
def Opens (scrypt : Scrypt) (records : Dict String APIKeyRecord) (clock : Instant) (value : String)
    (principal : Principal) : Prop :=
  ∃ tokens record, value = tokens.text ∧ record.IssuedAs scrypt tokens ∧
    records.get? record.keyId = some record ∧ record.Live clock ∧ record.principal = principal

variable {records : Dict String APIKeyRecord} {value : String} {principal : Principal}

/-- A key opens for the principal of its record, in its life and not after. -/
theorem authenticateApiKey_issued (h : record.IssuedAs scrypt tokens)
    (hrecord : records.get? record.keyId = some record) :
    authenticateApiKey scrypt tokens.text records clock.utc =
      .ok (if record.Live clock then some record.principal else none) := by
  rw [h.keyId] at hrecord
  unfold authenticateApiKey
  rw [splitAtMost_text]
  dsimp only
  rw [if_pos String.ofList_toList]
  show acceptKey scrypt records (hexText tokens.keyId) (urlsafeText tokens.secret) clock.utc = _
  unfold acceptKey
  rw [hrecord]
  dsimp only
  rw [accept_issued h]
  simp

/-- **Issued keys open.**  The key that is handed out opens for the principal it was issued to
until it expires, as long as its record is kept. -/
theorem issueApiKey_opens {expiresAt : Option DateTime} {text : String}
    (h : issueApiKey scrypt tokens principal expiresAt = .ok (text, record))
    (hrecord : records.get? record.keyId = some record) :
    authenticateApiKey scrypt text records clock.utc =
      .ok (if ∀ ending ∈ expiresAt, (clock.micros : Int) < momentOf ending then some principal
        else none) := by
  obtain ⟨rfl, hissued, rfl, rfl, hrevoked⟩ := issueApiKey_issued h
  rw [authenticateApiKey_issued hissued hrecord]
  have hlive : record.Live clock ↔
      ∀ ending ∈ record.expiresAt, (clock.micros : Int) < momentOf ending := by
    unfold APIKeyRecord.Live
    rw [hrevoked]
    exact and_iff_right rfl
  simp only [hlive]

theorem accept_live {secret : String}
    (h : record.accept scrypt secret clock.utc = .ok (some principal)) :
    record.Live clock ∧ record.principal = principal := by
  unfold APIKeyRecord.accept at h
  obtain ⟨found, -, h⟩ := except_bind_ok.mp h
  obtain ⟨same, -, h⟩ := except_bind_ok.mp h
  cases same with
  | false => cases h
  | true =>
      rw [if_pos rfl, hasEnded_utc, except_ok_bind] at h
      by_cases hlive : record.Live clock
      · rw [decide_eq_false (not_not_intro hlive)] at h
        exact ⟨hlive, Option.some.inj (Except.ok.inj h)⟩
      · rw [decide_eq_true hlive] at h
        cases h

/-- Whoever a key opens for has a live record in the store. -/
theorem authenticateApiKey_live
    (h : authenticateApiKey scrypt value records clock.utc = .ok (some principal)) :
    ∃ record ∈ records.values, record.Live clock ∧ record.principal = principal := by
  unfold authenticateApiKey at h
  split at h
  · rename_i scheme keyId secret _
    split_ifs at h with hscheme
    · unfold acceptKey at h
      cases hfound : records.get? (String.ofList keyId) with
      | none =>
          rw [hfound] at h
          cases h
      | some record =>
          rw [hfound] at h
          obtain ⟨hlive, hprincipal⟩ := accept_live h
          exact ⟨record, List.mem_map.mpr ⟨_, Dict.mem_of_get? hfound, rfl⟩, hlive, hprincipal⟩
    · cases h
  · cases h

/-- An identifier and a secret of a live record. -/
def Unlocks (scrypt : Scrypt) (records : Dict String APIKeyRecord) (clock : Instant)
    (keyId secret : String) (principal : Principal) : Prop :=
  ∃ tokens record, keyId = hexText tokens.keyId ∧ secret = urlsafeText tokens.secret ∧
    record.IssuedAs scrypt tokens ∧ records.get? keyId = some record ∧ record.Live clock ∧
      record.principal = principal

/-- What opens has the three parts of a key. -/
theorem Opens.parts (h : Opens scrypt records clock value principal) :
    ∃ keyId secret, splitAtMost '_' 2 value.toList = ["ryuk".toList, keyId, secret] ∧
      Unlocks scrypt records clock (String.ofList keyId) (String.ofList secret) principal := by
  obtain ⟨tokens, record, rfl, hissued, hrecord, hlive, hprincipal⟩ := h
  have hfound : records.get? (hexText tokens.keyId) = some record := hissued.keyId ▸ hrecord
  exact ⟨_, _, splitAtMost_text tokens, tokens, record, rfl, rfl, hissued,
    hfound, hlive, hprincipal⟩

end Issued

end Control
end Ryuk
