import Ryuk.Context.Contracts
import Ryuk.Foundation.JsonText
import Ryuk.Foundation.Selection

/-!
# Context preparation

`prepare_context` fits source-linked segments to one candidate: optional duplicates
go first, then optional segments of the lowest priority until the count of the
candidate's own counter leaves room for the output.
-/

namespace Ryuk
namespace Context

open Foundation Foundation.Selection Foundation.Text Inference

/-! ### Profiles and counts -/

inductive TokenCountMethod where
  | exact
  | estimated
  deriving DecidableEq

inductive CountConfidence where
  | high
  | medium
  | low
  deriving DecidableEq

inductive ContextCapacityEvidence where
  | advertised
  | contractTested
  | verified
  deriving DecidableEq

/-- The fields of `ContextPreparationProfile`. -/
structure ProfileFields where
  profileId : String
  profileRevision : String
  modelId : String
  modelRevision : Option String
  maxContextTokens : Int
  reservedOutputTokens : Int
  safetyMarginTokens : Int
  capacityEvidence : ContextCapacityEvidence
  capacityEvidenceRef : String
  counterId : String
  counterRevision : String
  templateId : String
  templateRevision : String

/-- The checks of `ContextPreparationProfile`. -/
def ProfileFields.check (fields : ProfileFields) : Except ContextError Unit := do
  identifier fields.profileId "profile_id"
  identifier fields.profileRevision "profile_revision"
  identifier fields.modelId "model_id"
  identifier fields.counterId "counter_id"
  identifier fields.counterRevision "counter_revision"
  identifier fields.templateId "template_id"
  identifier fields.templateRevision "template_revision"
  identifier fields.capacityEvidenceRef "capacity_evidence_ref"
  match fields.modelRevision with
  | none => pure ()
  | some revision => identifier revision "model_revision"
  requireThat (decide (1 ≤ fields.maxContextTokens))
    (.valueError "max_context_tokens must be positive.")
  requireThat (decide (1 ≤ fields.reservedOutputTokens))
    (.valueError "reserved_output_tokens must be positive.")
  requireThat (decide (0 ≤ fields.safetyMarginTokens))
    (.valueError "safety_margin_tokens cannot be negative.")
  requireThat
    (decide (fields.reservedOutputTokens + fields.safetyMarginTokens < fields.maxContextTokens))
    (.valueError "Output reserve and safety margin exhaust context.")

structure ContextPreparationProfile extends ProfileFields where
  checked : toProfileFields.check = .ok ()

/-- The checks of `TokenCount`. -/
def checkTokenCount (tokens : Int) (method : TokenCountMethod) (confidence : CountConfidence)
    (counterId counterRevision templateId templateRevision : String) :
    Except ContextError Unit := do
  requireThat (decide (0 ≤ tokens)) (.valueError "Token count cannot be negative.")
  identifier counterId "counter_id"
  identifier counterRevision "counter_revision"
  identifier templateId "template_id"
  identifier templateRevision "template_revision"
  requireThat (!(decide (method = .exact) && decide (confidence ≠ .high)))
    (.valueError "Exact counts must report high confidence.")

structure TokenCount where
  tokens : Int
  method : TokenCountMethod
  confidence : CountConfidence
  counterId : String
  counterRevision : String
  templateId : String
  templateRevision : String
  checked : checkTokenCount tokens method confidence counterId counterRevision templateId
    templateRevision = .ok ()

/-- A `ContextTokenCounter` whose counts depend on the chat alone. -/
abbrev ContextTokenCounter := ChatInput → TokenCount

/-! ### Results -/

inductive ExclusionReason where
  | duplicate
  | overBudget
  deriving DecidableEq

structure ExcludedContextSource where
  sourceId : String
  sourceRevision : String
  reason : ExclusionReason
  duplicateOf : Option String
  deriving DecidableEq

structure PreparedContext where
  chat : ChatInput
  profile : ContextPreparationProfile
  inputTokens : Int
  totalReservedTokens : Int
  countMethod : TokenCountMethod
  countConfidence : CountConfidence
  includedSourceIds : List String
  includedSourceRevisions : List (String × String)
  excludedSources : List ExcludedContextSource
  payloadSha256 : String

/-- What `prepare_context` raises: its own errors, those of the chat, an overflow. -/
inductive PreparationError where
  | valueError (message : String)
  | chat (error : PyError)
  | overflow (requiredTokens availableInputTokens : Int)

deriving instance DecidableEq for ContextSegment

/-! ### Duplicates -/

/-- The class of an optional segment: `(role, trust, content)`. -/
def ContextSegment.class (segment : ContextSegment) : ChatRole × ContextTrust × String :=
  (segment.role, segment.trust, segment.content)

/-- The segments that are not required. -/
def optionalOf (segments : List ContextSegment) : List ContextSegment :=
  segments.filter fun segment => !segment.required

/-- `chosen` after the loop. -/
def chosenOf (segments : List ContextSegment) :
    ChatRole × ContextTrust × String → Option ContextSegment :=
  champions ContextSegment.class ContextSegment.priority (optionalOf segments)

/-- `segment in kept_optional`: a segment is chosen under its own class only. -/
def isChosen (segments : List ContextSegment) (segment : ContextSegment) : Bool :=
  decide (chosenOf segments segment.class = some segment)

/-- The exclusion of a duplicate. -/
def duplicateOf (winner segment : ContextSegment) : ExcludedContextSource :=
  ⟨segment.sourceId, segment.sourceRevision, .duplicate, some winner.sourceId⟩

/-- `_deduplicate_optional`. -/
def deduplicateOptional (segments : List ContextSegment) :
    List ContextSegment × List ExcludedContextSource :=
  (segments.filter fun segment => segment.required || isChosen segments segment,
    ((optionalOf segments).filter fun segment => !isChosen segments segment).filterMap
      fun segment => (chosenOf segments segment.class).map fun winner =>
        duplicateOf winner segment)

/-! ### Counting -/

/-- `_chat`. -/
def chatOf (segments : List ContextSegment) : Except PyError ChatInput := do
  let messages ← segments.mapM fun segment => ChatMessage.new segment.role segment.content
  ChatInput.new messages

/-- `_validate_counter`. -/
def validateCounter (count : TokenCount) (profile : ContextPreparationProfile) :
    Except PreparationError Unit :=
  if count.counterId = profile.counterId ∧ count.counterRevision = profile.counterRevision ∧
      count.templateId = profile.templateId ∧ count.templateRevision = profile.templateRevision then
    .ok ()
  else .error (.valueError "Token counter does not match the candidate profile.")

/-- `counter.count(_chat(kept))` and its validation. -/
def countKept (profile : ContextPreparationProfile) (counter : ContextTokenCounter)
    (kept : List ContextSegment) : Except PreparationError TokenCount := do
  let chat ← (chatOf kept).mapError .chat
  validateCounter (counter chat) profile
  pure (counter chat)

/-! ### Dropping -/

/-- The lexicographic order of `(segment.priority, -index)`. -/
def dropsFirst (first second : ContextSegment × Nat) : Bool :=
  decide (first.1.priority < second.1.priority) ||
    (decide (first.1.priority = second.1.priority) && decide (second.2 ≤ first.2))

/-- `drop_order`. -/
def dropOrder (kept : List ContextSegment) : List ContextSegment :=
  ((kept.zipIdx.filter fun pair => !pair.1.required).mergeSort dropsFirst).map Prod.fst

/-- The loop that drops: what is kept, the identifiers that were dropped, the last
count. -/
def dropLoop (profile : ContextPreparationProfile) (counter : ContextTokenCounter)
    (available : Int) : List ContextSegment → List ContextSegment → List String → TokenCount →
      Except PreparationError (List ContextSegment × List String × TokenCount)
  | [], kept, dropped, counted => .ok (kept, dropped, counted)
  | segment :: rest, kept, dropped, _ => do
      let kept := kept.filter fun item => decide (item.sourceId ≠ segment.sourceId)
      let dropped := dropped ++ [segment.sourceId]
      let counted ← countKept profile counter kept
      if counted.tokens ≤ available then .ok (kept, dropped, counted)
      else dropLoop profile counter available rest kept dropped counted

/-- `json.dumps` of a character with `ensure_ascii=False`. -/
def escapePlain (c : Char) : List Char :=
  if c = '"' then ['\\', '"']
  else if c = '\\' then ['\\', '\\']
  else if c = '\n' then ['\\', 'n']
  else if c = '\r' then ['\\', 'r']
  else if c = '\t' then ['\\', 't']
  else if c.toNat = 8 then ['\\', 'b']
  else if c.toNat = 12 then ['\\', 'f']
  else if c.toNat < 32 then Json.escapeUnit c.toNat
  else [c]

/-- One message of the payload. -/
def payloadMessage (message : ChatMessage) : String :=
  String.ofList ("\x7b\"role\":\"".toList ++ message.role.value.toList ++
    "\",\"content\":\"".toList ++ message.content.val.toList.flatMap escapePlain ++
    "\"\x7d".toList)

/-- `_payload_digest`. -/
def payloadDigest (platform : Platform) (chat : ChatInput) : String :=
  platform.sha256 ("[" ++ ",".intercalate (chat.messages.map payloadMessage) ++ "]")

/-- The tokens that are left for the input. -/
def ContextPreparationProfile.available (profile : ContextPreparationProfile) : Int :=
  profile.maxContextTokens - profile.reservedOutputTokens - profile.safetyMarginTokens

/-- The result for what was kept. -/
def preparedOf (platform : Platform) (profile : ContextPreparationProfile) (chat : ChatInput)
    (counted : TokenCount) (kept : List ContextSegment) (excluded : List ExcludedContextSource) :
    PreparedContext where
  chat
  profile
  inputTokens := counted.tokens
  totalReservedTokens :=
    counted.tokens + profile.reservedOutputTokens + profile.safetyMarginTokens
  countMethod := counted.method
  countConfidence := counted.confidence
  includedSourceIds := kept.map ContextSegment.sourceId
  includedSourceRevisions := kept.map fun segment => (segment.sourceId, segment.sourceRevision)
  excludedSources := excluded
  payloadSha256 := payloadDigest platform chat

/-- The exclusion of a segment that was dropped. -/
def overBudget (segment : ContextSegment) : ExcludedContextSource :=
  ⟨segment.sourceId, segment.sourceRevision, .overBudget, none⟩

/-- `if not condition: raise ValueError(message)`. -/
def requireValue (condition : Bool) (message : String) : Except PreparationError Unit :=
  if condition then .ok () else .error (.valueError message)

/-- The first count, and the drops when it does not fit: what is kept, all exclusions
and the last count. -/
def fitSegments (profile : ContextPreparationProfile) (counter : ContextTokenCounter)
    (kept : List ContextSegment) (excluded : List ExcludedContextSource) :
    Except PreparationError (List ContextSegment × List ExcludedContextSource × TokenCount) := do
  let counted ← countKept profile counter kept
  if counted.tokens > profile.available then do
    let (left, dropped, counted) ←
      dropLoop profile counter profile.available (dropOrder kept) kept [] counted
    pure (left, excluded ++ ((dropOrder kept).filter fun segment =>
      dropped.contains segment.sourceId).map overBudget, counted)
  else pure (kept, excluded, counted)

/-- `prepare_context(segments, profile, counter)`. -/
def prepareContext (platform : Platform) (segments : List ContextSegment)
    (profile : ContextPreparationProfile) (counter : ContextTokenCounter) :
    Except PreparationError PreparedContext := do
  requireValue (!segments.isEmpty) "At least one context segment is required."
  requireValue (decide (segments.map ContextSegment.sourceId).Nodup)
    "Context source identifiers must be unique."
  requireValue (segments.any fun segment => segment.required)
    "At least one required context segment is required."
  let (kept, excluded) := deduplicateOptional segments
  let (kept, excluded, counted) ← fitSegments profile counter kept excluded
  if counted.tokens > profile.available then
    .error (.overflow counted.tokens profile.available)
  else do
    let chat ← (chatOf kept).mapError .chat
    pure (preparedOf platform profile chat counted kept excluded)

end Context
end Ryuk
