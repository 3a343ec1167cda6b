import Ryuk.Context.Contracts
import Ryuk.Foundation.Machine
import Ryuk.Foundation.Table
import Ryuk.Foundation.Transaction
import Ryuk.Platform

/-!
# The context store

Conversations, immutable sources, and the entries that attach sources to
conversations.  The foreign keys and the uniqueness of an attachment are fields of
the tables.  Every operation is one transaction; the reading of the clock and the
fresh identifiers are its arguments.
-/

namespace Ryuk
namespace Context

open Foundation Foundation.Transaction Inference

/-! ### Tables -/

/-- A row of `context_conversations`. -/
structure ConversationRow where
  tenantId : String
  conversationId : String
  projectId : String
  ownerId : String
  scope : ContextScope
  createdAt : String
  deriving DecidableEq

/-- A row of `context_sources`. -/
structure SourceRow where
  tenantId : String
  sourceId : String
  revision : String
  projectId : String
  ownerId : String
  scope : ContextScope
  role : ChatRole
  trust : ContextTrust
  content : String
  contentSha256 : String
  createdAt : String
  deriving DecidableEq

/-- A row of `context_entries`. -/
structure EntryRow where
  tenantId : String
  conversationId : String
  sequence : Int
  sourceId : String
  sourceRevision : String
  createdAt : String
  deriving DecidableEq

def ConversationRow.key (row : ConversationRow) : String × String :=
  (row.tenantId, row.conversationId)

def SourceRow.key (row : SourceRow) : String × String × String :=
  (row.tenantId, row.sourceId, row.revision)

def EntryRow.key (row : EntryRow) : String × String × Int :=
  (row.tenantId, row.conversationId, row.sequence)

/-- `UNIQUE(tenant_id, conversation_id, source_id, source_revision)`. -/
def EntryRow.attachment (row : EntryRow) : String × String × String × String :=
  (row.tenantId, row.conversationId, row.sourceId, row.sourceRevision)

/-- The conversation of an entry, a foreign key. -/
def EntryRow.conversationKey (row : EntryRow) : String × String :=
  (row.tenantId, row.conversationId)

/-- The source of an entry, a foreign key. -/
def EntryRow.sourceKey (row : EntryRow) : String × String × String :=
  (row.tenantId, row.sourceId, row.sourceRevision)

/-- The tables of a context store. -/
structure ContextTables where
  conversations : Table ConversationRow (String × String) ConversationRow.key
  sources : Table SourceRow (String × String × String) SourceRow.key
  entries : Table EntryRow (String × String × Int) EntryRow.key
  attached : (entries.rows.map EntryRow.attachment).Nodup
  conversation_key : ∀ entry ∈ entries.rows,
    (conversations.find entry.conversationKey).isSome = true
  source_key : ∀ entry ∈ entries.rows, (sources.find entry.sourceKey).isSome = true

/-- A store that was just created. -/
def ContextTables.empty : ContextTables where
  conversations := Table.empty
  sources := Table.empty
  entries := Table.empty
  attached := List.nodup_nil
  conversation_key _ h := (List.not_mem_nil h).elim
  source_key _ h := (List.not_mem_nil h).elim

/-- A found row is found after an insertion. -/
theorem find_insert_isSome {ρ κ : Type} [DecidableEq κ] {key : ρ → κ} {table next : Table ρ κ key}
    {row : ρ} {k : κ} (hinsert : table.insert row = some next)
    (hfound : (table.find k).isSome = true) : (next.find k).isSome = true := by
  rw [Table.find_insert hinsert]
  split_ifs
  · rfl
  · exact hfound

/-- `INSERT INTO context_conversations ...`. -/
def ContextTables.addConversation (row : ConversationRow) (tables : ContextTables) :
    Option ContextTables :=
  match h : tables.conversations.insert row with
  | none => none
  | some conversations => some
      { tables with
        conversations
        conversation_key := fun entry hentry =>
          find_insert_isSome h (tables.conversation_key entry hentry) }

/-- The checks on the role and the trust of a source. -/
def SourceRow.permitted (row : SourceRow) : Bool :=
  decide (row.role ≠ .system) && decide (row.trust ≠ .policy)

/-- `INSERT INTO context_sources ...`. -/
def ContextTables.addSource (row : SourceRow) (tables : ContextTables) : Option ContextTables :=
  if row.permitted then
    match h : tables.sources.insert row with
    | none => none
    | some sources => some
        { tables with
          sources
          source_key := fun entry hentry =>
            find_insert_isSome h (tables.source_key entry hentry) }
  else none

/-- The constraints an insertion of an entry meets, besides its primary key. -/
structure ContextTables.Admits (tables : ContextTables) (row : EntryRow) : Prop where
  conversation : (tables.conversations.find row.conversationKey).isSome = true
  source : (tables.sources.find row.sourceKey).isSome = true
  fresh : row.attachment ∉ tables.entries.rows.map EntryRow.attachment

instance (tables : ContextTables) (row : EntryRow) : Decidable (tables.Admits row) :=
  decidable_of_iff
    ((tables.conversations.find row.conversationKey).isSome = true ∧
      (tables.sources.find row.sourceKey).isSome = true ∧
      row.attachment ∉ tables.entries.rows.map EntryRow.attachment)
    ⟨fun h => ⟨h.1, h.2.1, h.2.2⟩, fun h => ⟨h.conversation, h.source, h.fresh⟩⟩

/-- `INSERT INTO context_entries ...`. -/
def ContextTables.addEntry (row : EntryRow) (tables : ContextTables) : Option ContextTables :=
  if hadmits : tables.Admits row then
    match h : tables.entries.insert row with
    | none => none
    | some entries => some
        { tables with
          entries
          attached := by
            rw [Table.insert_rows h, List.map_append, List.map_singleton, List.nodup_append]
            refine ⟨tables.attached, List.nodup_singleton _, fun old hold new hnew hsame => ?_⟩
            rw [List.mem_singleton.mp hnew] at hsame
            exact hadmits.fresh (hsame ▸ hold)
          conversation_key := by
            intro entry hentry
            rcases (Table.mem_insert h).mp hentry with hold | rfl
            · exact tables.conversation_key entry hold
            · exact hadmits.conversation
          source_key := by
            intro entry hentry
            rcases (Table.mem_insert h).mp hentry with hold | rfl
            · exact tables.source_key entry hold
            · exact hadmits.source }
  else none

/-- The body of a context transaction. -/
abbrev ContextTx := Transaction ContextTables ContextError

/-! ### Access -/

/-- `WHERE tenant_id=? AND conversation_id=?`. -/
def conversationOf (tenantId conversationId : String) (row : ConversationRow) : Bool :=
  decide (row.tenantId = tenantId) && decide (row.conversationId = conversationId)

/-- `WHERE tenant_id=? AND source_id=? AND revision=?`. -/
def sourceOf (tenantId sourceId revision : String) (row : SourceRow) : Bool :=
  decide (row.tenantId = tenantId) && decide (row.sourceId = sourceId) &&
    decide (row.revision = revision)

/-- What `_conversation_allowed` and `_source_allowed` both check. -/
def allowed (actor : ContextPrincipal) (tenantId projectId ownerId : String)
    (scope : ContextScope) : Bool :=
  if tenantId ≠ actor.tenantId then false
  else
    match scope with
    | .user => decide (ownerId = actor.userId)
    | .project => actor.projectIds.contains projectId

/-- `_conversation_allowed`. -/
def conversationAllowed (row : ConversationRow) (actor : ContextPrincipal) : Bool :=
  allowed actor row.tenantId row.projectId row.ownerId row.scope

/-- `_source_allowed`. -/
def sourceAllowed (row : SourceRow) (actor : ContextPrincipal) : Bool :=
  allowed actor row.tenantId row.projectId row.ownerId row.scope

/-- `_project_member`. -/
def projectMember (actor : ContextPrincipal) (projectId : String) : Except ContextError Unit := do
  identifier projectId "project_id"
  requireThat (actor.projectIds.contains projectId) .accessDenied

/-- `_conversation_row`. -/
def conversationRow (actor : ContextPrincipal) (conversationId : String) :
    ContextTx (Option ConversationRow) := do
  lift (identifier conversationId "conversation_id")
  let row ← query fun tables =>
    tables.conversations.fetchone (conversationOf actor.tenantId conversationId)
  pure (row.filter fun row => conversationAllowed row actor)

/-- A conversation the actor may open. -/
def requireConversation (actor : ContextPrincipal) (conversationId : String) :
    ContextTx ConversationRow := do
  let row ← conversationRow actor conversationId
  match row with
  | none => fail .accessDenied
  | some row => pure row

/-- `SELECT ... FROM context_sources WHERE tenant_id=? AND source_id=? AND revision=?`. -/
def selectSource (tenantId sourceId revision : String) : ContextTx (Option SourceRow) :=
  query fun tables => tables.sources.fetchone (sourceOf tenantId sourceId revision)

/-- What every path that hands out a source checks of it. -/
def visibleIn (conversation : ConversationRow) (actor : ContextPrincipal) (row : SourceRow) : Bool :=
  decide (row.projectId = conversation.projectId) && sourceAllowed row actor &&
    !(decide (conversation.scope = .project) && decide (row.scope ≠ .project))

/-! ### Writing -/

/-- `_next_sequence`. -/
def nextSequence (tenantId conversationId : String) (tables : ContextTables) : Int :=
  (((tables.entries.select fun row =>
    decide (row.tenantId = tenantId) && decide (row.conversationId = conversationId)).map
      EntryRow.sequence).max?.getD 0) + 1

/-- `create_conversation`. -/
def createConversation (actor : ContextPrincipal) (projectId : String) (scope : ContextScope)
    (createdAt uuid4 : String) : ContextTx ConversationRecord := do
  lift (projectMember actor projectId)
  attempt (ContextTables.addConversation
    ⟨actor.tenantId, uuid4, projectId, actor.userId, scope, createdAt⟩) .integrityError
  pure ⟨uuid4, actor.tenantId, projectId, actor.userId, scope, createdAt⟩

/-- `get_conversation`. -/
def getConversation (actor : ContextPrincipal) (conversationId : String) :
    ContextTx (Option ConversationRecord) := do
  let row ← conversationRow actor conversationId
  pure (row.map fun row =>
    ⟨row.conversationId, row.tenantId, row.projectId, row.ownerId, row.scope, row.createdAt⟩)

/-- `MAX_CONTEXT_SOURCE_CHARS`. -/
def maxContextSourceChars : Nat := 200000

/-- `add_source`. -/
def addSource (platform : Platform) (actor : ContextPrincipal) (projectId revision : String)
    (role : ChatRole) (trust : ContextTrust) (content : String) (scope : ContextScope)
    (sourceId : Option String) (createdAt uuid4 : String) : ContextTx ContextSourceRef := do
  lift (projectMember actor projectId)
  let sourceId := sourceId.getD uuid4
  lift (identifier sourceId "source_id")
  lift (identifier revision "revision")
  require (decide (content.length ≤ maxContextSourceChars))
    (.valueError "Context source exceeds the offline size limit.")
  let _ ← lift (ContextSegment.new sourceId revision role content trust false 0)
  require (decide (trust ≠ .policy))
    (.valueError "Policy is server configuration, not a content source.")
  let digest := platform.sha256 content
  let existing ← selectSource actor.tenantId sourceId revision
  match existing with
  | some row => do
      require (decide (row.projectId = projectId) && decide (row.ownerId = actor.userId) &&
          decide (row.scope = scope) && decide (row.role = role) && decide (row.trust = trust) &&
          decide (row.contentSha256 = digest) && decide (row.content = content))
        (.conflict "Context source revision is immutable.")
      lift (ContextSourceRef.new sourceId revision false 0)
  | none => do
      attempt (ContextTables.addSource ⟨actor.tenantId, sourceId, revision, projectId, actor.userId,
        scope, role, trust, content, digest, createdAt⟩) .integrityError
      lift (ContextSourceRef.new sourceId revision false 0)

/-- `append_message`. -/
def appendMessage (platform : Platform) (actor : ContextPrincipal) (conversationId : String)
    (role : ChatRole) (content createdAt uuid4 : String) : ContextTx ContextSourceRef := do
  require (decide (role = .user) || decide (role = .assistant))
    (.valueError "Conversation messages must be user or assistant turns.")
  let trust := if role = .user then ContextTrust.user else ContextTrust.assistantHistory
  let source ← lift (ContextSegment.new uuid4 "1" role content trust false 0)
  require (decide (source.content.length ≤ maxContextSourceChars))
    (.valueError "Conversation message exceeds the offline size limit.")
  let conversation ← requireConversation actor conversationId
  attempt (ContextTables.addSource ⟨actor.tenantId, uuid4, "1", conversation.projectId,
    actor.userId, conversation.scope, role, trust, content, platform.sha256 content, createdAt⟩)
    .integrityError
  let sequence ← query (nextSequence actor.tenantId conversationId)
  attempt (ContextTables.addEntry
    ⟨actor.tenantId, conversationId, sequence, uuid4, "1", createdAt⟩) .integrityError
  lift (ContextSourceRef.new uuid4 "1" false 0)

/-- `attach_source`. -/
def attachSource (actor : ContextPrincipal) (conversationId : String) (ref : ContextSourceRef)
    (createdAt : String) : ContextTx Unit := do
  let conversation ← requireConversation actor conversationId
  let source ← selectSource actor.tenantId ref.sourceId ref.revision
  require (source.any (visibleIn conversation actor)) .accessDenied
  let sequence ← query (nextSequence actor.tenantId conversationId)
  attempt (ContextTables.addEntry
    ⟨actor.tenantId, conversationId, sequence, ref.sourceId, ref.revision, createdAt⟩)
    (.conflict "Source is already attached to conversation.")

/-! ### Reading -/

/-- `_validate_source_integrity` and `_as_segment`. -/
def asSegment (platform : Platform) (row : SourceRow) (required : Bool) (priority : Int) :
    Except ContextError ContextSegment := do
  requireThat (decide (platform.sha256 row.content = row.contentSha256)) .integrity
  ContextSegment.new row.sourceId row.revision row.role row.content row.trust required priority

/-- The first loop of `resolve_sources`: every source is authorized. -/
def authorizeSources (actor : ContextPrincipal) (conversation : ConversationRow) :
    List ContextSourceRef → ContextTx Unit
  | [] => pure ()
  | ref :: rest => do
      let metadata ← selectSource actor.tenantId ref.sourceId ref.revision
      require (metadata.any (visibleIn conversation actor)) .accessDenied
      authorizeSources actor conversation rest

/-- What a read of content names: a source, and how its segment is marked. -/
structure Selection where
  sourceId : String
  revision : String
  required : Bool
  priority : Int

def ContextSourceRef.selection (ref : ContextSourceRef) : Selection :=
  ⟨ref.sourceId, ref.revision, ref.required, ref.priority⟩

/-- The loops that read content. -/
def readSegments (platform : Platform) (actor : ContextPrincipal) :
    List Selection → ContextTx (List ContextSegment)
  | [] => pure []
  | selection :: rest => do
      let row ← selectSource actor.tenantId selection.sourceId selection.revision
      match row with
      | none => fail .accessDenied
      | some row => do
          let segment ← lift (asSegment platform row selection.required selection.priority)
          let segments ← readSegments platform actor rest
          pure (segment :: segments)

/-- `resolve_sources`. -/
def resolveSources (platform : Platform) (actor : ContextPrincipal) (conversationId : String)
    (refs : List ContextSourceRef) : ContextTx (List ContextSegment) := do
  let conversation ← requireConversation actor conversationId
  authorizeSources actor conversation refs
  readSegments platform actor (refs.map ContextSourceRef.selection)

/-- The entries of a conversation, the newest first: `ORDER BY e.sequence DESC`. -/
def newestEntries (tenantId conversationId : String) (tables : ContextTables) : List EntryRow :=
  (tables.entries.select fun row =>
    decide (row.tenantId = tenantId) && decide (row.conversationId = conversationId)).mergeSort
      fun left right => decide (right.sequence ≤ left.sequence)

/-- The entries joined with their sources, `LIMIT ?`; every entry has one. -/
def recentSources (tenantId conversationId : String) (limit : Int) (tables : ContextTables) :
    List SourceRow :=
  ((newestEntries tenantId conversationId tables).filterMap fun entry =>
    tables.sources.find entry.sourceKey).take limit.toNat

/-- `recent_messages`. -/
def recentMessages (platform : Platform) (actor : ContextPrincipal) (conversationId : String)
    (limit priority : Int) : ContextTx (List ContextSegment) := do
  require (decide (0 ≤ limit) && decide (limit ≤ 100))
    (.valueError "Recent message limit must be between 0 and 100.")
  let conversation ← requireConversation actor conversationId
  if limit = 0 then pure []
  else do
    let entries ← query (recentSources actor.tenantId conversationId limit)
    require (entries.all (visibleIn conversation actor)) .accessDenied
    readSegments platform actor (entries.reverse.map fun row =>
      ⟨row.sourceId, row.revision, false, priority⟩)

/-! ### The store as a machine -/

/-- The calls that write. -/
inductive ContextCall where
  | createConversation (actor : ContextPrincipal) (projectId : String) (scope : ContextScope)
      (createdAt uuid4 : String)
  | addSource (actor : ContextPrincipal) (projectId revision : String) (role : ChatRole)
      (trust : ContextTrust) (content : String) (scope : ContextScope) (sourceId : Option String)
      (createdAt uuid4 : String)
  | appendMessage (actor : ContextPrincipal) (conversationId : String) (role : ChatRole)
      (content createdAt uuid4 : String)
  | attachSource (actor : ContextPrincipal) (conversationId : String) (ref : ContextSourceRef)
      (createdAt : String)

inductive ContextAnswer where
  | conversation (record : ConversationRecord)
  | source (ref : ContextSourceRef)
  | attached

def ContextCall.body (platform : Platform) : ContextCall → ContextTx ContextAnswer
  | .createConversation actor projectId scope createdAt uuid4 =>
      .conversation <$> Context.createConversation actor projectId scope createdAt uuid4
  | .addSource actor projectId revision role trust content scope sourceId createdAt uuid4 =>
      .source <$> Context.addSource platform actor projectId revision role trust content scope
        sourceId createdAt uuid4
  | .appendMessage actor conversationId role content createdAt uuid4 =>
      .source <$> Context.appendMessage platform actor conversationId role content createdAt uuid4
  | .attachSource actor conversationId ref createdAt =>
      (fun _ => .attached) <$> Context.attachSource actor conversationId ref createdAt

def contextStore (platform : Platform) :
    Machine ContextTables ContextCall (Except ContextError ContextAnswer) where
  step tables call := commit (call.body platform) tables

end Context
end Ryuk
