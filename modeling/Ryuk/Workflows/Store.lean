import Ryuk.Foundation.Machine
import Ryuk.Foundation.Table
import Ryuk.Foundation.Transaction
import Ryuk.Workflows.Validation

/-!
# The workflow store

The tables of single-task workflows and the operations on them.  Every
operation is one immediate transaction: it returns an answer with its writes
kept, or raises with all of them rolled back.  The clock reading and the fresh
identifiers an operation uses are its arguments; an insertion that meets a taken
primary key raises.

Text columns hold what the source writes into them: canonical JSON, and lease
times in ISO form, which SQL compares as text.
-/

namespace Ryuk
namespace Workflows

open Foundation Foundation.Json Foundation.Text Foundation.Datetime Foundation.Transaction
open Audit

/-! ### Tables -/

inductive WorkflowState where
  | ready
  | running
  | uncertain
  | awaitingValidation
  | failed
  | succeeded
  | rejected
  | cancelled
  deriving DecidableEq

/-- What an event row records: a state, or a journal marker. -/
inductive EventLabel where
  | state (state : WorkflowState)
  | dispatchStarted
  | outcomeRecorded
  deriving DecidableEq

/-- A row of `workflows`. -/
structure WorkflowRow where
  id : String
  tenant : String
  idempotencyKey : String
  requestHash : String
  packet : String
  state : WorkflowState
  fence : Int
  owner : Option String
  leaseUntil : Option String
  result : Option String
  resultArtifactId : Option String
  deriving DecidableEq

/-- A row of `workflow_events`; its sequence number is its place. -/
structure EventRow where
  workflowId : String
  tenant : String
  label : EventLabel
  fence : Int
  deriving DecidableEq

/-- A row of `workflow_artifacts`. -/
structure ArtifactRow where
  id : String
  workflowId : String
  tenant : String
  schemaVersion : Int
  sha256 : String
  sizeBytes : Nat
  contentJson : String
  deriving DecidableEq

/-- A row of `workflow_validations`. -/
structure ValidationRow where
  workflowId : String
  tenant : String
  reportJson : String
  deriving DecidableEq

/-- A row of `workflow_dispatches`. -/
structure DispatchRow where
  workflowId : String
  tenant : String
  fence : Int
  budgetJson : String
  outcomeJson : Option String
  outcomeSha256 : Option String
  succeeded : Option Int
  deriving DecidableEq

/-- A row of `workflow_bindings`. -/
structure BindingRow where
  workflowId : String
  tenant : String
  bindingJson : String
  deriving DecidableEq

/-- The tables of single-task workflows. -/
structure Tables where
  workflows : Table WorkflowRow String WorkflowRow.id
  events : List EventRow
  artifacts : Table ArtifactRow String ArtifactRow.id
  validations : Table ValidationRow String ValidationRow.workflowId
  dispatches : Table DispatchRow String DispatchRow.workflowId
  bindings : Table BindingRow String BindingRow.workflowId

/-- A store that was just created. -/
def Tables.empty : Tables where
  workflows := Table.empty
  events := []
  artifacts := Table.empty
  validations := Table.empty
  dispatches := Table.empty
  bindings := Table.empty

/-- The body of a store transaction. -/
abbrev Tx := Transaction Tables PyError

/-! ### Statements -/

/-- `WHERE tenant=? AND id=?`. -/
def ownedBy (tenant workflowId : String) (row : WorkflowRow) : Bool :=
  decide (row.tenant = tenant) && decide (row.id = workflowId)

/-- `SELECT ... FROM workflows WHERE tenant=? AND id=?`. -/
def selectWorkflow (tenant workflowId : String) : Tx (Option WorkflowRow) :=
  query fun tables => tables.workflows.fetchone (ownedBy tenant workflowId)

/-- `UPDATE workflows SET ... WHERE tenant=? AND id=?`. -/
def Tables.setWorkflow (tenant workflowId : String) (change : WorkflowRow → WorkflowRow)
    (hkey : ∀ row, (change row).id = row.id) (tables : Tables) : Tables :=
  { tables with workflows := tables.workflows.update (ownedBy tenant workflowId) change hkey }

def updateWorkflow (tenant workflowId : String) (change : WorkflowRow → WorkflowRow)
    (hkey : ∀ row, (change row).id = row.id) : Tx Unit :=
  write (Tables.setWorkflow tenant workflowId change hkey)

/-- `INSERT INTO workflow_events ...`. -/
def Tables.log (tenant workflowId : String) (label : EventLabel) (fence : Int)
    (tables : Tables) : Tables :=
  { tables with events := tables.events ++ [⟨workflowId, tenant, label, fence⟩] }

/-- `_event`. -/
def event (tenant workflowId : String) (label : EventLabel) (fence : Int) : Tx Unit :=
  write (Tables.log tenant workflowId label fence)

/-- `INSERT INTO workflows ...`. -/
def Tables.addWorkflow (row : WorkflowRow) (tables : Tables) : Option Tables :=
  (tables.workflows.insert row).map fun workflows => { tables with workflows }

/-- `INSERT INTO workflow_bindings ...`. -/
def Tables.addBinding (row : BindingRow) (tables : Tables) : Option Tables :=
  (tables.bindings.insert row).map fun bindings => { tables with bindings }

/-- `INSERT INTO workflow_dispatches ...`. -/
def Tables.addDispatch (row : DispatchRow) (tables : Tables) : Option Tables :=
  (tables.dispatches.insert row).map fun dispatches => { tables with dispatches }

/-- `INSERT INTO workflow_artifacts ...`. -/
def Tables.addArtifact (row : ArtifactRow) (tables : Tables) : Option Tables :=
  (tables.artifacts.insert row).map fun artifacts => { tables with artifacts }

/-- `INSERT INTO workflow_validations ...`. -/
def Tables.addValidation (row : ValidationRow) (tables : Tables) : Option Tables :=
  (tables.validations.insert row).map fun validations => { tables with validations }

/-- `WHERE tenant=? AND workflow_id=?` on the journal. -/
def journalOf (tenant workflowId : String) (row : DispatchRow) : Bool :=
  decide (row.tenant = tenant) && decide (row.workflowId = workflowId)

/-- `SELECT * FROM workflow_dispatches WHERE tenant=? AND workflow_id=?`. -/
def selectDispatch (tenant workflowId : String) : Tx (Option DispatchRow) :=
  query fun tables => tables.dispatches.fetchone (journalOf tenant workflowId)

/-- `UPDATE workflow_dispatches SET ... WHERE tenant=? AND workflow_id=?`. -/
def Tables.setDispatch (tenant workflowId : String) (change : DispatchRow → DispatchRow)
    (hkey : ∀ row, (change row).workflowId = row.workflowId) (tables : Tables) : Tables :=
  { tables with dispatches := tables.dispatches.update (journalOf tenant workflowId) change hkey }

/-! ### Arguments -/

/-- `_identifier`. -/
def identifier (value : String) : Tx Unit :=
  require (decide (value ≠ "") && decide (value = strip value))
    (.valueError "Identifiers must be nonempty without outer whitespace")

/-- `_now`: an aware reading, in UTC. -/
def utcNow (now : DateTime) : Except PyError Instant :=
  match now.utcoffset with
  | none => .error (.valueError "Timezone required")
  | some offset =>
      match DateTime.astimezoneUtc now.reading offset with
      | some instant => .ok instant
      | none => .error .overflowError

/-! ### Creation -/

/-- The binding row of a workflow that has one. -/
def insertBinding : Option BindingRow → Tx Unit
  | none => pure ()
  | some row => attempt (Tables.addBinding row) .integrityError

/-- `create`. -/
def create (platform : Platform) (tenant key : String) (packet : TaskPacket)
    (binding : Option (List (String × Json))) (uuid4 : String) : Tx String := do
  identifier tenant
  identifier key
  let dict ← lift packet.toDict
  let validated ← lift (TaskPacket.fromDict dict)
  let value ← lift validated.toDict
  let encoded ← lift (canonicalJson value)
  let bound ← lift (match binding with
    | none => pure none
    | some fields => (canonicalJson (.obj fields)).map some)
  let hashed ← lift (match bound with
    | none => pure encoded
    | some text => do
        let detached ← loadsJson text
        canonicalJson (.obj [("packet", value), ("binding", detached)]))
  let digest := platform.sha256 hashed
  let existing ← query fun tables => tables.workflows.fetchone fun row =>
    decide (row.tenant = tenant) && decide (row.idempotencyKey = key)
  match existing with
  | some row => do
      require (decide (row.requestHash = digest))
        (.workflowConflict "Idempotency key conflicts with existing input")
      pure row.id
  | none => do
      attempt (Tables.addWorkflow
        ⟨uuid4, tenant, key, digest, encoded, .ready, 0, none, none, none, none⟩) .integrityError
      insertBinding (bound.map fun text => ⟨uuid4, tenant, text⟩)
      event tenant uuid4 (.state .ready) 0
      pure uuid4

/-! ### Execution -/

/-- `claim`. -/
def claim (tenant workflowId owner : String) (leaseSeconds : Int) (now : DateTime) : Tx Int := do
  identifier owner
  require (decide (1 ≤ leaseSeconds) && decide (leaseSeconds ≤ 3600))
    (.valueError "Lease must be between 1 and 3600 seconds")
  let current ← lift (utcNow now)
  let expiry ← lift (match current.shift (leaseSeconds * 1000000) with
    | some instant => pure instant
    | none => throw .overflowError)
  let row ← selectWorkflow tenant workflowId
  match row with
  | none => fail (.workflowConflict "Workflow is not claimable")
  | some row => do
      require (decide (row.state = .ready)) (.workflowConflict "Workflow is not claimable")
      let packet ← lift (loadsJson row.packet)
      let _ ← lift (TaskPacket.fromDict packet)
      let fence := row.fence + 1
      updateWorkflow tenant workflowId (fun row =>
        { row with
          state := .running
          fence := fence
          owner := some owner
          leaseUntil := some expiry.isoformat }) fun _ => rfl
      event tenant workflowId (.state .running) fence
      pure fence

/-- `datetime.fromisoformat(lease_until) <= now`. -/
def leaseExpired (leaseUntil : Option String) (now : DateTime) : Except PyError Bool :=
  match leaseUntil with
  | none => .error .typeError
  | some text =>
      match fromisoformat text with
      | none => .error (.valueError "Invalid isoformat string")
      | some lease => do
          let current ← utcNow now
          match lease.utcoffset with
          | none => throw .typeError
          | some offset => pure (decide ((lease.reading.micros : Int) - offset ≤ current.micros))

/-- `_require_lease`. -/
def requireLease (tenant workflowId owner : String) (fence : Int) (now : DateTime) :
    Tx Unit := do
  let row ← selectWorkflow tenant workflowId
  match row with
  | none => fail (.workflowConflict "Stale or unauthorized workflow execution")
  | some row => do
      require (decide (row.state = .running) && decide (row.owner = some owner) &&
          decide (row.fence = fence))
        (.workflowConflict "Stale or unauthorized workflow execution")
      let expired ← lift (leaseExpired row.leaseUntil now)
      require (!expired) (.workflowConflict "Stale or unauthorized workflow execution")

/-- `begin_dispatch`. -/
def beginDispatch (tenant workflowId owner : String) (fence : Int)
    (budget : List (String × Json)) (now : DateTime) : Tx Unit := do
  let encoded ← lift (canonicalJson (.obj budget))
  requireLease tenant workflowId owner fence now
  let recorded ← query fun tables => tables.dispatches.fetchone fun row =>
    decide (row.workflowId = workflowId)
  require recorded.isNone (.workflowConflict "Workflow dispatch already recorded")
  attempt (Tables.addDispatch ⟨workflowId, tenant, fence, encoded, none, none, none⟩)
    .integrityError
  event tenant workflowId .dispatchStarted fence

/-- `int(succeeded)`. -/
def intOfBool (succeeded : Bool) : Int := if succeeded then 1 else 0

/-- `record_outcome`. -/
def recordOutcome (platform : Platform) (tenant workflowId owner : String) (fence : Int)
    (result : List (String × Json)) (succeeded : Bool) (now : DateTime) : Tx Unit := do
  let encoded ← lift (canonicalJson (.obj result))
  let digest := platform.sha256 encoded
  requireLease tenant workflowId owner fence now
  let row ← selectDispatch tenant workflowId
  match row with
  | none => fail (.workflowConflict "No matching dispatch")
  | some row => do
      require (decide (row.fence = fence)) (.workflowConflict "No matching dispatch")
      match row.outcomeJson with
      | some outcome =>
          require (decide (outcome = encoded) &&
              decide (row.succeeded = some (intOfBool succeeded)) &&
              decide (row.outcomeSha256 = some digest))
            (.workflowConflict "Outcome conflicts with recorded result")
      | none => do
          write (Tables.setDispatch tenant workflowId (fun row =>
            { row with
              outcomeJson := some encoded
              outcomeSha256 := some digest
              succeeded := some (intOfBool succeeded) }) fun _ => rfl)
          event tenant workflowId .outcomeRecorded fence

/-- The state a committed result leads to. -/
def resultState (succeeded : Bool) : WorkflowState :=
  if succeeded then .awaitingValidation else .failed

/-- `_commit_result`. -/
def commitResult (platform : Platform) (tenant workflowId : String) (fence : Int)
    (encoded : String) (succeeded : Bool) (uuid4 : String) : Tx ArtifactRef := do
  let artifact : ArtifactRef :=
    { artifactId := uuid4
      workflowId := workflowId
      sha256 := platform.sha256 encoded
      sizeBytes := encoded.utf8ByteSize
      schemaVersion := 1
      mediaType := "application/json" }
  attempt (Tables.addArtifact
    ⟨artifact.artifactId, workflowId, tenant, artifact.schemaVersion, artifact.sha256,
      artifact.sizeBytes, encoded⟩) .integrityError
  updateWorkflow tenant workflowId (fun row =>
    { row with
      state := resultState succeeded
      result := some encoded
      resultArtifactId := some artifact.artifactId
      owner := none
      leaseUntil := none }) fun _ => rfl
  event tenant workflowId (.state (resultState succeeded)) fence
  pure artifact

/-- `complete`. -/
def complete (platform : Platform) (tenant workflowId owner : String) (fence : Int)
    (result : List (String × Json)) (succeeded : Bool) (now : DateTime) (uuid4 : String) :
    Tx ArtifactRef := do
  let encoded ← lift (canonicalJson (.obj result))
  requireLease tenant workflowId owner fence now
  let journal ← selectDispatch tenant workflowId
  match journal with
  | none => pure ()
  | some journal =>
      require (decide (journal.outcomeJson = some encoded) &&
          decide (journal.succeeded = some (intOfBool succeeded)) &&
          decide (journal.fence = fence) &&
          decide (journal.outcomeSha256 = some (platform.sha256 encoded)))
        (.workflowConflict "Completion differs from recorded outcome")
  commitResult platform tenant workflowId fence encoded succeeded uuid4

/-- The evidence test of `reconcile_uncertain`: the first conjunct that fails
decides, and only the last one can raise. -/
def outcomeEvidence (platform : Platform) (journal : DispatchRow) (encoded : String)
    (fence : Int) : Except PyError Bool :=
  if journal.fence + 1 ≠ fence then pure false
  else if some (platform.sha256 encoded) ≠ journal.outcomeSha256 then pure false
  else if journal.succeeded ≠ some 0 ∧ journal.succeeded ≠ some 1 then pure false
  else (loadsJson encoded).map isObject

/-- `reconcile_uncertain`. -/
def reconcileUncertain (platform : Platform) (tenant workflowId uuid4 : String) :
    Tx WorkflowState := do
  let row ← selectWorkflow tenant workflowId
  match row with
  | none => fail (.workflowConflict "Workflow not found")
  | some row =>
      if row.state ≠ .uncertain then pure row.state
      else do
        let journal ← selectDispatch tenant workflowId
        match journal with
        | none => pure .uncertain
        | some journal =>
            match journal.outcomeJson with
            | none => pure .uncertain
            | some encoded => do
                let valid ← lift (outcomeEvidence platform journal encoded row.fence)
                require valid (.workflowConflict "Invalid durable outcome evidence")
                let succeeded := decide (journal.succeeded = some 1)
                let _ ← commitResult platform tenant workflowId row.fence encoded succeeded uuid4
                pure (resultState succeeded)

/-! ### Validation and cancellation -/

/-- The row `get_artifact` reads. -/
def selectArtifact (tenant workflowId : String) (artifactId : Option String) :
    Tx (Option ArtifactRow) :=
  query fun tables => tables.artifacts.fetchone fun row =>
    decide (row.tenant = tenant) && decide (row.workflowId = workflowId) &&
      decide (some row.id = artifactId)

/-- `get_artifact`. -/
def getArtifact (platform : Platform) (tenant workflowId : String)
    (artifactId : Option String) : Tx (Option (StoredArtifact platform)) := do
  let row ← selectArtifact tenant workflowId artifactId
  match row with
  | none => pure none
  | some row => do
      let artifact ← lift (StoredArtifact.new platform
        ⟨row.id, row.workflowId, row.sha256, row.sizeBytes, row.schemaVersion,
          "application/json"⟩ row.contentJson)
      pure (some artifact)

/-- `get_binding`. -/
def getBinding (tenant workflowId : String) : Tx (Option Json) := do
  let row ← query fun tables => tables.bindings.fetchone fun row =>
    decide (row.tenant = tenant) && decide (row.workflowId = workflowId)
  match row with
  | none => pure none
  | some row => do
      let value ← lift (loadsJson row.bindingJson)
      pure (some value)

/-- The snapshot a validation uses: the bound one, which an explicit policy must
equal, or that of the explicit policy. -/
def validationSnapshot (binding : Option Json) (policy : Option ValidationPolicy) :
    Except PyError Json :=
  match binding, policy with
  | some binding, none => subscript binding "policy"
  | some binding, some policy => do
      let snapshot ← subscript binding "policy"
      let given ← policySnapshot policy
      if pyEq given snapshot then pure snapshot
      else throw (.workflowConflict "Validation differs from bound policy")
  | none, some policy => policySnapshot policy
  | none, none => throw (.workflowConflict "Workflow has no bound acceptance policy")

/-- Whether a recorded report was made for a snapshot and an artifact. -/
def reportMatches (report snapshot : Json) (ref : ArtifactRef) : Except PyError Bool := do
  let policy ← subscript report "policy"
  if pyEq policy snapshot then
    let artifact ← subscript report "artifact"
    pure (pyEq artifact (artifactDict ref.artifactId ref.sha256))
  else pure false

/-- `validate`. -/
def validate (platform : Platform) (tenant workflowId : String)
    (policy : Option ValidationPolicy) : Tx Json := do
  let binding ← getBinding tenant workflowId
  let snapshot ← lift (validationSnapshot binding policy)
  let row ← selectWorkflow tenant workflowId
  match row with
  | none => fail (.workflowConflict "Workflow is not eligible for validation")
  | some row => do
      let previous ← query fun tables => tables.validations.fetchone fun row =>
        decide (row.tenant = tenant) && decide (row.workflowId = workflowId)
      let artifact ← getArtifact platform tenant workflowId row.resultArtifactId
      match artifact with
      | none => fail (.workflowConflict "Workflow result artifact is missing")
      | some artifact =>
          match previous with
          | some previous => do
              let report ← lift (loadsJson previous.reportJson)
              let same ← lift (reportMatches report snapshot artifact.ref)
              require same (.workflowConflict "Validation replay conflicts with recorded input")
              pure report
          | none => do
              require (decide (row.state = .awaitingValidation))
                (.workflowConflict "Workflow is not eligible for validation")
              let report ← lift (validateArtifact artifact snapshot)
              let decision ← lift (subscript report "decision")
              let state := if decision = .str "accepted" then .succeeded else .rejected
              let reportJson ← lift (canonicalJson report)
              attempt (Tables.addValidation ⟨workflowId, tenant, reportJson⟩) .integrityError
              updateWorkflow tenant workflowId (fun row => { row with state := state })
                fun _ => rfl
              event tenant workflowId (.state state) row.fence
              pure report

/-- `cancel`. -/
def cancel (tenant workflowId : String) : Tx Bool := do
  let row ← selectWorkflow tenant workflowId
  match row with
  | none => pure false
  | some row =>
      match row.state with
      | .cancelled => pure true
      | .ready | .running | .awaitingValidation => do
          let fence := row.fence + 1
          updateWorkflow tenant workflowId (fun row =>
            { row with state := .cancelled, fence := fence, owner := none, leaseUntil := none })
            fun _ => rfl
          event tenant workflowId (.state .cancelled) fence
          pure true
      | .uncertain | .failed | .succeeded | .rejected => pure false

/-! ### Recovery -/

/-- `state='running' AND lease_until<=?`; a null lease compares false. -/
def expiredAt (current : String) (row : WorkflowRow) : Bool :=
  decide (row.state = .running) &&
    match row.leaseUntil with
    | some lease => decide (lease ≤ current)
    | none => false

/-- The expiry of one selected row. -/
def expire (row : WorkflowRow) : Tx Unit := do
  let fence := row.fence + 1
  updateWorkflow row.tenant row.id (fun row =>
    { row with state := .uncertain, fence := fence, owner := none, leaseUntil := none })
    fun _ => rfl
  event row.tenant row.id (.state .uncertain) fence

/-- The expiry loop. -/
def expireAll : List WorkflowRow → Tx Unit
  | [] => pure ()
  | row :: rest => do
      expire row
      expireAll rest

/-- `recover_expired`. -/
def recoverExpired (tenant : String) (now : DateTime) : Tx Nat := do
  let current ← lift (utcNow now)
  let rows ← query fun tables => tables.workflows.select fun row =>
    decide (row.tenant = tenant) && expiredAt current.isoformat row
  expireAll rows
  pure rows.length

/-- A workflow a recovery names. -/
structure WorkflowName where
  tenant : String
  workflowId : String
  deriving DecidableEq

/-- Why a recovery left a workflow uncertain. -/
inductive Unresolved where
  | outcomeUnknown
  | invalidOutcomeEvidence
  deriving DecidableEq

/-- What `recover_startup` reports. -/
structure RecoveryReport where
  scanned : Nat
  expired : List WorkflowName
  reconciled : List (WorkflowName × WorkflowState)
  unresolved : List (WorkflowName × Unresolved)
  deriving DecidableEq

/-- The evidence test of `recover_startup`: an exception counts as invalid. -/
def validEvidence (platform : Platform) (journal : DispatchRow) (encoded : String)
    (fence : Int) : Bool :=
  decide (journal.fence + 1 = fence) &&
    decide (some (platform.sha256 encoded) = journal.outcomeSha256) &&
    (decide (journal.succeeded = some 0) || decide (journal.succeeded = some 1)) &&
    match loadsJson encoded with
    | .ok value => isObject value
    | .error _ => false

/-- One candidate of the reconciliation loop: the workflow is reconciled or
stays unresolved. -/
def settle (platform : Platform) (uuid4 : String → String) (candidate : WorkflowRow) :
    Tx (WorkflowState ⊕ Unresolved) := do
  let row ← selectWorkflow candidate.tenant candidate.id
  let journal ← selectDispatch candidate.tenant candidate.id
  match journal with
  | none => pure (.inr .outcomeUnknown)
  | some journal =>
      match journal.outcomeJson with
      | none => pure (.inr .outcomeUnknown)
      | some encoded =>
          match row with
          -- `row["fence"]` of a missing row is a type error, which counts as invalid
          | none => pure (.inr .invalidOutcomeEvidence)
          | some row =>
              if validEvidence platform journal encoded row.fence then do
                let succeeded := decide (journal.succeeded = some 1)
                let _ ← commitResult platform candidate.tenant candidate.id row.fence encoded
                  succeeded (uuid4 candidate.id)
                pure (.inl (resultState succeeded))
              else pure (.inr .invalidOutcomeEvidence)

/-- The reconciliation loop, with the results in candidate order. -/
def settleAll (platform : Platform) (uuid4 : String → String) :
    List WorkflowRow → Tx (List (WorkflowName × (WorkflowState ⊕ Unresolved)))
  | [] => pure []
  | candidate :: rest => do
      let result ← settle platform uuid4 candidate
      let results ← settleAll platform uuid4 rest
      pure ((⟨candidate.tenant, candidate.id⟩, result) :: results)

/-- The reconciled workflows among the results of the loop. -/
def reconciledOf (results : List (WorkflowName × (WorkflowState ⊕ Unresolved))) :
    List (WorkflowName × WorkflowState) :=
  results.filterMap fun result => result.2.getLeft?.map fun state => (result.1, state)

/-- The unresolved workflows among the results of the loop. -/
def unresolvedOf (results : List (WorkflowName × (WorkflowState ⊕ Unresolved))) :
    List (WorkflowName × Unresolved) :=
  results.filterMap fun result => result.2.getRight?.map fun reason => (result.1, reason)

/-- The rows a startup recovery looks at. -/
def isCandidate (current : String) (row : WorkflowRow) : Bool :=
  decide (row.state = .uncertain) || expiredAt current row

/-- `recover_startup`. -/
def recoverStartup (platform : Platform) (limit : Int) (now : DateTime)
    (uuid4 : String → String) : Tx RecoveryReport := do
  require (decide (1 ≤ limit) && decide (limit ≤ 100000))
    (.valueError "Recovery scan limit must be between 1 and 100000")
  let current ← lift (utcNow now)
  let candidates ← query fun tables =>
    (tables.workflows.select (isCandidate current.isoformat)).take (limit + 1).toNat
  require (decide ((candidates.length : Int) ≤ limit))
    (.workflowConflict "Startup recovery scan limit exceeded")
  let expired := candidates.filter fun row => decide (row.state = .running)
  expireAll expired
  let results ← settleAll platform uuid4 candidates
  pure
    { scanned := candidates.length
      expired := expired.map fun row => ⟨row.tenant, row.id⟩
      reconciled := reconciledOf results
      unresolved := unresolvedOf results }

/-! ### The store as a machine -/

/-- A call of the store. -/
inductive Call where
  | create (tenant key : String) (packet : TaskPacket) (binding : Option (List (String × Json)))
      (uuid4 : String)
  | claim (tenant workflowId owner : String) (leaseSeconds : Int) (now : DateTime)
  | beginDispatch (tenant workflowId owner : String) (fence : Int)
      (budget : List (String × Json)) (now : DateTime)
  | recordOutcome (tenant workflowId owner : String) (fence : Int)
      (result : List (String × Json)) (succeeded : Bool) (now : DateTime)
  | complete (tenant workflowId owner : String) (fence : Int)
      (result : List (String × Json)) (succeeded : Bool) (now : DateTime) (uuid4 : String)
  | reconcileUncertain (tenant workflowId uuid4 : String)
  | validate (tenant workflowId : String) (policy : Option ValidationPolicy)
  | cancel (tenant workflowId : String)
  | recoverExpired (tenant : String) (now : DateTime)
  | recoverStartup (limit : Int) (now : DateTime) (uuid4 : String → String)

/-- What a call returns. -/
inductive Answer where
  | workflowId (id : String)
  | fence (fence : Int)
  | done
  | artifact (ref : ArtifactRef)
  | state (state : WorkflowState)
  | report (report : Json)
  | cancelled (cancelled : Bool)
  | expired (count : Nat)
  | recovery (report : RecoveryReport)

/-- The transaction a call runs. -/
def Call.body (platform : Platform) : Call → Tx Answer
  | .create tenant key packet binding uuid4 =>
      .workflowId <$> Workflows.create platform tenant key packet binding uuid4
  | .claim tenant workflowId owner leaseSeconds now =>
      .fence <$> Workflows.claim tenant workflowId owner leaseSeconds now
  | .beginDispatch tenant workflowId owner fence budget now =>
      (fun _ => .done) <$> Workflows.beginDispatch tenant workflowId owner fence budget now
  | .recordOutcome tenant workflowId owner fence result succeeded now =>
      (fun _ => .done) <$>
        Workflows.recordOutcome platform tenant workflowId owner fence result succeeded now
  | .complete tenant workflowId owner fence result succeeded now uuid4 =>
      .artifact <$>
        Workflows.complete platform tenant workflowId owner fence result succeeded now uuid4
  | .reconcileUncertain tenant workflowId uuid4 =>
      .state <$> Workflows.reconcileUncertain platform tenant workflowId uuid4
  | .validate tenant workflowId policy =>
      .report <$> Workflows.validate platform tenant workflowId policy
  | .cancel tenant workflowId => .cancelled <$> Workflows.cancel tenant workflowId
  | .recoverExpired tenant now => .expired <$> Workflows.recoverExpired tenant now
  | .recoverStartup limit now uuid4 =>
      .recovery <$> Workflows.recoverStartup platform limit now uuid4

/-- The store: every call is one committed or rolled-back transaction. -/
def store (platform : Platform) : Machine Tables Call (Except PyError Answer) where
  step tables call := commit (call.body platform) tables

end Workflows
end Ryuk
