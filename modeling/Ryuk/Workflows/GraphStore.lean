import Ryuk.Foundation.Binary64
import Ryuk.Foundation.Machine
import Ryuk.Foundation.Table
import Ryuk.Workflows.Graph
import Ryuk.Workflows.Store

/-!
# The graph store

The tables of workflow graphs and the operations on them, each one immediate
transaction.  The state of a graph is spread over the rows of its nodes;
`transitionGraphNode` reads it, lets `GraphState.transition` move one node, and
writes every node that changed.
-/

namespace Ryuk
namespace Workflows

open Foundation Foundation.Json Foundation.Text Foundation.Datetime Foundation.Transaction
open Foundation.Decimal Audit

/-! ### Tables -/

/-- A row of `workflow_graphs`. -/
structure GraphRow where
  id : String
  tenant : String
  idempotencyKey : String
  requestHash : String
  graphJson : String
  bindingJson : Option String
  deriving DecidableEq

/-- A row of `workflow_graph_nodes`. -/
structure NodeRow where
  graphId : String
  nodeId : String
  tenant : String
  state : NodeState
  fence : Int
  owner : Option String
  leaseUntil : Option String
  resultArtifactId : Option String
  deriving DecidableEq

/-- The primary key of a node. -/
abbrev NodeRow.key (row : NodeRow) : String × String := (row.graphId, row.nodeId)

/-- A row of `workflow_graph_events`; its sequence number is its place. -/
structure GraphEventRow where
  graphId : String
  nodeId : String
  tenant : String
  state : NodeState
  deriving DecidableEq

/-- A row of `workflow_graph_budgets`. -/
structure GraphBudgetRow where
  graphId : String
  tenant : String
  deadlineAt : String
  maxAttempts : Int
  maxOutputTokens : Option Int
  attempts : Int
  outputTokens : Int
  deriving DecidableEq

/-- A row of `workflow_graph_artifacts`. -/
structure GraphArtifactRow where
  id : String
  graphId : String
  nodeId : String
  tenant : String
  schemaVersion : Int
  sha256 : String
  sizeBytes : Nat
  contentJson : String
  accepted : Int
  validationJson : Option String
  deriving DecidableEq

/-- The tables of workflow graphs. -/
structure GraphTables where
  graphs : Table GraphRow String GraphRow.id
  nodes : Table NodeRow (String × String) NodeRow.key
  events : List GraphEventRow
  budgets : Table GraphBudgetRow String GraphBudgetRow.graphId
  artifacts : Table GraphArtifactRow String GraphArtifactRow.id

/-- A store that was just created. -/
def GraphTables.empty : GraphTables where
  graphs := Table.empty
  nodes := Table.empty
  events := []
  budgets := Table.empty
  artifacts := Table.empty

/-- The body of a graph transaction. -/
abbrev GraphTx := Transaction GraphTables PyError

/-! ### Statements -/

/-- `WHERE tenant=? AND graph_id=? AND node_id=?`. -/
def nodeOf (tenant graphId nodeId : String) (row : NodeRow) : Bool :=
  decide (row.tenant = tenant) && decide (row.graphId = graphId) && decide (row.nodeId = nodeId)

/-- `SELECT ... FROM workflow_graph_nodes WHERE tenant=? AND graph_id=? AND node_id=?`. -/
def selectNode (tenant graphId nodeId : String) : GraphTx (Option NodeRow) :=
  query fun tables => tables.nodes.fetchone (nodeOf tenant graphId nodeId)

/-- `UPDATE workflow_graph_nodes SET ... WHERE ...`. -/
def GraphTables.setNodes (condition : NodeRow → Bool) (change : NodeRow → NodeRow)
    (hkey : ∀ row, (change row).key = row.key) (tables : GraphTables) : GraphTables :=
  { tables with nodes := tables.nodes.update condition change hkey }

/-- An update, and `cursor.rowcount`. -/
def updateNodes (condition : NodeRow → Bool) (change : NodeRow → NodeRow)
    (hkey : ∀ row, (change row).key = row.key) : GraphTx Nat := do
  let rowcount ← query fun tables => (tables.nodes.select condition).length
  write (GraphTables.setNodes condition change hkey)
  pure rowcount

/-- `INSERT INTO workflow_graph_nodes(graph_id, node_id, tenant, state) ...`. -/
def GraphTables.addNode (row : NodeRow) (tables : GraphTables) : Option GraphTables :=
  (tables.nodes.insert row).map fun nodes => { tables with nodes }

/-- `INSERT INTO workflow_graphs ...`. -/
def GraphTables.addGraph (row : GraphRow) (tables : GraphTables) : Option GraphTables :=
  (tables.graphs.insert row).map fun graphs => { tables with graphs }

/-- The integers that SQLite stores lie below this one. -/
def sqliteLimit : Int := 2 ^ 63

/-- An integer that is accepted as a parameter of a statement. -/
def inSqlite (value : Int) : Bool := decide (-sqliteLimit ≤ value ∧ value < sqliteLimit)

/-- The limits of a budget are accepted as parameters. -/
def limitsFit (maxAttempts : Int) (maxOutputTokens : Option Int) : Bool :=
  inSqlite maxAttempts && maxOutputTokens.all inSqlite

/-- The row of a budget in its table. -/
def GraphTables.addBudget (row : GraphBudgetRow) (tables : GraphTables) : Option GraphTables :=
  (tables.budgets.insert row).map fun budgets => { tables with budgets }

/-- `INSERT INTO workflow_graph_budgets ...`; the limits are parameters of the statement. -/
def insertBudgetRow (row : GraphBudgetRow) : GraphTx Unit := do
  require (limitsFit row.maxAttempts row.maxOutputTokens) .overflowError
  attempt (GraphTables.addBudget row) .integrityError

theorem insertBudgetRow_bind_ok {α : Type} {row : GraphBudgetRow} {rest : Unit → GraphTx α}
    {tables final : GraphTables} {result : α} :
    (insertBudgetRow row >>= rest) tables = .ok (result, final) ↔
      limitsFit row.maxAttempts row.maxOutputTokens = true ∧
        ∃ next, tables.addBudget row = some next ∧ rest () next = .ok (result, final) := by
  unfold insertBudgetRow
  rw [bind_assoc, require_bind_ok]
  exact and_congr_right fun _ => attempt_bind_ok

theorem insertBudgetRow_ok {row : GraphBudgetRow} {tables final : GraphTables} {result : Unit} :
    insertBudgetRow row tables = .ok (result, final) ↔
      limitsFit row.maxAttempts row.maxOutputTokens = true ∧
        tables.addBudget row = some final := by
  unfold insertBudgetRow
  rw [require_bind_ok, attempt_ok]

/-- `INSERT INTO workflow_graph_artifacts ...`. -/
def GraphTables.addArtifact (row : GraphArtifactRow) (tables : GraphTables) :
    Option GraphTables :=
  (tables.artifacts.insert row).map fun artifacts => { tables with artifacts }

/-- `UPDATE workflow_graph_artifacts SET accepted=?, validation_json=? WHERE id=?`. -/
def GraphTables.setValidation (artifactId : String) (accepted : Int) (validationJson : String)
    (tables : GraphTables) : GraphTables :=
  { tables with
    artifacts := tables.artifacts.update (fun row => decide (row.id = artifactId))
      (fun row => { row with accepted := accepted, validationJson := some validationJson })
      fun _ => rfl }

/-- `INSERT INTO workflow_graph_events ...`. -/
def GraphTables.log (tenant graphId nodeId : String) (state : NodeState) (tables : GraphTables) :
    GraphTables :=
  { tables with events := tables.events ++ [⟨graphId, nodeId, tenant, state⟩] }

/-- `_graph_event`. -/
def graphEvent (tenant graphId nodeId : String) (state : NodeState) : GraphTx Unit :=
  write (GraphTables.log tenant graphId nodeId state)

/-- `SELECT * FROM workflow_graph_budgets WHERE tenant=? AND graph_id=?`. -/
def selectBudget (tenant graphId : String) : GraphTx (Option GraphBudgetRow) :=
  query fun tables => tables.budgets.fetchone fun row =>
    decide (row.tenant = tenant) && decide (row.graphId = graphId)

/-! ### Budgets -/

/-- The budget of a graph. -/
structure GraphBudget where
  deadlineSeconds : Number
  maxAttempts : Int
  maxOutputTokens : Option Int

/-- `math.isfinite(number)`; an integer is made a double for it. -/
def isfinite : Number → Except PyError Bool
  | .int value => if overflowBound ≤ value.natAbs then .error .overflowError else .ok true
  | .float (.finite _) => .ok true
  | .float .nan | .float (.infinity _) => .ok false

/-- `_validate_graph_budget`.  The checks are made from left to right, so a duration that is
not positive is refused before it is asked whether it is finite. -/
def validateGraphBudget (budget : GraphBudget) : Except PyError Unit := do
  -- an infinity below zero passes here and fails the next check with the same error
  ensure (budget.deadlineSeconds.toRat?.all fun seconds => decide (0 < seconds))
    (.valueError "Invalid graph budget")
  let finite ← isfinite budget.deadlineSeconds
  ensure (finite && decide (1 ≤ budget.maxAttempts) &&
      budget.maxOutputTokens.all fun tokens => decide (1 ≤ tokens))
    (.valueError "Invalid graph budget")

def numberJson : Number → Json
  | .int value => .int value
  | .float value => .float value

def GraphBudget.toDict (budget : GraphBudget) : Json :=
  .obj
    [("deadline_seconds", numberJson budget.deadlineSeconds),
      ("max_attempts", .int budget.maxAttempts),
      ("max_output_tokens", optionalInt budget.maxOutputTokens)]

/-- `math.modf(value)[1]`: the integer towards zero. -/
def truncate (value : ℚ) : Int := if 0 ≤ value then ⌊value⌋ else ⌈value⌉

/-- `timedelta(seconds=number)`, in microseconds.  The whole seconds of a float count
exactly; its fraction is scaled in doubles, and what that leaves is rounded half to even. -/
def microseconds : Number → Except PyError Int
  | .int value => .ok (value * 1000000)
  | .float (.finite value) =>
      let seconds := Binary64.nearest value.toRat
      let whole := truncate seconds
      .ok (whole * 1000000 + roundHalfEven (Binary64.nearest (1000000 * (seconds - whole))))
  | .float .nan => .error (.valueError "cannot convert float NaN to integer")
  | .float (.infinity _) => .error .overflowError

-- the fraction of the double of `1.0000005` is more than half a microsecond
example : microseconds (.float (.finite ⟨false, 10000005, -7, by decide, by decide⟩)) =
    .ok 1000001 := by decide +kernel

/-- `(self._now(now) + timedelta(seconds=deadline_seconds)).isoformat()`. -/
def deadlineAt (budget : GraphBudget) (now : DateTime) : Except PyError String := do
  let current ← utcNow now
  let duration ← microseconds budget.deadlineSeconds
  match current.shift duration with
  | some deadline => pure deadline.isoformat
  | none => throw .overflowError

/-- `datetime.fromisoformat(deadline_at) <= current`. -/
def deadlineReached (deadlineAt : String) (current : Instant) : Except PyError Bool :=
  match fromisoformat deadlineAt with
  | none => .error (.valueError "Invalid isoformat string")
  | some deadline =>
      match deadline.utcoffset with
      | none => .error .typeError
      | some offset => .ok (decide ((deadline.reading.micros : Int) - offset ≤ current.micros))

/-! ### Creation -/

/-- The nodes of a new graph, each with its event. -/
def insertNodes (tenant graphId : String) : List (String × NodeState) → GraphTx Unit
  | [] => pure ()
  | (nodeId, state) :: rest => do
      attempt (GraphTables.addNode ⟨graphId, nodeId, tenant, state, 0, none, none, none⟩)
        .integrityError
      graphEvent tenant graphId nodeId state
      insertNodes tenant graphId rest

/-- The budget row of a graph that is created with a budget. -/
def insertBudget (tenant graphId : String) (now : DateTime) : Option GraphBudget → GraphTx Unit
  | none => pure ()
  | some budget => do
      let deadline ← lift (deadlineAt budget now)
      insertBudgetRow
        ⟨graphId, tenant, deadline, budget.maxAttempts, budget.maxOutputTokens, 0, 0⟩

/-- What the request hash of a graph covers. -/
def hashedGraph (encoded : String) (value : Json) (budget : Option GraphBudget)
    (bound : Option String) : Except PyError String :=
  match budget, bound with
  | none, none => pure encoded
  | _, _ => do
      let budgetValue ← (match budget with
        | none => pure Json.null
        | some budget => do
            validateGraphBudget budget
            pure budget.toDict)
      let binding ← (match bound with
        | none => pure Json.null
        | some text => loadsJson text)
      canonicalJson (.obj [("graph", value), ("budget", budgetValue), ("binding", binding)])

/-- `create_graph`. -/
def createGraph (platform : Platform) (tenant key : String) (graph : WorkflowGraph)
    (budget : Option GraphBudget) (binding : Option (List (String × Json))) (now : DateTime)
    (uuid4 : String) : GraphTx String := do
  require (isCanonicalId tenant)
    (.valueError "Identifiers must be nonempty without outer whitespace")
  require (isCanonicalId key)
    (.valueError "Identifiers must be nonempty without outer whitespace")
  let dict ← lift graph.toDict
  let validated ← lift (WorkflowGraph.fromDict dict)
  let value ← lift validated.toDict
  let encoded ← lift (canonicalJson value)
  let bound ← lift (match binding with
    | none => pure none
    | some fields => (canonicalJson (.obj fields)).map some)
  let hashed ← lift (hashedGraph encoded value budget bound)
  let digest := platform.sha256 hashed
  let initial ← lift validated.initialState
  let existing ← query fun tables => tables.graphs.fetchone fun row =>
    decide (row.tenant = tenant) && decide (row.idempotencyKey = key)
  match existing with
  | some row => do
      require (decide (row.requestHash = digest))
        (.workflowConflict "Graph idempotency key conflicts with existing input")
      pure row.id
  | none => do
      attempt (GraphTables.addGraph ⟨uuid4, tenant, key, digest, encoded, bound⟩) .integrityError
      insertNodes tenant uuid4 initial.nodeStates
      insertBudget tenant uuid4 now budget
      pure uuid4

/-! ### The state of a graph -/

/-- `_get_graph_state`. -/
def getGraphState (tenant graphId : String) : GraphTx (Option GraphState) := do
  let row ← query fun tables => tables.graphs.fetchone fun row =>
    decide (row.tenant = tenant) && decide (row.id = graphId)
  match row with
  | none => pure none
  | some row => do
      let value ← lift (loadsJson row.graphJson)
      let graph ← lift (WorkflowGraph.fromDict value)
      let rows ← query fun tables => tables.nodes.select fun row =>
        decide (row.tenant = tenant) && decide (row.graphId = graphId)
      let ordered := rows.mergeSort fun left right => decide (left.nodeId ≤ right.nodeId)
      let state ← lift (match GraphState.new graph
          (ordered.map fun row => (row.nodeId, row.state)) with
        | .ok state => .ok state
        | .error error =>
            if error.isValueError then
              .error (.valueError "Invalid persisted workflow graph state")
            else .error error)
      pure (some state)

/-- The order in which derived changes are written: a node after the changed nodes
it depends on.  The fuel bounds the number of rounds. -/
def orderDerived (nodes : List GraphNode) : Nat → List String → Except PyError (List String)
  | 0, _ => pure []
  | fuel + 1, pending =>
      if pending.isEmpty then pure []
      else
        let eligible := (nodes.filter fun node => decide (node.nodeId ∈ pending) &&
          node.dependsOn.all fun dependency => decide (dependency ∉ pending)).map GraphNode.nodeId
        if eligible.isEmpty then
          throw (.valueError "Invalid derived graph transition ordering")
        else do
          let rest ← orderDerived nodes fuel
            (pending.filter fun nodeId => decide (nodeId ∉ eligible))
          pure (eligible ++ rest)

/-- Write the changed nodes, each with its event. -/
def writeStates (tenant graphId : String) (before after : States) :
    List String → GraphTx Unit
  | [] => pure ()
  | nodeId :: rest => do
      let state ← lift (after.get nodeId)
      let old ← lift (before.get nodeId)
      let rowcount ← updateNodes
        (fun row => nodeOf tenant graphId nodeId row && decide (row.state = old))
        (fun row => { row with state := state }) fun _ => rfl
      require (decide (rowcount = 1))
        (.workflowConflict "Workflow graph state changed concurrently")
      graphEvent tenant graphId nodeId state
      writeStates tenant graphId before after rest

/-- `_transition_graph_node`. -/
def transitionGraphNode (tenant graphId nodeId : String) (target : NodeState) :
    GraphTx GraphState := do
  let current ← getGraphState tenant graphId
  match current with
  | none => fail (.workflowConflict "Workflow graph not found")
  | some current => do
      let updated ← lift (match current.transition nodeId target with
        | .ok updated => .ok updated
        | .error error =>
            if error.isValueError then
              .error (.workflowConflict "Illegal workflow graph transition")
            else .error error)
      let before := statesOf current.nodeStates
      let pending := (updated.nodeStates.filter fun pair =>
        decide (before pair.1 ≠ some pair.2)).map Prod.fst
      let first := pending.filter fun changed => decide (changed = nodeId)
      let derived := pending.filter fun changed => decide (changed ≠ nodeId)
      let ordered ← lift (orderDerived updated.graph.nodes derived.length derived)
      writeStates tenant graphId before (statesOf updated.nodeStates) (first ++ ordered)
      pure updated

/-! ### Executing nodes -/

/-- `bind_graph_budget`. -/
def bindGraphBudget (tenant graphId : String) (budget : GraphBudget) (now : DateTime) :
    GraphTx GraphBudgetRow := do
  lift (validateGraphBudget budget)
  let deadline ← lift (deadlineAt budget now)
  let state ← getGraphState tenant graphId
  require state.isSome (.workflowConflict "Workflow graph not found")
  let existing ← selectBudget tenant graphId
  match existing with
  | some row => do
      require (decide (row.maxAttempts = budget.maxAttempts) &&
          decide (row.maxOutputTokens = budget.maxOutputTokens))
        (.workflowConflict "Graph budget is already bound")
      pure row
  | none => do
      let row : GraphBudgetRow :=
        ⟨graphId, tenant, deadline, budget.maxAttempts, budget.maxOutputTokens, 0, 0⟩
      insertBudgetRow row
      pure row

/-- `claim_graph_node`. -/
def claimGraphNode (tenant graphId nodeId owner : String) (leaseSeconds : Int)
    (now : DateTime) : GraphTx Int := do
  require (isCanonicalId owner)
    (.valueError "Identifiers must be nonempty without outer whitespace")
  require (decide (1 ≤ leaseSeconds) && decide (leaseSeconds ≤ 3600))
    (.valueError "Lease must be between 1 and 3600 seconds")
  let budget ← selectBudget tenant graphId
  let current ← lift (utcNow now)
  match budget with
  | none => fail (.workflowConflict "Graph budget is missing or expired")
  | some budget => do
      let reached ← lift (deadlineReached budget.deadlineAt current)
      require (!reached) (.workflowConflict "Graph budget is missing or expired")
      let row ← selectNode tenant graphId nodeId
      match row with
      | none => fail (.workflowConflict "Graph node is not claimable")
      | some row => do
          require (decide (row.state = .ready)) (.workflowConflict "Graph node is not claimable")
          let fence := row.fence + 1
          let expiry ← lift (match current.shift (leaseSeconds * 1000000) with
            | some instant => pure instant
            | none => throw .overflowError)
          let rowcount ← updateNodes
            (fun found => nodeOf tenant graphId nodeId found && decide (found.state = .ready) &&
              decide (found.fence = row.fence))
            (fun found =>
              { found with
                state := .running
                fence := fence
                owner := some owner
                leaseUntil := some expiry.isoformat }) fun _ => rfl
          require (decide (rowcount = 1))
            (.workflowConflict "Graph node claim changed concurrently")
          graphEvent tenant graphId nodeId .running
          pure fence

/-- `_require_graph_lease`. -/
def requireGraphLease (tenant graphId nodeId owner : String) (fence : Int) (now : DateTime) :
    GraphTx Unit := do
  let row ← selectNode tenant graphId nodeId
  match row with
  | none => fail (.workflowConflict "Stale or unauthorized graph-node execution")
  | some row => do
      require (decide (row.state = .running) && decide (row.owner = some owner) &&
          decide (row.fence = fence))
        (.workflowConflict "Stale or unauthorized graph-node execution")
      let expired ← lift (leaseExpired row.leaseUntil now)
      require (!expired) (.workflowConflict "Stale or unauthorized graph-node execution")

/-- The state a completed node goes to. -/
def nodeResultState (succeeded : Bool) : NodeState :=
  if succeeded then .awaitingValidation else .failed

/-- `complete_graph_node`. -/
def completeGraphNode (platform : Platform) (tenant graphId nodeId owner : String) (fence : Int)
    (result : List (String × Json)) (succeeded : Bool) (now : DateTime) (uuid4 : String) :
    GraphTx ArtifactRef := do
  let encoded ← lift (canonicalJson (.obj result))
  requireGraphLease tenant graphId nodeId owner fence now
  let artifact : ArtifactRef :=
    { artifactId := uuid4
      workflowId := graphId
      sha256 := platform.sha256 encoded
      sizeBytes := encoded.utf8ByteSize
      schemaVersion := 1
      mediaType := "application/json" }
  attempt (GraphTables.addArtifact
    ⟨artifact.artifactId, graphId, nodeId, tenant, artifact.schemaVersion, artifact.sha256,
      artifact.sizeBytes, encoded, 0, none⟩) .integrityError
  let _ ← transitionGraphNode tenant graphId nodeId (nodeResultState succeeded)
  let _ ← updateNodes (nodeOf tenant graphId nodeId)
    (fun row =>
      { row with
        owner := none
        leaseUntil := none
        resultArtifactId := some artifact.artifactId }) fun _ => rfl
  pure artifact

/-- The artifact a node row names: the join on `result_artifact_id`. -/
def GraphTables.resultOf (tables : GraphTables) (row : NodeRow) : Option GraphArtifactRow :=
  row.resultArtifactId.bind tables.artifacts.find

/-- `validate_graph_node`. -/
def validateGraphNode (platform : Platform) (tenant graphId nodeId : String)
    (policy : ValidationPolicy) : GraphTx Json := do
  let snapshot ← lift (policySnapshot policy)
  let row ← query fun tables => (tables.nodes.fetchone (nodeOf tenant graphId nodeId)).bind
    fun node => (tables.resultOf node).map fun artifact => (node.state, artifact)
  match row with
  | none => fail (.workflowConflict "Graph node has no result artifact")
  | some (state, row) => do
      let artifact ← lift (StoredArtifact.new platform
        ⟨row.id, row.graphId, row.sha256, row.sizeBytes, row.schemaVersion, "application/json"⟩
        row.contentJson)
      match row.validationJson with
      | some text => do
          let report ← lift (loadsJson text)
          let recorded ← lift (subscript report "policy")
          require (pyEq recorded snapshot) (.workflowConflict "Graph validation policy changed")
          pure report
      | none => do
          require (decide (state = .awaitingValidation))
            (.workflowConflict "Graph node is not eligible for validation")
          let report ← lift (validateArtifact artifact snapshot)
          let decision ← lift (subscript report "decision")
          let accepted := decide (decision = .str "accepted")
          let reportJson ← lift (canonicalJson report)
          write (GraphTables.setValidation row.id (intOfBool accepted) reportJson)
          let _ ← transitionGraphNode tenant graphId nodeId
            (if accepted then .succeeded else .rejected)
          pure report

/-! ### Cancellation and recovery -/

/-- Whether `cancel_graph` ends a node in this state. -/
def NodeState.isCancellable : NodeState → Bool
  | .ready | .running | .awaitingValidation => true
  | .blocked | .succeeded | .failed | .rejected | .cancelled | .uncertain | .skipped => false

/-- `UPDATE workflow_graph_nodes SET fence=fence+1, owner=NULL, lease_until=NULL WHERE ...`. -/
def fenceNode (tenant graphId nodeId : String) : GraphTx Unit := do
  let _ ← updateNodes (nodeOf tenant graphId nodeId)
    (fun row => { row with fence := row.fence + 1, owner := none, leaseUntil := none })
    fun _ => rfl
  pure ()

/-- The cancellation loop over the states read at its start. -/
def cancelNodes (tenant graphId : String) : List (String × NodeState) → GraphTx Unit
  | [] => pure ()
  | (nodeId, nodeState) :: rest => do
      if nodeState.isCancellable then do
        let state ← getGraphState tenant graphId
        match state with
        | none => fail .assertionError
        | some state => do
            let current ← lift (state.stateOf nodeId)
            if current.isCancellable then do
              let _ ← transitionGraphNode tenant graphId nodeId .cancelled
              fenceNode tenant graphId nodeId
              cancelNodes tenant graphId rest
            else cancelNodes tenant graphId rest
      else cancelNodes tenant graphId rest

/-- `cancel_graph`. -/
def cancelGraph (tenant graphId : String) : GraphTx GraphState := do
  let state ← getGraphState tenant graphId
  match state with
  | none => fail (.workflowConflict "Workflow graph not found")
  | some state => do
      cancelNodes tenant graphId state.nodeStates
      let final ← getGraphState tenant graphId
      match final with
      | none => fail .assertionError
      | some final => pure final

/-- A node a recovery names. -/
structure NodeName where
  tenant : String
  graphId : String
  nodeId : String
  deriving DecidableEq

/-- The recovery loop over the selected rows. -/
def recoverNodes : List NodeRow → GraphTx Unit
  | [] => pure ()
  | row :: rest => do
      let _ ← transitionGraphNode row.tenant row.graphId row.nodeId .uncertain
      fenceNode row.tenant row.graphId row.nodeId
      recoverNodes rest

/-- `state='running' AND lease_until<=?`; a null lease compares false. -/
def nodeExpiredAt (current : String) (row : NodeRow) : Bool :=
  decide (row.state = .running) &&
    match row.leaseUntil with
    | some lease => decide (lease ≤ current)
    | none => false

/-- `recover_graph_nodes_startup`. -/
def recoverGraphNodesStartup (limit : Int) (now : DateTime) : GraphTx (List NodeName) := do
  require (decide (1 ≤ limit) && decide (limit ≤ 100000))
    (.valueError "Recovery scan limit must be between 1 and 100000")
  let current ← lift (utcNow now)
  let rows ← query fun tables =>
    (tables.nodes.select (nodeExpiredAt current.isoformat)).take (limit + 1).toNat
  require (decide ((rows.length : Int) ≤ limit))
    (.workflowConflict "Graph recovery scan limit exceeded")
  recoverNodes rows
  pure (rows.map fun row => ⟨row.tenant, row.graphId, row.nodeId⟩)

/-! ### The graph store as a machine -/

/-- A call of the graph store by an executor, an API or a recovery. -/
inductive GraphCall where
  | createGraph (tenant key : String) (graph : WorkflowGraph) (budget : Option GraphBudget)
      (binding : Option (List (String × Json))) (now : DateTime) (uuid4 : String)
  | bindGraphBudget (tenant graphId : String) (budget : GraphBudget) (now : DateTime)
  | claimGraphNode (tenant graphId nodeId owner : String) (leaseSeconds : Int) (now : DateTime)
  | completeGraphNode (tenant graphId nodeId owner : String) (fence : Int)
      (result : List (String × Json)) (succeeded : Bool) (now : DateTime) (uuid4 : String)
  | validateGraphNode (tenant graphId nodeId : String) (policy : ValidationPolicy)
  | cancelGraph (tenant graphId : String)
  | recoverGraphNodesStartup (limit : Int) (now : DateTime)

/-- What a call returns. -/
inductive GraphAnswer where
  | graphId (id : String)
  | budget (row : GraphBudgetRow)
  | fence (fence : Int)
  | artifact (ref : ArtifactRef)
  | report (report : Json)
  | state (state : GraphState)
  | recovered (nodes : List NodeName)

/-- The transaction a call runs. -/
def GraphCall.body (platform : Platform) : GraphCall → GraphTx GraphAnswer
  | .createGraph tenant key graph budget binding now uuid4 =>
      .graphId <$> Workflows.createGraph platform tenant key graph budget binding now uuid4
  | .bindGraphBudget tenant graphId budget now =>
      .budget <$> Workflows.bindGraphBudget tenant graphId budget now
  | .claimGraphNode tenant graphId nodeId owner leaseSeconds now =>
      .fence <$> Workflows.claimGraphNode tenant graphId nodeId owner leaseSeconds now
  | .completeGraphNode tenant graphId nodeId owner fence result succeeded now uuid4 =>
      .artifact <$> Workflows.completeGraphNode platform tenant graphId nodeId owner fence result
        succeeded now uuid4
  | .validateGraphNode tenant graphId nodeId policy =>
      .report <$> Workflows.validateGraphNode platform tenant graphId nodeId policy
  | .cancelGraph tenant graphId => .state <$> Workflows.cancelGraph tenant graphId
  | .recoverGraphNodesStartup limit now =>
      .recovered <$> Workflows.recoverGraphNodesStartup limit now

/-- The graph store: every call is one committed or rolled-back transaction. -/
def graphStore (platform : Platform) : Machine GraphTables GraphCall (Except PyError GraphAnswer)
    where
  step tables call := commit (call.body platform) tables

end Workflows
end Ryuk
