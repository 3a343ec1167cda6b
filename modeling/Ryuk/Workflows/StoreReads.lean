import Ryuk.Workflows.DurableBudget
import Ryuk.Workflows.GraphResults

/-!
# The reads of the store

What a tenant may ask of its workflows and graphs beside running them.  The rows of
the two event logs carry sequence numbers, which count the rows of all tenants.
-/

namespace Ryuk
namespace Workflows

open Foundation Foundation.Json Foundation.Transaction

/-- Rows of a log that satisfy a condition, with their sequence numbers. -/
def sequenced {ρ : Type} (log : List ρ) (condition : ρ → Bool) : List (Nat × ρ) :=
  (log.zipIdx 1).filterMap fun entry =>
    if condition entry.1 then some (entry.2, entry.1) else none

/-- Without the numbers, the rows are selected. -/
theorem sequenced_rows {ρ : Type} (log : List ρ) (condition : ρ → Bool) :
    (sequenced log condition).map Prod.snd = log.filter condition := by
  unfold sequenced
  generalize 1 = start
  induction log generalizing start with
  | nil => rfl
  | cons row rest ih =>
      rw [List.zipIdx_cons]
      cases hrow : condition row with
      | true =>
          rw [List.filterMap_cons_some (b := (start, row)) (by rw [if_pos hrow]), List.map_cons,
            ih, List.filter_cons_of_pos hrow]
      | false =>
          rw [List.filterMap_cons_none (by rw [if_neg (by rw [hrow]; exact Bool.false_ne_true)]),
            ih, List.filter_cons_of_neg (by rw [hrow]; exact Bool.false_ne_true)]

namespace SQLiteWorkflowStore

/-! ### Single tasks -/

/-- What `get` returns. -/
structure WorkflowRecord where
  id : String
  tenant : String
  idempotencyKey : String
  requestHash : String
  packet : Json
  state : WorkflowState
  fence : Int
  owner : Option String
  leaseUntil : Option String
  result : Option Json
  resultArtifactId : Option String
  validation : Option Json

/-- `json.loads(text) if text is not None else None`. -/
def loadsOptional : Option String → Except PyError (Option Json)
  | none => pure none
  | some text => (loadsJson text).map some

/-- The result of a record: the payload of its artifact, when it names one. -/
def recordResult (platform : Platform) (tenant workflowId : String) (stored : Option Json) :
    Option String → Tx (Option Json)
  | none => pure stored
  | some artifactId => do
      let artifact ← getArtifact platform tenant workflowId (some artifactId)
      match artifact with
      | none => fail (.valueError "Workflow result artifact is missing")
      | some artifact => pure (some artifact.payload)

/-- `get`. -/
def get (platform : Platform) (tenant workflowId : String) : Tx (Option WorkflowRecord) := do
  let row ← selectWorkflow tenant workflowId
  match row with
  | none => pure none
  | some row => do
      let packet ← lift (loadsJson row.packet)
      let stored ← lift (loadsOptional row.result)
      let result ← recordResult platform tenant workflowId stored row.resultArtifactId
      let report ← query fun tables => tables.validations.fetchone fun row =>
        decide (row.tenant = tenant) && decide (row.workflowId = workflowId)
      let validation ← lift (loadsOptional (report.map ValidationRow.reportJson))
      pure (some ⟨row.id, row.tenant, row.idempotencyKey, row.requestHash, packet, row.state,
        row.fence, row.owner, row.leaseUntil, result, row.resultArtifactId, validation⟩)

/-- `get_packet`. -/
def getPacket (platform : Platform) (tenant workflowId : String) : Tx (Option TaskPacket) := do
  let workflow ← get platform tenant workflowId
  match workflow with
  | none => pure none
  | some workflow => do
      let packet ← lift (TaskPacket.fromDict workflow.packet)
      pure (some packet)

/-- A row that `events` returns. -/
structure EventRecord where
  sequence : Nat
  state : EventLabel
  fence : Int

/-- `events`. -/
def events (tenant workflowId : String) : Tx (List EventRecord) :=
  query fun tables => (sequenced tables.events fun row =>
    decide (row.tenant = tenant) && decide (row.workflowId = workflowId)).map fun entry =>
      ⟨entry.1, entry.2.label, entry.2.fence⟩

/-! ### Graphs -/

/-- `get_graph_binding`. -/
def getGraphBinding (tenant graphId : String) : GraphTx (Option Json) := do
  let row ← query fun tables => tables.graphs.fetchone fun row =>
    decide (row.tenant = tenant) && decide (row.id = graphId)
  lift (loadsOptional (row.bind GraphRow.bindingJson))

/-- `get_graph_node_packet`. -/
def getGraphNodePacket (tenant graphId nodeId : String) : GraphTx (Option TaskPacket) := do
  let state ← getGraphState tenant graphId
  match state with
  | none => pure none
  | some state =>
      pure ((state.graph.nodes.find? fun node => decide (node.nodeId = nodeId)).map
        GraphNode.packet)

/-- A row that `graph_events` returns. -/
structure GraphEventRecord where
  sequence : Nat
  nodeId : String
  state : NodeState

/-- `graph_events`. -/
def graphEvents (tenant graphId : String) : GraphTx (List GraphEventRecord) :=
  query fun tables => (sequenced tables.events fun row =>
    decide (row.tenant = tenant) && decide (row.graphId = graphId)).map fun entry =>
      ⟨entry.1, entry.2.nodeId, entry.2.state⟩

/-- `get_graph_artifact`; the join takes any node that names the artifact. -/
def getGraphArtifact (platform : Platform) (tenant graphId nodeId : String) :
    GraphTx (Option (StoredArtifact platform)) := do
  let row ← query fun tables => tables.artifacts.fetchone fun artifact =>
    (decide (artifact.tenant = tenant) && decide (artifact.graphId = graphId) &&
      decide (artifact.nodeId = nodeId)) &&
      tables.nodes.rows.any fun node => decide (node.resultArtifactId = some artifact.id)
  match row with
  | none => pure none
  | some row => do
      let artifact ← lift (row.stored platform)
      pure (some artifact)

/-- A row that `graph_node_records` returns. -/
structure GraphNodeRecord where
  nodeId : String
  state : NodeState
  fence : Int
  resultArtifactId : Option String

/-- `graph_node_records`. -/
def graphNodeRecords (tenant graphId : String) : GraphTx (List GraphNodeRecord) := do
  let state ← getGraphState tenant graphId
  match state with
  | none => pure []
  | some _ => do
      let rows ← query fun tables => tables.nodes.select (nodeOfGraph tenant graphId)
      let ordered := rows.mergeSort fun left right => decide (left.nodeId ≤ right.nodeId)
      pure (ordered.map fun row => ⟨row.nodeId, row.state, row.fence, row.resultArtifactId⟩)

end SQLiteWorkflowStore

end Workflows
end Ryuk
