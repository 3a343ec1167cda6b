import Ryuk.Api.Workflows
import Ryuk.Workflows.GraphShown

/-!
# The routes on workflow graphs

Creation, status, cancellation and result of workflow graphs, over the store.  A graph is
described by its nodes in any order; the route sorts them and builds a packet for each.
-/

namespace Ryuk
namespace Api

open Foundation Foundation.Json Foundation.Text
open Control (ControlPlaneFailure)
open Workflows (GraphBudget GraphNode GraphResult GraphState GraphTables NodeState TaskPacket
  WorkflowGraph WorkflowPolicy canonicalJson)

/-! ### Requests -/

/-- A node of a request that passed the validators of `CreateGraphNodeRequest`. -/
structure CreateGraphNodeRequest where
  nodeId : String
  prompt : String
  model : String
  maxTokens : Int
  temperature : Decimal.Finite
  dependsOn : List String
  idText : nodeId.length ≤ 128 ∧ Workflows.isCanonicalId nodeId = true
  promptText : prompt.length ≤ 100000 ∧ isBlank prompt = false
  modelText : model.length ≤ 256 ∧ isBlank model = false
  tokens : 1 ≤ maxTokens ∧ maxTokens ≤ 32768
  bounds : 0 ≤ temperature.toRat ∧ temperature.toRat ≤ 2
  dependencies : dependsOn.length ≤ 100 ∧ dependsOn.all Workflows.isCanonicalId = true ∧
    dependsOn.Nodup

/-- A body of `CreateWorkflowGraphRequest` that passed its validators. -/
structure CreateWorkflowGraphRequest where
  idempotencyKey : String
  nodes : List CreateGraphNodeRequest
  keyText : idempotencyKey.length ≤ 128 ∧ Workflows.isCanonicalId idempotencyKey = true
  sized : 1 ≤ nodes.length ∧ nodes.length ≤ 100

/-- `tuple(sorted(node.depends_on))`. -/
def CreateGraphNodeRequest.dependencyIds (node : CreateGraphNodeRequest) : List String :=
  node.dependsOn.mergeSort fun left right => decide (left ≤ right)

/-- `sorted(payload.nodes, key=lambda item: item.node_id)`. -/
def CreateWorkflowGraphRequest.sortedNodes (payload : CreateWorkflowGraphRequest) :
    List CreateGraphNodeRequest :=
  payload.nodes.mergeSort fun left right => decide (left.nodeId ≤ right.nodeId)

/-- The node of a graph that a node of a request describes.  Its trace id is `uuid5` of the
tenant, the key and the id. -/
def CreateGraphNodeRequest.graphNode (tenant key : String) (uuid5 : String → Inference.Text)
    (node : CreateGraphNodeRequest) : Except PyError GraphNode := do
  let name ← canonicalJson (.arr [.str tenant, .str key, .str node.nodeId])
  let packet ← Workflows.textPacket node.prompt node.model node.maxTokens node.temperature
    (uuid5 name)
  GraphNode.new node.nodeId packet node.dependencyIds

/-- The nodes of a request, in canonical order. -/
def CreateWorkflowGraphRequest.graphNodes (tenant : String) (uuid5 : String → Inference.Text)
    (payload : CreateWorkflowGraphRequest) : Except PyError (List GraphNode) :=
  payload.sortedNodes.mapM (CreateGraphNodeRequest.graphNode tenant payload.idempotencyKey uuid5)

namespace GraphRoutes

open WorkflowRoutes (InputLimits policyRequired)

/-- What the routes make of exceptions. -/
def failures : FailureMap where
  conflict :=
    ⟨409, "workflow_graph_conflict", "Workflow graph operation conflicts with saved state."⟩
  unverified := ⟨503, "workflow_store_unavailable", "Workflow graph state could not be verified."⟩

def notFound : ControlPlaneFailure := ⟨404, "workflow_graph_not_found", "Graph not found."⟩

def limitExceeded : ControlPlaneFailure :=
  ⟨422, "workflow_limit_exceeded", "Workflow graph input exceeds configured limits."⟩

def invalidGraph : ControlPlaneFailure :=
  ⟨422, "invalid_workflow_graph", "Workflow graph is invalid."⟩

/-- What a graph has come to as a whole. -/
inductive Aggregate where
  | active
  | succeeded
  | completedWithFailures
  deriving DecidableEq

def Aggregate.value : Aggregate → String
  | .active => "active"
  | .succeeded => "succeeded"
  | .completedWithFailures => "completed_with_failures"

/-- What `summary` returns. -/
structure Summary where
  graphId : String
  state : Aggregate
  terminal : Bool
  nodes : List (String × NodeState)

/-- What `result` returns: the payloads and the reports beside the summary. -/
structure Served where
  summary : Summary
  results : List (String × Json × Json)

/-- The summary of a state. -/
def summaryOf (graphId : String) (state : GraphState) : Summary where
  graphId := graphId
  state :=
    if state.terminal then
      if state.nodeStates.all fun pair => decide (pair.2 = .succeeded) then .succeeded
      else .completedWithFailures
    else .active
  terminal := state.terminal
  nodes := state.nodeStates

variable (platform : Platform) (tenant graphId : String)

/-- `saved_graph`. -/
def savedGraph : Route GraphTables GraphState := do
  let binding ← Route.transact (Workflows.SQLiteWorkflowStore.getGraphBinding tenant graphId)
  match binding with
  | none => Route.refuse notFound
  | some _ => do
      let state ← Route.transact (Workflows.getGraphState tenant graphId)
      match state with
      | none => Route.refuse notFound
      | some state => pure state

/-- `summary`. -/
def summary : Route GraphTables Summary := do
  let state ← Route.transact (Workflows.getGraphState tenant graphId)
  match state with
  | none => Route.compute (.error .assertionError)
  | some state => pure (summaryOf graphId state)

/-- `status`. -/
def status : Route GraphTables Summary := do
  let _ ← savedGraph tenant graphId
  summary tenant graphId

/-- `cancel`. -/
def cancel : Route GraphTables Summary := do
  let _ ← savedGraph tenant graphId
  let _ ← Route.transact (Workflows.cancelGraph tenant graphId)
  summary tenant graphId

/-- An entry of `results`. -/
def entryOf (result : GraphResult platform) : String × Json × Json :=
  (result.1, result.2.1.payload, result.2.2)

/-- `result`. -/
def result : Route GraphTables Served := do
  let _ ← savedGraph tenant graphId
  let results ← Route.transact (Workflows.acceptedGraphResults platform tenant graphId)
  let summary ← summary tenant graphId
  pure ⟨summary, results.map (entryOf platform)⟩

/-- Whether a node is beyond the limits of its policy or of the service. -/
def exceeds (policy : WorkflowPolicy) (limits : InputLimits) (node : CreateGraphNodeRequest) :
    Bool :=
  decide (limits.promptChars < node.prompt.length) ||
    decide (min policy.budget.maxOutputTokens limits.generationTokens < node.maxTokens)

/-- The estimate of a creation: nothing without a policy. -/
def estimatedTokens (policy : Option WorkflowPolicy) : Int :=
  (policy.map fun policy => policy.budget.maxOutputTokens).getD 0

/-- The budget of a graph under a policy. -/
def budgetOf (policy : WorkflowPolicy) : GraphBudget where
  deadlineSeconds := .float (.finite policy.budget.deadlineSeconds)
  maxAttempts := policy.budget.maxAttempts
  maxOutputTokens := some policy.budget.maxOutputTokens

/-- `WorkflowGraph(tuple(graph_nodes))`, whose `ValueError` refuses the request. -/
def graphOf (nodes : List GraphNode) : Except ApiError WorkflowGraph :=
  match WorkflowGraph.new nodes 1 with
  | .ok graph => .ok graph
  | .error error =>
      if error.isValueError then .error (.control invalidGraph) else .error (.raised error)

/-- `create`.  The store reads the clock in UTC and makes `uuid4` if it needs a new
identifier. -/
def create (uuid5 : String → Inference.Text) (policy : Option WorkflowPolicy)
    (limits : InputLimits) (payload : CreateWorkflowGraphRequest) (clock : Datetime.Instant)
    (uuid4 : String) : Route GraphTables Summary :=
  match policy with
  | none => Route.refuse policyRequired
  | some policy =>
      if payload.nodes.any (exceeds policy limits) then Route.refuse limitExceeded
      else do
        let nodes ← Route.compute (payload.graphNodes tenant uuid5)
        let graph ← Script.lift (graphOf nodes)
        let binding ← Route.compute policy.binding
        let graphId ← Route.transact
          (Workflows.createGraph platform tenant payload.idempotencyKey graph
            (some (budgetOf policy)) (some binding) clock.utc uuid4)
        summary tenant graphId

end GraphRoutes
end Api
end Ryuk
