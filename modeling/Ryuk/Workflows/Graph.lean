import Mathlib.Data.String.Basic
import Ryuk.Foundation.Dependency
import Ryuk.Workflows.Contracts

/-!
# Workflow graphs

A graph of task packets with dependencies between them, and the states of its
nodes.  Both are built by a check: a `WorkflowGraph` is acyclic and in canonical
order, a `GraphState` has no node whose state its direct dependencies rule out.
`transition` moves one node and then, if that ended it, releases or skips the
nodes that waited for it.
-/

namespace Ryuk
namespace Workflows

open Foundation Foundation.Json Foundation.Text Foundation.Dependency

/-- `MAX_GRAPH_NODES`. -/
def maxGraphNodes : Nat := 100

/-! ### Node states -/

inductive NodeState where
  | blocked
  | ready
  | running
  | awaitingValidation
  | succeeded
  | failed
  | rejected
  | cancelled
  | uncertain
  | skipped
  deriving DecidableEq

def NodeState.value : NodeState → String
  | .blocked => "blocked"
  | .ready => "ready"
  | .running => "running"
  | .awaitingValidation => "awaiting_validation"
  | .succeeded => "succeeded"
  | .failed => "failed"
  | .rejected => "rejected"
  | .cancelled => "cancelled"
  | .uncertain => "uncertain"
  | .skipped => "skipped"

/-- `TERMINAL_NODE_STATES`. -/
def terminalNodeStates : List NodeState := [.succeeded, .failed, .rejected, .cancelled, .skipped]

/-- `UNSUCCESSFUL_NODE_STATES`. -/
def unsuccessfulNodeStates : List NodeState :=
  terminalNodeStates.filter fun state => decide (state ≠ .succeeded)

/-- `_ALLOWED_TRANSITIONS`. -/
def allowedTransitions : NodeState → List NodeState
  | .ready => [.running, .cancelled]
  | .running => [.awaitingValidation, .failed, .cancelled, .uncertain]
  | .awaitingValidation => [.succeeded, .rejected, .cancelled]
  | .uncertain => [.awaitingValidation, .failed, .cancelled]
  | .blocked | .succeeded | .failed | .rejected | .cancelled | .skipped => []

/-! ### Nodes -/

/-- `not value or value != value.strip()`, negated. -/
def isCanonicalId (value : String) : Bool := decide (value ≠ "") && decide (value = strip value)

/-- `tuple(sorted(values)) == values`. -/
def isSorted (values : List String) : Bool :=
  decide (values.mergeSort (fun left right => decide (left ≤ right)) = values)

/-- The checks of `GraphNode`. -/
def GraphNode.check (nodeId : String) (dependsOn : List String) : Except PyError Unit := do
  ensure (isCanonicalId nodeId)
    (.valueError "Graph node IDs must be nonempty without outer whitespace")
  ensure (dependsOn.all isCanonicalId)
    (.valueError "Graph dependencies must contain canonical node IDs")
  ensure (decide dependsOn.Nodup) (.valueError "Graph dependencies must be unique")
  ensure (isSorted dependsOn)
    (.valueError "Graph dependencies must use canonical sorted order")

structure GraphNode where
  nodeId : String
  packet : TaskPacket
  dependsOn : List String
  checked : GraphNode.check nodeId dependsOn = .ok ()

/-- `GraphNode(node_id, packet, depends_on)`. -/
def GraphNode.new (nodeId : String) (packet : TaskPacket) (dependsOn : List String) :
    Except PyError GraphNode :=
  match h : GraphNode.check nodeId dependsOn with
  | .ok () => .ok ⟨nodeId, packet, dependsOn, h⟩
  | .error error => .error error

def GraphNode.toDict (node : GraphNode) : Except PyError Json := do
  let packet ← node.packet.toDict
  pure (.obj
    [("node_id", .str node.nodeId), ("depends_on", .arr (node.dependsOn.map Json.str)),
      ("packet", packet)])

/-! ### Graphs -/

/-- The dependencies of a node id. -/
def dependenciesOf (nodes : List GraphNode) (nodeId : String) : List String :=
  match nodes.find? fun node => decide (node.nodeId = nodeId) with
  | some node => node.dependsOn
  | none => []

/-- `_require_acyclic`: peel the nodes, in at most as many rounds as there are
nodes. -/
def requireAcyclic (nodes : List GraphNode) : Except PyError Unit :=
  ensure (peel (dependenciesOf nodes) nodes.length (nodes.map GraphNode.nodeId))
    (.valueError "Workflow graph must be acyclic")

/-- The dependency checks, node by node. -/
def requireKnown (known : List String) : List GraphNode → Except PyError Unit
  | [] => pure ()
  | node :: rest => do
      ensure (decide (node.nodeId ∉ node.dependsOn))
        (.valueError "Workflow graph nodes cannot depend on themselves")
      ensure (node.dependsOn.all fun dependency => decide (dependency ∈ known))
        (.valueError "Workflow graph dependency does not exist")
      requireKnown known rest

/-- The checks of `WorkflowGraph`. -/
def WorkflowGraph.check (nodes : List GraphNode) (schemaVersion : Int) : Except PyError Unit := do
  ensure (decide (schemaVersion = 1)) (.valueError "Unsupported workflow graph version")
  ensure (decide (1 ≤ nodes.length) && decide (nodes.length ≤ maxGraphNodes))
    (.valueError "Workflow graphs require 1 to 100 nodes")
  ensure (decide (nodes.map GraphNode.nodeId).Nodup)
    (.valueError "Workflow graph node IDs must be unique")
  ensure (isSorted (nodes.map GraphNode.nodeId))
    (.valueError "Workflow graph nodes must use canonical sorted order")
  requireKnown (nodes.map GraphNode.nodeId) nodes
  requireAcyclic nodes

structure WorkflowGraph where
  nodes : List GraphNode
  schemaVersion : Int
  checked : WorkflowGraph.check nodes schemaVersion = .ok ()

/-- `WorkflowGraph(nodes, schema_version)`. -/
def WorkflowGraph.new (nodes : List GraphNode) (schemaVersion : Int) :
    Except PyError WorkflowGraph :=
  match h : WorkflowGraph.check nodes schemaVersion with
  | .ok () => .ok ⟨nodes, schemaVersion, h⟩
  | .error error => .error error

def WorkflowGraph.toDict (graph : WorkflowGraph) : Except PyError Json := do
  let nodes ← graph.nodes.mapM GraphNode.toDict
  pure (.obj [("schema_version", .int graph.schemaVersion), ("nodes", .arr nodes)])

/-- The check that an id or a dependency is a string. -/
def asId (message : String) : Json → Except PyError String
  | .str text => .ok text
  | _ => .error (.valueError message)

/-- One node of a decoded graph. -/
def GraphNode.decode (value : Json) : Except PyError GraphNode := do
  let nodeId ← subscript value "node_id"
  let dependsOn ← subscript value "depends_on"
  let dependsOn ← tupleOf dependsOn
  let packet ← subscript value "packet"
  let packet ← TaskPacket.fromDict packet
  let nodeId ← asId "Graph node IDs must be nonempty without outer whitespace" nodeId
  let dependsOn ← dependsOn.mapM
    (asId "Graph dependencies must contain canonical node IDs")
  GraphNode.new nodeId packet dependsOn

/-- The body of `from_dict`, before its exceptions are translated. -/
def WorkflowGraph.decode (value : Json) : Except PyError WorkflowGraph :=
  match value with
  | .obj fields => do
      ensure (keysAre fields ["schema_version", "nodes"])
        (.valueError "Invalid workflow graph fields")
      let nodes ← subscript value "nodes"
      let nodes ← tupleOf nodes
      let nodes ← nodes.mapM GraphNode.decode
      let schemaVersion ← subscript value "schema_version"
      match schemaVersion with
      | .int schemaVersion => do
          let graph ← WorkflowGraph.new nodes schemaVersion
          let dict ← graph.toDict
          let written ← canonicalJson dict
          let given ← canonicalJson value
          ensure (decide (written = given)) (.valueError "Noncanonical workflow graph")
          pure graph
      | _ => throw (.valueError "Unsupported workflow graph version")
  -- `set(value)` of anything else is not the set of the two field names, or the
  -- subscripts after it raise
  | _ => throw .typeError

/-- `WorkflowGraph.from_dict(value)`. -/
def WorkflowGraph.fromDict (value : Json) : Except PyError WorkflowGraph :=
  match WorkflowGraph.decode value with
  | .ok graph => .ok graph
  | .error .overflowError => .error .overflowError
  | .error _ => .error (.valueError "Invalid workflow graph")

/-! ### States of the nodes -/

/-- A dictionary of node states. -/
abbrev States := String → Option NodeState

/-- `dict(node_states)`. -/
def statesOf (nodeStates : List (String × NodeState)) : States := fun nodeId =>
  (nodeStates.find? fun pair => decide (pair.1 = nodeId)).map Prod.snd

/-- `states[node_id]`. -/
def States.get (states : States) (nodeId : String) : Except PyError NodeState :=
  match states nodeId with
  | some state => .ok state
  | none => .error .keyError

/-- `tuple(states[value] for value in depends_on)`. -/
def dependencyStates (states : States) : List String → Except PyError (List NodeState)
  | [] => pure []
  | dependency :: rest => do
      let state ← states.get dependency
      let others ← dependencyStates states rest
      pure (state :: others)

/-- Whether a node was scheduled: its dependencies must have succeeded. -/
def NodeState.isScheduled : NodeState → Bool
  | .ready | .running | .awaitingValidation | .succeeded | .failed | .rejected | .cancelled
  | .uncertain => true
  | .blocked | .skipped => false

/-- The checks of one node against its direct dependencies. -/
def checkNode (states : States) (node : GraphNode) : Except PyError Unit := do
  let state ← states.get node.nodeId
  let dependencies ← dependencyStates states node.dependsOn
  ensure (!(decide (state = .blocked) && (dependencies.isEmpty ||
      dependencies.all (fun value => decide (value = .succeeded)) ||
      dependencies.any (fun value => decide (value ∈ unsuccessfulNodeStates)))))
    (.valueError "Blocked graph node conflicts with dependencies")
  ensure (!(state.isScheduled && dependencies.any (fun value => decide (value ≠ .succeeded))))
    (.valueError "Scheduled graph node has incomplete dependencies")
  ensure (!(decide (state = .skipped) &&
      !dependencies.any (fun value => decide (value ∈ unsuccessfulNodeStates))))
    (.valueError "Skipped graph node requires a failed dependency")

/-- The node checks, node by node. -/
def checkNodes (states : States) : List GraphNode → Except PyError Unit
  | [] => pure ()
  | node :: rest => do
      checkNode states node
      checkNodes states rest

/-- The checks of `GraphState`. -/
def GraphState.check (graph : WorkflowGraph) (nodeStates : List (String × NodeState)) :
    Except PyError Unit := do
  ensure (decide (nodeStates.map Prod.fst = graph.nodes.map GraphNode.nodeId))
    (.valueError "Graph state must cover every node in canonical order")
  checkNodes (statesOf nodeStates) graph.nodes

structure GraphState where
  graph : WorkflowGraph
  nodeStates : List (String × NodeState)
  checked : GraphState.check graph nodeStates = .ok ()

/-- `GraphState(graph, node_states)`. -/
def GraphState.new (graph : WorkflowGraph) (nodeStates : List (String × NodeState)) :
    Except PyError GraphState :=
  match h : GraphState.check graph nodeStates with
  | .ok () => .ok ⟨graph, nodeStates, h⟩
  | .error error => .error error

/-- `graph.initial_state()`. -/
def WorkflowGraph.initialState (graph : WorkflowGraph) : Except PyError GraphState :=
  GraphState.new graph (graph.nodes.map fun node =>
    (node.nodeId, if node.dependsOn.isEmpty then .ready else .blocked))

/-- `state.state_of(node_id)`. -/
def GraphState.stateOf (state : GraphState) (nodeId : String) : Except PyError NodeState :=
  match statesOf state.nodeStates nodeId with
  | some found => .ok found
  | none => .error (.valueError "Unknown workflow graph node")

/-- `state.terminal`. -/
def GraphState.terminal (state : GraphState) : Bool :=
  state.nodeStates.all fun pair => decide (pair.2 ∈ terminalNodeStates)

/-! ### Transitions -/

/-- `states[node_id] = state`. -/
def States.set (states : States) (nodeId : String) (state : NodeState) : States :=
  Function.update states nodeId (some state)

/-- One pass of `_refresh_waiting_nodes` over the nodes, and whether it changed a
state. -/
def refreshPass (states : States) (changed : Bool) :
    List GraphNode → Except PyError (States × Bool)
  | [] => pure (states, changed)
  | node :: rest => do
      let state ← states.get node.nodeId
      if state ≠ .blocked then refreshPass states changed rest
      else do
        let dependencies ← dependencyStates states node.dependsOn
        if dependencies.any fun value => decide (value ∈ unsuccessfulNodeStates) then
          refreshPass (states.set node.nodeId .skipped) true rest
        else if dependencies.all fun value => decide (value = .succeeded) then
          refreshPass (states.set node.nodeId .ready) true rest
        else refreshPass states changed rest

/-- `_refresh_waiting_nodes`: pass over the nodes until nothing changes.  The fuel
bounds the number of passes. -/
def refreshWaitingNodes (nodes : List GraphNode) : Nat → States → Except PyError States
  | 0, states => pure states
  | fuel + 1, states => do
      let (states, changed) ← refreshPass states false nodes
      if changed then refreshWaitingNodes nodes fuel states else pure states

/-- `tuple((node.node_id, states[node.node_id]) for node in nodes)`. -/
def collectStates (states : States) : List GraphNode → Except PyError (List (String × NodeState))
  | [] => pure []
  | node :: rest => do
      let state ← states.get node.nodeId
      let others ← collectStates states rest
      pure ((node.nodeId, state) :: others)

/-- The states after a transition, before they are checked. -/
def GraphState.moved (state : GraphState) (nodeId : String) (target : NodeState) :
    Except PyError States :=
  let states := (statesOf state.nodeStates).set nodeId target
  if target ∈ terminalNodeStates then
    refreshWaitingNodes state.graph.nodes (state.graph.nodes.length + 1) states
  else pure states

/-- `state.transition(node_id, target)`. -/
def GraphState.transition (state : GraphState) (nodeId : String) (target : NodeState) :
    Except PyError GraphState := do
  let current ← state.stateOf nodeId
  ensure (decide (target ∈ allowedTransitions current))
    (.valueError s!"Illegal graph node transition: {current.value} -> {target.value}")
  let states ← state.moved nodeId target
  let nodeStates ← collectStates states state.graph.nodes
  GraphState.new state.graph nodeStates

end Workflows
end Ryuk
