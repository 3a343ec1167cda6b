import Ryuk.Workflows.DurableBudget
import Ryuk.Workflows.GraphProgress
import Ryuk.Workflows.Idempotency

/-!
# Idempotent creation of graphs

What `Idempotency` shows of tasks, for the rows of `workflow_graphs`: only
`create_graph` adds to the register they are, and a second creation under a key is
decided by the row of the first.
-/

namespace Ryuk
namespace Workflows

open Foundation Foundation.Json Foundation.Text Foundation.Datetime Foundation.Transaction
open Foundation.Registry Audit

/-! ### The register -/

/-- The request a row stands for. -/
def GraphRow.registration (row : GraphRow) : Registration (String × String) String String :=
  ⟨(row.tenant, row.idempotencyKey), row.id, row.requestHash⟩

/-- The requests the store has accepted. -/
def GraphTables.requests (tables : GraphTables) :
    List (Registration (String × String) String String) :=
  tables.graphs.rows.map GraphRow.registration

theorem graphRequested_iff {tenant key : String} (row : GraphRow) :
    (decide (row.tenant = tenant) && decide (row.idempotencyKey = key)) = true ↔
      row.registration.key = (tenant, key) := by
  rw [Bool.and_eq_true, decide_eq_true_eq, decide_eq_true_eq]
  exact Prod.mk_inj.symm

section Operations

variable {platform : Platform} {tables final : GraphTables} {tenant graphId nodeId : String}
  {now : DateTime}

/-- Statements on nodes and events leave the register alone. -/
theorem requests_blind : BlindTo tenant GraphTables.requests where
  setNodes _ _ _ _ _ _ := rfl
  log _ _ _ _ := rfl
  addNode tables row next _ hadd := by
    obtain ⟨nodes, -, rfl⟩ := Option.map_eq_some_iff.mp hadd
    rfl

theorem insertBudgetRow_requests {row : GraphBudgetRow} :
    Keeps GraphTables.requests (insertBudgetRow row) := by
  apply insertBudgetRow_keeps
  intro state next hadd
  obtain ⟨budgets, -, rfl⟩ := Option.map_eq_some_iff.mp hadd
  rfl

theorem bindGraphBudget_requests {budget : GraphBudget} :
    Keeps GraphTables.requests (bindGraphBudget tenant graphId budget now) := by
  unfold bindGraphBudget
  apply Keeps.bind Keeps.lift
  intro _
  apply Keeps.bind Keeps.lift
  intro deadline
  apply Keeps.bind getGraphState_keeps
  intro state
  apply Keeps.bind Keeps.require
  intro _
  apply Keeps.bind selectBudget_keeps
  intro existing
  cases existing with
  | none => exact Keeps.bind insertBudgetRow_requests fun _ => Keeps.pure
  | some row => exact Keeps.bind Keeps.require fun _ => Keeps.pure

theorem requireGraphLease_requests {owner : String} {fence : Int} :
    Keeps GraphTables.requests (requireGraphLease tenant graphId nodeId owner fence now) := by
  unfold requireGraphLease
  apply Keeps.bind Keeps.query
  intro row
  cases row with
  | none => exact Keeps.fail
  | some row =>
      apply Keeps.bind Keeps.require
      intro _
      exact Keeps.bind Keeps.lift fun _ => Keeps.require

theorem completeGraphNode_requests {owner uuid4 : String} {fence : Int}
    {result : List (String × Json)} {succeeded : Bool} :
    Keeps GraphTables.requests
      (completeGraphNode platform tenant graphId nodeId owner fence result succeeded now uuid4) := by
  unfold completeGraphNode
  apply Keeps.bind Keeps.lift
  intro encoded
  apply Keeps.bind requireGraphLease_requests
  intro _
  apply Keeps.bind
  · apply Keeps.attempt
    intro state next hadd
    obtain ⟨artifacts, -, rfl⟩ := Option.map_eq_some_iff.mp hadd
    rfl
  intro _
  apply Keeps.bind (transitionGraphNode_keeps requests_blind)
  intro _
  apply Keeps.bind
  · apply updateNodes_keeps requests_blind
    · intro row hrow
      exact (nodeOf_iff.mp hrow).1
    · intro row
      rfl
  · intro _
    exact Keeps.pure

theorem validateGraphNode_requests {policy : ValidationPolicy} :
    Keeps GraphTables.requests (validateGraphNode platform tenant graphId nodeId policy) := by
  unfold validateGraphNode
  apply Keeps.bind Keeps.lift
  intro snapshot
  apply Keeps.bind Keeps.query
  intro row
  cases row with
  | none => exact Keeps.fail
  | some pair =>
      obtain ⟨state, row⟩ := pair
      apply Keeps.bind Keeps.lift
      intro artifact
      dsimp only
      cases row.validationJson with
      | some text =>
          apply Keeps.bind Keeps.lift
          intro report
          apply Keeps.bind Keeps.lift
          intro recorded
          exact Keeps.bind Keeps.require fun _ => Keeps.pure
      | none =>
          apply Keeps.bind Keeps.require
          intro _
          apply Keeps.bind Keeps.lift
          intro report
          apply Keeps.bind Keeps.lift
          intro decision
          apply Keeps.bind Keeps.lift
          intro reportJson
          apply Keeps.bind
          · apply Keeps.write
            intro tables
            rfl
          intro _
          exact Keeps.bind (transitionGraphNode_keeps requests_blind) fun _ => Keeps.pure

/-- The calls of a handle write to the budgets. -/
theorem call_requests {handle : DurableGraphBudget} {call : BudgetCall} :
    Keeps GraphTables.requests (handle.call call) := by
  intro state granted next h
  rcases call_cases h with rfl | rfl | ⟨count, -, rfl⟩
  · rfl
  · rfl
  · rfl

theorem openBudget_keeps {τ : Type} {view : GraphTables → τ} :
    Keeps view (DurableGraphBudget.new tenant graphId) := by
  unfold DurableGraphBudget.new
  apply Keeps.bind selectBudget_keeps
  intro row
  exact Keeps.bind Keeps.require fun _ => Keeps.pure

end Operations

/-! ### Creation -/

/-- The checks of the initial state pass. -/
theorem WorkflowGraph.initialState_total (graph : WorkflowGraph) :
    ∃ initial, graph.initialState = .ok initial := by
  let nodeStates := graph.nodes.map fun node =>
    (node.nodeId, if node.dependsOn.isEmpty then NodeState.ready else .blocked)
  have hkeys : nodeStates.map Prod.fst = graph.nodes.map GraphNode.nodeId := by
    rw [List.map_map]
    rfl
  have hnodup : (nodeStates.map Prod.fst).Nodup := by
    rw [hkeys]
    exact graph.accepted.nodup
  have hown : ∀ node ∈ graph.nodes, statesOf nodeStates node.nodeId =
      some (if node.dependsOn.isEmpty then .ready else .blocked) :=
    fun node hnode => (statesOf_iff hnodup).mpr (List.mem_map_of_mem hnode)
  -- a node waits for its dependencies or has none, and nothing has failed yet
  have hpending : ∀ nodeId value, statesOf nodeStates nodeId = some value →
      value = .ready ∨ value = .blocked := by
    intro nodeId value hvalue
    obtain ⟨node, -, hsame⟩ := List.mem_map.mp ((statesOf_iff hnodup).mp hvalue)
    obtain ⟨-, rfl⟩ := Prod.mk.inj hsame
    split_ifs
    · exact Or.inl rfl
    · exact Or.inr rfl
  have hcheck : GraphState.check graph nodeStates = .ok () := by
    rw [GraphState.check, ensure_bind_ok, decide_eq_true_eq]
    refine ⟨hkeys, checkNodes_of_checked fun node hnode => ?_⟩
    have hknown : ∀ dependency ∈ node.dependsOn, ∃ value,
        statesOf nodeStates dependency = some value := by
      intro dependency hdependency
      obtain ⟨other, hother, rfl⟩ := List.mem_map.mp (graph.accepted.known node hnode dependency
        hdependency)
      exact ⟨_, hown other hother⟩
    refine ⟨_, hown node hnode, hknown, fun hblocked => ⟨?_, ?_⟩, fun hscheduled => ?_,
      fun hskipped => ?_⟩
    · cases hdepends : node.dependsOn with
      | nil =>
          rw [hdepends] at hblocked
          cases hblocked
      | cons dependency rest =>
          refine ⟨dependency, List.mem_cons_self, fun hsucceeded => ?_⟩
          rcases hpending dependency _ hsucceeded with h | h
          · cases h
          · cases h
    · intro dependency hdependency value hvalue hunsuccessful
      rcases hpending dependency value hvalue with rfl | rfl
      · exact absurd hunsuccessful (by decide)
      · exact absurd hunsuccessful (by decide)
    · intro dependency hdependency
      cases hdepends : node.dependsOn with
      | nil =>
          rw [hdepends] at hdependency
          cases hdependency
      | cons first rest =>
          rw [hdepends] at hscheduled
          cases hscheduled
    · split_ifs at hskipped
  exact ⟨⟨graph, nodeStates, hcheck⟩, GraphState.new_of_checked hcheck⟩

/-- What `create_graph` does with a request, the text its hash covers and the states its
nodes start in. -/
def registerGraph (platform : Platform) (tenant key : String)
    (request : String × Option String × Option String) (hashed : String)
    (nodeStates : List (String × NodeState)) (budget : Option GraphBudget) (now : DateTime)
    (uuid4 : String) : GraphTx String := do
  let existing ← query fun tables => tables.graphs.fetchone fun row =>
    decide (row.tenant = tenant) && decide (row.idempotencyKey = key)
  match existing with
  | some row => do
      require (decide (row.requestHash = platform.sha256 hashed))
        (.workflowConflict "Graph idempotency key conflicts with existing input")
      pure row.id
  | none => do
      attempt (GraphTables.addGraph
        ⟨uuid4, tenant, key, platform.sha256 hashed, request.1, request.2.2⟩) .integrityError
      insertNodes tenant uuid4 nodeStates
      insertBudget tenant uuid4 now budget
      pure uuid4

section Creation

variable {platform : Platform} {tables final : GraphTables} {tenant key uuid4 hashed id : String}
  {graph : WorkflowGraph} {budget : Option GraphBudget} {binding : Option (List (String × Json))}
  {now : DateTime} {request : String × Option String × Option String}
  {nodeStates : List (String × NodeState)}

theorem createGraph_eq (htenant : isCanonicalId tenant = true) (hkey : isCanonicalId key = true) :
    ∃ nodeStates, createGraph platform tenant key graph budget binding now uuid4 = (do
      let request ← lift (graphRequest graph budget binding)
      let hashed ← lift (graphText request)
      registerGraph platform tenant key request hashed nodeStates budget now uuid4) := by
  unfold createGraph
  rw [require_true_bind htenant, require_true_bind hkey]
  unfold graphRequest
  cases hdict : graph.toDict with
  | error error => exact ⟨[], rfl⟩
  | ok dict =>
      obtain ⟨encoded, validated, value, hencoded, hvalidated, hvalue, hwritten⟩ :=
        WorkflowGraph.rewritten hdict
      obtain ⟨initial, hinitial⟩ := validated.initialState_total
      refine ⟨initial.nodeStates, ?_⟩
      rw [lift_ok_bind, hvalidated, lift_ok_bind, hvalue, lift_ok_bind, hwritten, lift_ok_bind,
        except_ok_bind, hencoded, except_ok_bind, hinitial]
      show (lift (boundText binding) >>= fun bound =>
          lift (hashedGraph encoded value budget bound) >>= fun hashed =>
            registerGraph platform tenant key (encoded, none, bound) hashed initial.nodeStates budget
              now uuid4) = _
      cases hbound : boundText binding with
      | error error => rfl
      | ok bound =>
          rw [lift_ok_bind, except_ok_bind, hashedGraph_eq hwritten (boundText_object hbound)]
          cases budgetText budget with
          | error error => rfl
          | ok budgeted => rfl

/-- A creation that returns had canonical names and a request. -/
theorem createGraph_request (h : createGraph platform tenant key graph budget binding now uuid4
      tables = .ok (id, final)) :
    isCanonicalId tenant = true ∧ isCanonicalId key = true ∧
      ∃ request hashed nodeStates, graphRequest graph budget binding = .ok request ∧
        graphText request = .ok hashed ∧
        registerGraph platform tenant key request hashed nodeStates budget now uuid4 tables =
          .ok (id, final) := by
  have hnames := h
  unfold createGraph at hnames
  rw [require_bind_ok, require_bind_ok] at hnames
  obtain ⟨htenant, hkey, -⟩ := hnames
  obtain ⟨nodeStates, heq⟩ := @createGraph_eq platform tenant key uuid4 graph budget binding now
    htenant hkey
  rw [heq, lift_bind_ok] at h
  obtain ⟨request, hrequest, h⟩ := h
  rw [lift_bind_ok] at h
  obtain ⟨hashed, hhashed, h⟩ := h
  exact ⟨htenant, hkey, request, hashed, nodeStates, hrequest, hhashed, h⟩

theorem insertBudget_requests : Keeps GraphTables.requests (insertBudget tenant id now budget) := by
  cases budget with
  | none => exact Keeps.pure
  | some budget => exact Keeps.bind Keeps.lift fun _ => insertBudgetRow_requests

/-- A creation returns what is there, or adds the graph and, if it has one, its budget. -/
theorem registerGraph_cases (h : registerGraph platform tenant key request hashed nodeStates budget
      now uuid4 tables = .ok (id, final)) :
    (final = tables ∧ ⟨(tenant, key), id, platform.sha256 hashed⟩ ∈ tables.requests) ∨
    (id = uuid4 ∧ (tenant, key) ∉ tables.requests.map Registration.key ∧
      final.requests = tables.requests ++ [⟨(tenant, key), uuid4, platform.sha256 hashed⟩] ∧
      (budget.isSome = true → final.budgets.find uuid4 ≠ none)) := by
  unfold registerGraph at h
  rw [query_bind_ok] at h
  cases hfound : tables.graphs.fetchone (fun row =>
      decide (row.tenant = tenant) && decide (row.idempotencyKey = key)) with
  | some row =>
      simp only [hfound, require_bind_ok, pure_ok, decide_eq_true_eq] at h
      obtain ⟨hdigest, rfl, rfl⟩ := h
      have hmatch := List.find?_some hfound
      have hkey : row.registration.key = (tenant, key) := (graphRequested_iff row).mp hmatch
      rw [← hdigest, ← hkey]
      exact Or.inl ⟨rfl, List.mem_map_of_mem (List.mem_of_find?_eq_some hfound)⟩
  | none =>
      simp only [hfound, attempt_bind_ok] at h
      obtain ⟨added, hadd, h⟩ := h
      rw [bind_ok] at h
      obtain ⟨_, inserted, hinserted, h⟩ := h
      rw [bind_ok] at h
      obtain ⟨_, budgeted, hbudgeted, h⟩ := h
      rw [pure_ok] at h
      obtain ⟨rfl, rfl⟩ := h
      obtain ⟨graphs, hinsert, rfl⟩ := Option.map_eq_some_iff.mp hadd
      refine Or.inr ⟨rfl, fresh_of_find? graphRequested_iff hfound, ?_, fun hsome => ?_⟩
      · rw [insertBudget_requests _ _ _ hbudgeted,
          insertNodes_keeps requests_blind _ _ _ hinserted]
        show graphs.rows.map GraphRow.registration = _
        rw [Table.insert_rows hinsert, List.map_append, List.map_singleton]
        rfl
      · obtain ⟨budget, rfl⟩ := Option.isSome_iff_exists.mp hsome
        unfold insertBudget at hbudgeted
        simp only [lift_bind_ok, insertBudgetRow_ok] at hbudgeted
        obtain ⟨deadline, -, -, hrow⟩ := hbudgeted
        rw [Table.find_insert (addBudget_budgets hrow), if_pos rfl]
        exact Option.some_ne_none _

/-- **Registration.**  What a creation returned is what its key stands for. -/
theorem registerGraph_ok (h : registerGraph platform tenant key request hashed nodeStates budget now
      uuid4 tables = .ok (id, final)) :
    Extends tables.requests final.requests ∧
      ⟨(tenant, key), id, platform.sha256 hashed⟩ ∈ final.requests := by
  rcases registerGraph_cases h with ⟨rfl, hmem⟩ | ⟨rfl, hfresh, hrequests, -⟩
  · exact ⟨Or.inl rfl, hmem⟩
  · rw [hrequests]
    exact ⟨Or.inr ⟨_, hfresh, rfl⟩, List.mem_append_right _ (List.mem_singleton_self _)⟩

/-- **Replay.**  A key that stands for a request answers by its digest, and nothing
changes. -/
theorem registerGraph_replay {digest : String}
    (hnodup : (tables.requests.map Registration.key).Nodup)
    (hentry : ⟨(tenant, key), id, digest⟩ ∈ tables.requests) :
    registerGraph platform tenant key request hashed nodeStates budget now uuid4 tables =
      if digest = platform.sha256 hashed then .ok (id, tables)
      else .error (.workflowConflict "Graph idempotency key conflicts with existing input") := by
  obtain ⟨row, hfound, hrow⟩ := find?_registered graphRequested_iff hnodup hentry rfl
  have hid : row.id = id := congrArg Registration.identity hrow
  have hdigest : row.requestHash = digest := congrArg Registration.digest hrow
  have hquery : (query fun tables => tables.graphs.fetchone fun row =>
      decide (row.tenant = tenant) && decide (row.idempotencyKey = key) : GraphTx _) tables =
      .ok (some row, tables) := by
    exact congrArg (fun found => Except.ok (found, tables)) hfound
  unfold registerGraph
  rw [bind_of_ok hquery]
  show (require (decide (row.requestHash = platform.sha256 hashed)) _ >>= fun _ => pure row.id)
    tables = _
  rw [hdigest, hid]
  by_cases hsame : digest = platform.sha256 hashed
  · rw [if_pos hsame, require_true_bind (decide_eq_true hsame)]
    rfl
  · rw [if_neg hsame, decide_eq_false hsame]
    rfl

/-- **Second creation.**  Whatever is called for under a registered key, the first
request decides, and nothing changes. -/
theorem createGraph_replay {graph' : WorkflowGraph} {budget' : Option GraphBudget}
    {binding' : Option (List (String × Json))}
    (htenant : isCanonicalId tenant = true) (hkey : isCanonicalId key = true)
    (hrequest : graphRequest graph budget binding = .ok request)
    (hhashed : graphText request = .ok hashed)
    (hapart : Apart platform (graphRequest graph budget binding >>= graphText)
      (graphRequest graph' budget' binding' >>= graphText))
    (hnodup : (tables.requests.map Registration.key).Nodup)
    (hentry : ⟨(tenant, key), id, platform.sha256 hashed⟩ ∈ tables.requests) :
    commit (createGraph platform tenant key graph' budget' binding' now uuid4) tables =
      (replayAnswer request (graphRequest graph' budget' binding') id
        (.workflowConflict "Graph idempotency key conflicts with existing input"), tables) := by
  obtain ⟨nodeStates, heq⟩ := @createGraph_eq platform tenant key uuid4 graph' budget' binding' now
    htenant hkey
  rw [heq]
  cases hrequest' : graphRequest graph' budget' binding' with
  | error error => rfl
  | ok request' =>
      obtain ⟨hashed', hhashed'⟩ := graphText_total hrequest'
      rw [lift_ok_bind, hhashed', lift_ok_bind]
      unfold commit
      rw [registerGraph_replay hnodup hentry]
      rw [hrequest, hrequest', except_ok_bind, except_ok_bind] at hapart
      have hsame : platform.sha256 hashed = platform.sha256 hashed' ↔ request' = request :=
        hapart.digest_iff (fun text h h' => graphText_injective hrequest' hrequest h' h) hhashed hhashed'
      by_cases hequal : request' = request
      · rw [if_pos (hsame.mpr hequal), replayAnswer, except_ok_bind, if_pos hequal]
        rfl
      · rw [if_neg fun hdigest => hequal (hsame.mp hdigest), replayAnswer, except_ok_bind,
          if_neg hequal]
        rfl

end Creation

/-! ### Runs -/

/-- A call of `create_graph`, with its clock and its fresh id. -/
abbrev graphCreation (tenant key : String) (graph : WorkflowGraph) (budget : Option GraphBudget)
    (binding : Option (List (String × Json))) (now : DateTime) (uuid4 : String) : BudgetInput :=
  .operation (.call (.createGraph tenant key graph budget binding now uuid4))

/-- Only a creation of a graph adds to the register. -/
theorem body_requests {platform : Platform} {input : BudgetInput}
    (hother : ∀ tenant key graph budget binding now uuid4,
      input ≠ graphCreation tenant key graph budget binding now uuid4) :
    Keeps GraphTables.requests (input.body platform) := by
  cases input with
  | openBudget tenant graphId => exact openBudget_keeps.map
  | call handle call => exact call_requests.map
  | reopen => exact Keeps.pure
  | operation operation =>
      cases operation with
      | transitionGraphNode tenant graphId nodeId target =>
          exact (transitionGraphNode_keeps requests_blind).map.map
      | call call =>
          cases call with
          | createGraph tenant key graph budget binding now uuid4 =>
              exact (hother tenant key graph budget binding now uuid4 rfl).elim
          | bindGraphBudget tenant graphId budget now => exact bindGraphBudget_requests.map.map
          | claimGraphNode tenant graphId nodeId owner leaseSeconds now =>
              exact (claimGraphNode_keeps requests_blind).map.map
          | completeGraphNode tenant graphId nodeId owner fence result succeeded now uuid4 =>
              exact completeGraphNode_requests.map.map
          | validateGraphNode tenant graphId nodeId policy =>
              exact validateGraphNode_requests.map.map
          | cancelGraph tenant graphId => exact (cancelGraph_keeps requests_blind).map.map
          | recoverGraphNodesStartup limit now =>
              exact (recoverGraphNodesStartup_keeps fun _ => requests_blind).map.map

/-- The store with all its operations and the budgets is a register. -/
theorem budgetStore_registers (platform : Platform) :
    Registers (budgetStore platform) GraphTables.requests := by
  intro tables input
  by_cases hcreation : ∃ tenant key graph budget binding now uuid4,
      input = graphCreation tenant key graph budget binding now uuid4
  · obtain ⟨tenant, key, graph, budget, binding, now, uuid4, rfl⟩ := hcreation
    let body := (graphCreation tenant key graph budget binding now uuid4).body platform
    refine @commit_preserves _ _ _ body
      (fun final => Extends tables.requests final.requests) tables (Or.inl rfl)
      fun answer final h => ?_
    obtain ⟨inner, h, -⟩ := map_ok.mp h
    obtain ⟨id, hcreate, -⟩ := map_ok.mp h
    obtain ⟨-, -, request, hashed, nodeStates, -, -, hregister⟩ := createGraph_request hcreate
    exact (registerGraph_ok hregister).1
  · refine Or.inl ((body_requests ?_).commit tables)
    intro tenant key graph budget binding now uuid4 hsame
    exact hcreation ⟨tenant, key, graph, budget, binding, now, uuid4, hsame⟩

theorem empty_graphRequests : (GraphTables.empty.requests.map Registration.key).Nodup :=
  List.nodup_nil

/-- The answer of `create_graph` with an id. -/
abbrev graphCreated (id : String) : BudgetAnswer := .operation (.graphId id)

/-- **Idempotent creation.**  In every run, with all operations between in any order. -/
structure CreationIdempotent (platform : Platform) : Prop where
  /-- After a creation of a task that returned, a second one under its key is decided by
  the requests of the two, and changes nothing. -/
  task : ∀ before between tenant key packet binding uuid4 id packet' binding' uuid4',
    (store platform).answer ((store platform).after Tables.empty before)
      (.create tenant key packet binding uuid4) = .ok (.workflowId id) →
    Apart platform (taskRequest packet binding >>= taskText)
      (taskRequest packet' binding' >>= taskText) →
    ∃ request, taskRequest packet binding = .ok request ∧
      ∀ later, later = (store platform).after Tables.empty
        (before ++ .create tenant key packet binding uuid4 :: between) →
      (store platform).step later (.create tenant key packet' binding' uuid4') =
        ((replayAnswer request (taskRequest packet' binding') id
          (.workflowConflict "Idempotency key conflicts with existing input")).map
            .workflowId, later)
  /-- The same for graphs. -/
  graph : ∀ before between tenant key graph budget binding now uuid4 id graph' budget' binding'
      now' uuid4',
    (budgetStore platform).answer ((budgetStore platform).after GraphTables.empty before)
      (graphCreation tenant key graph budget binding now uuid4) = .ok (graphCreated id) →
    Apart platform (graphRequest graph budget binding >>= graphText)
      (graphRequest graph' budget' binding' >>= graphText) →
    ∃ request, graphRequest graph budget binding = .ok request ∧
      ∀ later, later = (budgetStore platform).after GraphTables.empty
        (before ++ graphCreation tenant key graph budget binding now uuid4 :: between) →
      (budgetStore platform).step later
          (graphCreation tenant key graph' budget' binding' now' uuid4') =
        ((replayAnswer request (graphRequest graph' budget' binding') id
          (.workflowConflict "Graph idempotency key conflicts with existing input")).map
            graphCreated, later)
  /-- Requests whose hashes cover one text are equal, and so have a binding both or neither. -/
  taskShape : ∀ packet binding request packet' binding' request',
    taskRequest packet binding = .ok request → taskRequest packet' binding' = .ok request' →
    taskText request = taskText request' →
    request = request' ∧ binding.isSome = binding'.isSome
  graphShape : ∀ graph budget binding request graph' budget' binding' request',
    graphRequest graph budget binding = .ok request →
    graphRequest graph' budget' binding' = .ok request' →
    graphText request = graphText request' →
    request = request' ∧ budget.isSome = budget'.isSome ∧ binding.isSome = binding'.isSome
  /-- At any two times of a run a key of a tenant stands for one workflow. -/
  taskUnique : ∀ before between, ∀ row ∈ ((store platform).after Tables.empty before).workflows.rows,
    ∀ row' ∈ ((store platform).after Tables.empty (before ++ between)).workflows.rows,
      row.tenant = row'.tenant → row.idempotencyKey = row'.idempotencyKey → row.id = row'.id
  graphUnique : ∀ before between,
    ∀ row ∈ ((budgetStore platform).after GraphTables.empty before).graphs.rows,
    ∀ row' ∈ ((budgetStore platform).after GraphTables.empty (before ++ between)).graphs.rows,
      row.tenant = row'.tenant → row.idempotencyKey = row'.idempotencyKey → row.id = row'.id

section Runs

variable {platform : Platform}

/-- What was registered before the rest of a run is registered after it. -/
theorem kept_after {σ α ο : Type} {machine : Machine σ α ο}
    {registered : σ → List (Registration (String × String) String String)}
    (h : Registers machine registered) {start : σ} {before between : List α} {input : α}
    {entry : Registration (String × String) String String}
    (hentry : entry ∈ registered (machine.next (machine.after start before) input)) :
    entry ∈ registered (machine.after start (before ++ input :: between)) := by
  rw [Machine.after_append, Machine.after_cons]
  exact h.kept between hentry

theorem second_task {before between : List Call} {tenant key uuid4 id uuid4' : String}
    {packet packet' : TaskPacket} {binding binding' : Option (List (String × Json))}
    (h : (store platform).answer ((store platform).after Tables.empty before)
      (.create tenant key packet binding uuid4) = .ok (.workflowId id))
    (hapart : Apart platform (taskRequest packet binding >>= taskText)
      (taskRequest packet' binding' >>= taskText)) :
    ∃ request, taskRequest packet binding = .ok request ∧
      ∀ later, later = (store platform).after Tables.empty
        (before ++ .create tenant key packet binding uuid4 :: between) →
      (store platform).step later (.create tenant key packet' binding' uuid4') =
        ((replayAnswer request (taskRequest packet' binding') id
          (.workflowConflict "Idempotency key conflicts with existing input")).map
            .workflowId, later) := by
  obtain ⟨found, hcreate, hid⟩ := map_ok.mp (commit_of_answer h)
  obtain rfl : found = id := Answer.workflowId.inj hid
  obtain ⟨htenant, hkey, request, hashed, hrequest, hhashed, hregister⟩ := create_request hcreate
  refine ⟨request, hrequest, fun later hlater => ?_⟩
  have hentry : ⟨(tenant, key), found, platform.sha256 hashed⟩ ∈ later.requests := by
    rw [hlater]
    exact kept_after (store_registers platform) (register_ok hregister).2
  have hnodup : (later.requests.map Registration.key).Nodup := by
    rw [hlater]
    exact (store_registers platform).nodup _ empty_requests
  show commit (Answer.workflowId <$> create platform tenant key packet' binding' uuid4') later = _
  rw [commit_map, create_replay htenant hkey hrequest hhashed hapart hnodup hentry]

theorem second_graph {before between : List BudgetInput} {tenant key uuid4 id uuid4' : String}
    {graph graph' : WorkflowGraph} {budget budget' : Option GraphBudget}
    {binding binding' : Option (List (String × Json))} {now now' : DateTime}
    (h : (budgetStore platform).answer ((budgetStore platform).after GraphTables.empty before)
      (graphCreation tenant key graph budget binding now uuid4) = .ok (graphCreated id))
    (hapart : Apart platform (graphRequest graph budget binding >>= graphText)
      (graphRequest graph' budget' binding' >>= graphText)) :
    ∃ request, graphRequest graph budget binding = .ok request ∧
      ∀ later, later = (budgetStore platform).after GraphTables.empty
        (before ++ graphCreation tenant key graph budget binding now uuid4 :: between) →
      (budgetStore platform).step later
          (graphCreation tenant key graph' budget' binding' now' uuid4') =
        ((replayAnswer request (graphRequest graph' budget' binding') id
          (.workflowConflict "Graph idempotency key conflicts with existing input")).map
            graphCreated, later) := by
  obtain ⟨answer, hcall, hanswer⟩ := map_ok.mp (commit_of_answer h)
  obtain ⟨found, hcreate, hid⟩ := map_ok.mp hcall
  obtain rfl : found = id := by
    rw [← hid] at hanswer
    exact GraphAnswer.graphId.inj (BudgetAnswer.operation.inj hanswer)
  obtain ⟨htenant, hkey, request, hashed, nodeStates, hrequest, hhashed, hregister⟩ :=
    createGraph_request hcreate
  refine ⟨request, hrequest, fun later hlater => ?_⟩
  have hentry : ⟨(tenant, key), found, platform.sha256 hashed⟩ ∈ later.requests := by
    rw [hlater]
    exact kept_after (budgetStore_registers platform) (registerGraph_ok hregister).2
  have hnodup : (later.requests.map Registration.key).Nodup := by
    rw [hlater]
    exact (budgetStore_registers platform).nodup _ empty_graphRequests
  show commit (BudgetAnswer.operation <$> (GraphAnswer.graphId <$>
    createGraph platform tenant key graph' budget' binding' now' uuid4')) later = _
  rw [commit_map, commit_map, createGraph_replay htenant hkey hrequest hhashed hapart hnodup hentry]
  cases replayAnswer request (graphRequest graph' budget' binding') found _ with
  | error error => rfl
  | ok found => rfl

end Runs

/-- **Creation is idempotent.** -/
theorem creation_idempotent : ∀ platform : Platform, CreationIdempotent platform := by
  intro platform
  refine ⟨?_, ?_, ?_, ?_, ?_, ?_⟩
  · intro before between tenant key packet binding uuid4 id packet' binding' uuid4' h hapart
    exact second_task h hapart
  · intro before between tenant key graph budget binding now uuid4 id graph' budget' binding' now'
      uuid4' h hapart
    exact second_graph h hapart
  · intro packet binding request packet' binding' request' h h' htext
    obtain ⟨text, hhashed⟩ := taskText_total h
    have hsame := taskText_injective h h' hhashed (htext ▸ hhashed)
    refine ⟨hsame, ?_⟩
    rw [← taskRequest_isSome h, ← taskRequest_isSome h', hsame]
  · intro graph budget binding request graph' budget' binding' request' h h' htext
    obtain ⟨text, hhashed⟩ := graphText_total h
    have hsame := graphText_injective h h' hhashed (htext ▸ hhashed)
    obtain ⟨hbudget, hbinding⟩ := graphRequest_isSome h
    obtain ⟨hbudget', hbinding'⟩ := graphRequest_isSome h'
    refine ⟨hsame, ?_, ?_⟩
    · rw [← hbudget, ← hbudget', hsame]
    · rw [← hbinding, ← hbinding', hsame]
  · intro before between row hrow row' hrow' htenant hkey
    rw [Machine.after_append] at hrow'
    have hsame := (store_registers platform).unique
      ((store_registers platform).nodup before empty_requests) (List.mem_map_of_mem hrow)
      (List.mem_map_of_mem hrow') (Prod.ext htenant hkey)
    exact congrArg Registration.identity hsame
  · intro before between row hrow row' hrow' htenant hkey
    rw [Machine.after_append] at hrow'
    have hsame := (budgetStore_registers platform).unique
      ((budgetStore_registers platform).nodup before empty_graphRequests) (List.mem_map_of_mem hrow)
      (List.mem_map_of_mem hrow') (Prod.ext htenant hkey)
    exact congrArg Registration.identity hsame

/-! ### A budget that is not valid -/

/-- The canonical JSON of a graph, its budget and its binding, valid or not. -/
def canonicalGraph (graph : WorkflowGraph) (budget : Option GraphBudget)
    (binding : Option (List (String × Json))) :
    Except PyError (String × Option String × Option String) := do
  let dict ← graph.toDict
  let encoded ← canonicalJson dict
  let bound ← boundText binding
  let budgeted ← (match budget with
    | none => pure none
    | some budget => (canonicalJson budget.toDict).map some)
  pure (encoded, budgeted, bound)

/-- Every second creation of a graph whose canonical JSON differs from that of the first
is a conflict. -/
def DifferingConflicts (platform : Platform) : Prop :=
  ∀ before tenant key graph budget binding now uuid4 id graph' budget' binding' now' uuid4' texts
    texts', Function.Injective platform.sha256 →
    (budgetStore platform).answer ((budgetStore platform).after GraphTables.empty before)
      (graphCreation tenant key graph budget binding now uuid4) = .ok (graphCreated id) →
    canonicalGraph graph budget binding = .ok texts →
    canonicalGraph graph' budget' binding' = .ok texts' → texts ≠ texts' →
    (budgetStore platform).answer ((budgetStore platform).after GraphTables.empty
        (before ++ [graphCreation tenant key graph budget binding now uuid4]))
      (graphCreation tenant key graph' budget' binding' now' uuid4') =
        .error (.workflowConflict "Graph idempotency key conflicts with existing input")

/-- A budget without an attempt. -/
def GraphBudget.spent : GraphBudget := ⟨.int 1, 0, none⟩

theorem GraphBudget.spent_invalid :
    validateGraphBudget GraphBudget.spent = .error (.valueError "Invalid graph budget") := by
  decide +kernel

/-- A second creation with a budget that is not valid is refused as such. -/
theorem invalid_budget_no_conflict : ¬ ∀ platform, DifferingConflicts platform := by
  intro h
  let platform : Platform := ⟨id, id, fun _ => true⟩
  obtain ⟨packet, hpacket⟩ : ∃ packet : TaskPacket, packet.Storable :=
    ⟨TaskPacket.short, TaskPacket.short_storable⟩
  obtain ⟨now⟩ : Nonempty DateTime := ⟨⟨⟨0, by decide⟩, none⟩⟩
  have hpackets : ∀ node ∈ (WorkflowGraph.pair packet packet).nodes, node.packet.Storable := by
    intro node hnode
    rcases List.mem_cons.mp hnode with rfl | hnode
    · exact hpacket
    · obtain rfl := List.mem_singleton.mp hnode
      exact hpacket
  obtain ⟨row, final, hcreate, -⟩ := @createGraph_fresh platform GraphTables.empty "t"
    (WorkflowGraph.pair packet packet) "k" "g" _ now graphsSound_empty (by decide) (by decide)
    hpackets (pair_initial packet packet) (fun _ hrow => (List.not_mem_nil hrow).elim) rfl
  have hfirst : (budgetStore platform).answer ((budgetStore platform).after GraphTables.empty [])
      (graphCreation "t" "k" (WorkflowGraph.pair packet packet) none none now "g") =
        .ok (graphCreated "g") := by
    have hbody : (graphCreation "t" "k" (WorkflowGraph.pair packet packet) none none now "g").body
        platform GraphTables.empty = .ok (graphCreated "g", final) :=
      map_ok.mpr ⟨_, map_ok.mpr ⟨_, hcreate, rfl⟩, rfl⟩
    exact Machine.answer_of_step (commit_of_ok hbody)
  -- the dictionary of the graph has a text, and so has the budget
  obtain ⟨dict, hdict, hprintable⟩ := WorkflowGraph.toDict_total hpackets
  obtain ⟨encoded, hencoded⟩ := canonicalJson_printable hprintable
  obtain ⟨budgeted, hbudgeted⟩ := canonicalJson_printable
    (show printable GraphBudget.spent.toDict = true by rfl)
  have htexts : canonicalGraph (WorkflowGraph.pair packet packet) none none =
      .ok (encoded, none, none) := by
    unfold canonicalGraph
    rw [hdict, except_ok_bind, hencoded]
    rfl
  have htexts' : canonicalGraph (WorkflowGraph.pair packet packet) (some .spent) none =
      .ok (encoded, some budgeted, none) := by
    unfold canonicalGraph
    rw [hdict, except_ok_bind, hencoded]
    show ((canonicalJson GraphBudget.spent.toDict).map some >>= fun budgeted =>
      pure (encoded, budgeted, none)) = _
    rw [hbudgeted]
    rfl
  have hconflict := h platform [] "t" "k" _ none none now "g" "g" (WorkflowGraph.pair packet packet)
    (some .spent) none now "g" _ _ Function.injective_id hfirst htexts htexts' (by simp)
  -- but the budget is checked first
  have hinvalid : graphRequest (WorkflowGraph.pair packet packet) (some .spent) none =
      .error (.valueError "Invalid graph budget") := by
    unfold graphRequest
    have hbudget : budgetText (some .spent) = .error (.valueError "Invalid graph budget") := by
      rw [budgetText, GraphBudget.spent_invalid, except_error_bind]
    rw [hdict, except_ok_bind, hencoded, except_ok_bind, hbudget]
    rfl
  obtain ⟨request, -, hsecond⟩ := @second_graph platform [] [] "t" "k" "g" "g" "g" _
    (WorkflowGraph.pair packet packet) none (some .spent) none none now now hfirst
    fun _ _ _ _ hsame => hsame
  rw [Machine.answer_of_step (hsecond _ rfl), hinvalid] at hconflict
  cases hconflict

end Workflows
end Ryuk
