import Ryuk.Api.GraphAnswers
import Ryuk.Api.GraphRequests
import Ryuk.Workflows.GraphRegistration

/-!
# Creations of graphs

A creation that passes the checks of the route is one registration.  Its answer shows the graph
the request describes, and the request can be repeated in any order of its nodes.
-/

namespace Ryuk
namespace Api
namespace GraphRoutes

open Foundation Foundation.Json Foundation.Transaction Foundation.Script Foundation.Registry
open Workflows (GraphBudget GraphNode GraphRow GraphState GraphTables GraphsEvolve NodeState
  RegistrationFails WorkflowGraph WorkflowPolicy)
open WorkflowRoutes (InputLimits policyRequired)

variable {platform : Platform} {tables later final : GraphTables} {tenant uuid4 : String}
  {uuid5 : String → Inference.Text} {policy : WorkflowPolicy} {limits : InputLimits}
  {payload other : CreateWorkflowGraphRequest} {clock : Datetime.Instant}

/-- A request whose nodes are within the limits of its policy and of the service. -/
def Fits (policy : WorkflowPolicy) (limits : InputLimits) (payload : CreateWorkflowGraphRequest) :
    Prop :=
  ∀ node ∈ payload.nodes, node.prompt.length ≤ limits.promptChars ∧
    node.maxTokens ≤ min policy.budget.maxOutputTokens limits.generationTokens

theorem exceeds_iff : payload.nodes.any (exceeds policy limits) = true ↔
    ¬ Fits policy limits payload := by
  unfold Fits exceeds
  simp only [List.any_eq_true, Bool.or_eq_true, decide_eq_true_eq, not_forall, not_and_or, not_le,
    exists_prop]

/-! ### What is registered -/

/-- What the route prepares of a request that describes a graph: the graph, the texts of the
request, the text its hash covers, and the binding that is shown of it. -/
structure Prepares (tenant : String) (uuid5 : String → Inference.Text) (policy : WorkflowPolicy)
    (payload : CreateWorkflowGraphRequest) (graph : WorkflowGraph)
    (request : String × Option String × Option String) (hashed : String) (shown : Json) : Prop where
  built : payload.graphNodes tenant uuid5 = .ok graph.nodes
  requested : ∃ binding, policy.binding = .ok binding ∧
    Workflows.graphRequest graph (some (budgetOf policy)) (some binding) = .ok request
  covered : Workflows.graphText request = .ok hashed
  stored : ∃ value, Workflows.loadsJson request.1 = .ok value ∧
    WorkflowGraph.fromDict value = .ok graph
  bound : ∃ text, request.2.2 = some text ∧ loads text = some shown

/-- The budget of a policy is valid and has a text. -/
theorem budgetText_policy (policy : WorkflowPolicy) :
    ∃ text, Workflows.budgetText (some (budgetOf policy)) = .ok (some text) := by
  have hvalid : Workflows.validateGraphBudget (budgetOf policy) = .ok () := by
    have hpositive : (budgetOf policy).deadlineSeconds.toRat?.all (fun seconds =>
        decide (0 < seconds)) = true := decide_eq_true policy.budget.deadline.1
    have hlimits : (true && decide (1 ≤ (budgetOf policy).maxAttempts) &&
        (budgetOf policy).maxOutputTokens.all fun tokens => decide (1 ≤ tokens)) = true := by
      rw [Bool.true_and, Bool.and_eq_true]
      exact ⟨decide_eq_true policy.budget.attempts.1, decide_eq_true policy.budget.outputTokens.1⟩
    unfold Workflows.validateGraphBudget
    rw [hpositive]
    exact ensure_ok.mpr hlimits
  have hprintable : printable (budgetOf policy).toDict = true := by
    have hattempts : printable (.int policy.budget.maxAttempts) = true :=
      WorkflowRoutes.printable_small (by have := policy.budget.attempts.1; omega)
        (by have := policy.budget.attempts.2; omega)
    have htokens : printable (.int policy.budget.maxOutputTokens) = true :=
      WorkflowRoutes.printable_small (by have := policy.budget.outputTokens.1; omega)
        (by have := policy.budget.outputTokens.2; omega)
    rw [printable] at hattempts htokens
    unfold GraphBudget.toDict budgetOf
    simp only [printable, printableFields, Workflows.numberJson, Workflows.optionalInt, hattempts,
      htokens, Bool.and_self]
  obtain ⟨text, htext⟩ := Workflows.canonicalJson_printable hprintable
  refine ⟨text, ?_⟩
  show (Workflows.validateGraphBudget (budgetOf policy) >>= fun _ =>
    (Workflows.canonicalJson (budgetOf policy).toDict).map some) = _
  rw [hvalid, except_ok_bind, htext]
  rfl

/-- The limits of a policy are far below those of a column. -/
theorem limitsFit_policy (policy : WorkflowPolicy) :
    Workflows.limitsFit (budgetOf policy).maxAttempts (budgetOf policy).maxOutputTokens = true := by
  have hsmall : ∀ value : Int, 1 ≤ value → value ≤ 32768 → Workflows.inSqlite value = true := by
    intro value hlow hhigh
    apply decide_eq_true
    unfold Workflows.sqliteLimit
    omega
  have hattempts := policy.budget.attempts
  have htokens := policy.budget.outputTokens
  have hmany : policy.budget.maxAttempts ≤ 32768 := by omega
  exact Bool.and_eq_true_iff.mpr ⟨hsmall _ hattempts.1 hmany, hsmall _ htokens.1 htokens.2⟩

/-- The name of a key that passed its validator. -/
theorem key_canonical (payload : CreateWorkflowGraphRequest) :
    Workflows.isCanonicalId payload.idempotencyKey = true := payload.keyText.2

/-- A request beyond its limits is refused before the store is called. -/
theorem create_limited (hlimits : ¬ Fits policy limits payload) (clock : Datetime.Instant)
    (uuid4 : String) : create platform tenant uuid5 (some policy) limits payload clock uuid4 =
      Route.refuse limitExceeded := by
  unfold create
  dsimp only
  rw [if_pos (exceeds_iff.mpr hlimits)]

/-- A request that describes no graph is refused before the store is called. -/
theorem create_invalid (hfits : Fits policy limits payload) (hinvalid : ¬ payload.Valid)
    (clock : Datetime.Instant) (uuid4 : String) :
    create platform tenant uuid5 (some policy) limits payload clock uuid4 =
      Route.refuse invalidGraph := by
  obtain ⟨nodes, hnodes⟩ := graphNodes_total tenant uuid5 payload
  rcases graphOf_cases hnodes with ⟨hvalid, -⟩ | ⟨-, hrefused⟩
  · exact absurd hvalid hinvalid
  · unfold create
    dsimp only
    rw [if_neg (fun hexceeds => exceeds_iff.mp hexceeds hfits), hnodes]
    show (Script.lift (graphOf nodes) >>= _) = _
    rw [hrefused]
    rfl

/-- A creation that passes the checks of the route is one call of the store. -/
theorem create_calls (platform : Platform) (tenant : String) (uuid5 : String → Inference.Text)
    (hfits : Fits policy limits payload) (hvalid : payload.Valid) :
    ∃ graph binding bound, payload.graphNodes tenant uuid5 = .ok graph.nodes ∧
      (∀ node ∈ graph.nodes, node.packet.Storable) ∧ policy.binding = .ok binding ∧
      Workflows.canonicalJson (.obj binding) = .ok bound ∧ ∀ clock uuid4,
        create platform tenant uuid5 (some policy) limits payload clock uuid4 =
          (Route.transact (Workflows.createGraph platform tenant payload.idempotencyKey graph
            (some (budgetOf policy)) (some binding) clock.utc uuid4) >>= summary tenant) := by
  obtain ⟨nodes, hnodes⟩ := graphNodes_total tenant uuid5 payload
  rcases graphOf_cases hnodes with ⟨-, graph, hgraph, rfl, hpackets⟩ | ⟨hinvalid, -⟩
  · obtain ⟨snapshot, -, hbinding, hprintable⟩ := WorkflowRoutes.binding_total policy
    obtain ⟨bound, hbound⟩ := Workflows.canonicalJson_printable hprintable
    refine ⟨graph, _, bound, hnodes, hpackets, hbinding, hbound, ?_⟩
    intro clock uuid4
    unfold create
    dsimp only
    rw [if_neg (fun hexceeds => exceeds_iff.mp hexceeds hfits), hnodes]
    show (Script.lift (graphOf graph.nodes) >>= _) = _
    rw [hgraph]
    show (Route.compute policy.binding >>= _) = _
    rw [hbinding]
    rfl
  · exact absurd hvalid hinvalid

/-- The call of a tenant with a proper name is one registration. -/
theorem create_registers (platform : Platform) (htenant : Workflows.isCanonicalId tenant = true)
    (hfits : Fits policy limits payload) (hvalid : payload.Valid) :
    ∃ graph request hashed shown nodeStates,
      Prepares tenant uuid5 policy payload graph request hashed shown ∧
      (nodeStates.map Prod.fst).Nodup ∧ ∀ clock uuid4,
        (∀ before id next, Workflows.registerGraph platform tenant payload.idempotencyKey request
            hashed nodeStates (some (budgetOf policy)) clock.utc uuid4 before = .ok (id, next) →
          GraphsEvolve platform before next) ∧
        create platform tenant uuid5 (some policy) limits payload clock uuid4 =
          (Route.transact (Workflows.registerGraph platform tenant payload.idempotencyKey request
            hashed nodeStates (some (budgetOf policy)) clock.utc uuid4) >>= summary tenant) := by
  obtain ⟨graph, binding, bound, hnodes, hpackets, hbinding, hbound, hcall⟩ :=
    create_calls platform tenant uuid5 hfits hvalid
  obtain ⟨budgeted, hbudgeted⟩ := budgetText_policy policy
  have hboundText : Workflows.boundText (some binding) = .ok (some bound) := by
    show (Workflows.canonicalJson _).map some = _
    rw [hbound]
    rfl
  obtain ⟨encoded, hashed, initial, hrequest, hhashed, -, hstored, hcreate⟩ :=
    @Workflows.createGraph_registers platform tenant payload.idempotencyKey graph
      (some (budgetOf policy)) _ _ _ htenant (key_canonical payload) hpackets hbudgeted hboundText
  refine ⟨graph, _, hashed, _, initial.nodeStates, ⟨hnodes, ⟨_, hbinding, hrequest⟩, hhashed,
    hstored, bound, rfl, loads_dumps (Workflows.canonicalJson_ok hbound)⟩, initial.nodup, ?_⟩
  intro clock uuid4
  refine ⟨?_, by rw [hcall, hcreate]⟩
  intro before id next hregister
  apply @Workflows.graphCall_evolves platform before next (.createGraph tenant
    payload.idempotencyKey graph (some (budgetOf policy)) (some _) clock.utc uuid4) (.graphId id)
  apply map_ok.mpr
  exact ⟨id, by rw [hcreate]; exact hregister, rfl⟩

/-! ### What is answered -/

/-- A graph of the store was created from other texts than those of a request, and both have one
digest. -/
def Clashes (platform : Platform) (tables : GraphTables) (graphId : String)
    (request : String × Option String × Option String) (hashed : String) : Prop :=
  ∃ row text, tables.graphs.find graphId = some row ∧
    ¬ (row.graphJson = request.1 ∧ row.bindingJson = request.2.2) ∧ text ≠ hashed ∧
    row.requestHash = platform.sha256 text ∧ row.requestHash = platform.sha256 hashed

/-- A graph of the store is the one that was prepared, with its binding. -/
def Made (tables : GraphTables) (tenant graphId : String) (graph : WorkflowGraph) (shown : Json) :
    Prop :=
  (∃ state, tables.Holds tenant graphId state ∧ state.graph = graph) ∧
    tables.Shows tenant graphId shown

/-- A row with the texts of a request stores what was prepared. -/
theorem made_of_row {graph : WorkflowGraph} {request : String × Option String × Option String}
    {hashed graphId : String} {shown : Json} {row : GraphRow} (h : tables.Stored platform)
    (hprepares : Prepares tenant uuid5 policy payload graph request hashed shown)
    (hrow : (tables.graphView tenant graphId).row = some row) (hgraph : row.graphJson = request.1)
    (hbinding : row.bindingJson = request.2.2) : Made tables tenant graphId graph shown := by
  obtain ⟨text, htext, hloads⟩ := hprepares.bound
  obtain ⟨state, hstored, hlisted, -⟩ := (h.graphs.valid tenant graphId).stored row hrow
  have hprepared : row.Stores graph := by
    show ∃ value, Workflows.loadsJson row.graphJson = .ok value ∧ _
    rw [hgraph]
    exact hprepares.stored
  exact ⟨⟨state, ⟨⟨row, hrow, hstored⟩, hlisted⟩, hstored.unique hprepared⟩, row, text, hrow,
    by rw [hbinding, htext], hloads⟩

/-- The rows of the register are what the views show. -/
theorem graphView_of_mem {row : GraphRow} (hrow : row ∈ tables.graphs.rows) :
    (tables.graphView row.tenant row.id).row = some row := by
  show tables.graphRow row.tenant row.id = some row
  rw [Workflows.graphRow_eq, Table.find_of_mem hrow]
  simp

/-- What a key stands for is what was prepared under its digest, unless the requests clash. -/
theorem made_of_registered {graph : WorkflowGraph}
    {request : String × Option String × Option String} {hashed graphId key : String} {shown : Json}
    (h : tables.Stored platform)
    (hprepares : Prepares tenant uuid5 policy payload graph request hashed shown)
    (hregistered : tables.Registered tenant key graphId (platform.sha256 hashed)) :
    Made tables tenant graphId graph shown ∨ Clashes platform tables graphId request hashed := by
  obtain ⟨row, hmem, hentry⟩ := List.mem_map.mp hregistered
  obtain ⟨graph', budget', binding', request', hashed', hrequest', hhashed', hgraph, hbinding,
    hdigest⟩ := h.digested row hmem
  have hsame : platform.sha256 hashed' = platform.sha256 hashed :=
    hdigest.symm.trans (congrArg Registration.digest hentry)
  have htenant : row.tenant = tenant :=
    congrArg (fun entry : Registration (String × String) String String => entry.key.1) hentry
  have hid : row.id = graphId := congrArg Registration.identity hentry
  by_cases hstored : row.graphJson = request.1 ∧ row.bindingJson = request.2.2
  · have hrow := graphView_of_mem hmem
    rw [htenant, hid] at hrow
    exact Or.inl (made_of_row h hprepares hrow hstored.1 hstored.2)
  · -- a row with other texts was hashed from another text
    refine Or.inr ⟨row, hashed', hid ▸ Table.find_of_mem hmem, hstored, ?_, hdigest,
      hdigest.trans hsame⟩
    rintro rfl
    obtain ⟨binding, -, hrequest⟩ := hprepares.requested
    obtain rfl := Workflows.graphText_injective hrequest' hrequest hhashed' hprepares.covered
    exact hstored ⟨hgraph, hbinding⟩

/-- Two requests clashed in a store between two others. -/
def ClashedIn (platform : Platform) (first last : GraphTables) (graphId : String)
    (request : String × Option String × Option String) (hashed : String) : Prop :=
  ∃ seen, GraphsEvolve platform first seen ∧ GraphsEvolve platform seen last ∧
    Clashes platform seen graphId request hashed

/-- How a creation is answered that is one registration. -/
inductive Answered (platform : Platform) (tenant key : String)
    (request : String × Option String × Option String) (hashed uuid4 : String)
    (policy : WorkflowPolicy) (clock : Datetime.Instant) (graph : WorkflowGraph) (shown : Json)
    (before final : GraphTables) : Except ApiError Summary → Prop
  | conflict {id digest : String} (hregistered : before.Registered tenant key id digest)
      (hdigest : digest ≠ platform.sha256 hashed) (hsame : final = before) :
      Answered platform tenant key request hashed uuid4 policy clock graph shown before final
        (.error (.raised (.workflowConflict
          "Graph idempotency key conflicts with existing input")))
  | failed {error : PyError} (hfresh : before.Fresh tenant key)
      (hfails : RegistrationFails before uuid4 (budgetOf policy) clock.utc error)
      (hsame : final = before) :
      Answered platform tenant key request hashed uuid4 policy clock graph shown before final
        (.error (.raised error))
  | shown {id : String} {state : GraphState} (hevolves : GraphsEvolve platform before final)
      (hregistered : final.Registered tenant key id (platform.sha256 hashed))
      (hholds : final.Holds tenant id state)
      (hmade : Made final tenant id graph shown ∨
        ClashedIn platform before final id request hashed) :
      Answered platform tenant key request hashed uuid4 policy clock graph shown before final
        (.ok (summaryOf id state))

/-- A graph that was made stays the one that was prepared. -/
theorem Made.evolves {graph : WorkflowGraph} {shown : Json} {graphId : String}
    (h : tables.Stored platform) (hmade : Made tables tenant graphId graph shown)
    (hlater : GraphsEvolve platform tables later) : Made later tenant graphId graph shown := by
  obtain ⟨⟨state, hholds, hgraph⟩, hshows⟩ := hmade
  obtain ⟨state', hholds', hgraph'⟩ := hholds.evolves h hlater
  exact ⟨⟨state', hholds', hgraph'.trans hgraph⟩, hshows.evolves h hlater⟩

/-- A creation that passes the checks of the route is answered by its registration. -/
theorem create_runs {outcome : Except ApiError Summary} (h : tables.Stored platform)
    (htenant : Workflows.isCanonicalId tenant = true) (hfits : Fits policy limits payload)
    (hvalid : payload.Valid)
    (hruns : (create platform tenant uuid5 (some policy) limits payload clock uuid4).Runs
      (GraphsEvolve platform) tables outcome final) :
    ∃ graph request hashed shown before,
      Prepares tenant uuid5 policy payload graph request hashed shown ∧
      GraphsEvolve platform tables before ∧
      Answered platform tenant payload.idempotencyKey request hashed uuid4 policy clock graph shown
        before final outcome := by
  obtain ⟨graph, request, hashed, shown, nodeStates, hprepares, hnodup, hregisters⟩ :=
    create_registers platform htenant hfits hvalid
  obtain ⟨hcall, hroute⟩ := hregisters clock uuid4
  rw [hroute] at hruns
  obtain ⟨before, hbefore, hcase⟩ := runs_transact_bind.mp hruns
  refine ⟨graph, request, hashed, shown, before, hprepares, hbefore, ?_⟩
  have hstored := h.evolves hbefore
  -- whatever is registered is what the summary shows
  have hshown : ∀ {id next}, GraphsEvolve platform before next →
      next.Registered tenant payload.idempotencyKey id (platform.sha256 hashed) →
      (Made next tenant id graph shown ∨ Clashes platform next id request hashed) →
      (summary tenant id).Runs (GraphsEvolve platform) next outcome final →
      Answered platform tenant payload.idempotencyKey request hashed uuid4 policy clock graph shown
        before final outcome := by
    intro id next hnext hregistered hmade hsummary
    have hnextStored := hstored.evolves hnext
    obtain ⟨state, hholds⟩ : ∃ state, next.Holds tenant id state := by
      obtain ⟨row, hmem, hentry⟩ := List.mem_map.mp hregistered
      have hrow := graphView_of_mem hmem
      have hname : row.tenant = tenant := congrArg
        (fun entry : Registration (String × String) String String => entry.key.1) hentry
      rw [hname, show row.id = id from congrArg Registration.identity hentry] at hrow
      obtain ⟨state, hstate, hlisted, -⟩ := (hnextStored.graphs.valid tenant id).stored row hrow
      exact ⟨state, ⟨row, hrow, hstate⟩, hlisted⟩
    obtain ⟨state', hlast, hholds', rfl⟩ := summary_runs hnextStored hholds hsummary
    exact .shown (hnext.trans hlast) (hregistered.evolves hlast) hholds'
      (hmade.imp (fun hmade => hmade.evolves hnextStored hlast)
        fun hclashes => ⟨next, hnext, hlast, hclashes⟩)
  by_cases hfresh : before.Fresh tenant payload.idempotencyKey
  · rcases @Workflows.registerGraph_fresh platform before tenant payload.idempotencyKey uuid4 hashed
        clock.utc (budgetOf policy) request nodeStates (limitsFit_policy policy) hstored hfresh
        hnodup with
      ⟨next, hregister⟩ | ⟨error, hfails, hregister⟩
    · rw [hregister] at hcase
      obtain ⟨id, next', hbody, hsummary⟩ | ⟨error, hbody, -⟩ := hcase
      · cases hbody
        have hnext := hcall before uuid4 next hregister
        have hregistered := (Workflows.registerGraph_ok hregister).2
        refine hshown hnext hregistered (Or.inl ?_) hsummary
        rcases Workflows.registerGraph_adds hregister with rfl | ⟨-, hinsert⟩
        · exact absurd (List.mem_map_of_mem hregistered) hfresh
        · have hmem := (Table.mem_insert hinsert).mpr (Or.inr rfl)
          exact made_of_row (hstored.evolves hnext) hprepares (graphView_of_mem hmem) rfl rfl
      · cases hbody
    · rw [hregister] at hcase
      obtain ⟨id, next', hbody, -⟩ | ⟨found, hbody, rfl, hfinal⟩ := hcase
      · cases hbody
      · cases hbody
        exact .failed hfresh hfails hfinal
  · obtain ⟨entry, hentry, hsame⟩ := List.mem_map.mp (not_not.mp hfresh)
    have hregistered : before.Registered tenant payload.idempotencyKey entry.identity
        entry.digest := by
      unfold GraphTables.Registered
      rw [← hsame]
      exact hentry
    rw [Workflows.registerGraph_replay hstored.keys hregistered] at hcase
    by_cases hdigest : entry.digest = platform.sha256 hashed
    · rw [if_pos hdigest] at hcase
      rw [hdigest] at hregistered
      obtain ⟨id, next, hbody, hsummary⟩ | ⟨error, hbody, -⟩ := hcase
      · cases hbody
        exact hshown (Machine.Reachable.refl before) hregistered
          (made_of_registered hstored hprepares hregistered) hsummary
      · cases hbody
    · rw [if_neg hdigest] at hcase
      obtain ⟨id, next, hbody, -⟩ | ⟨error, hbody, rfl, hfinal⟩ := hcase
      · cases hbody
      · cases hbody
        exact .conflict hregistered hdigest hfinal

/-- A creation that is answered came with a policy it fits, of a tenant with a proper name, and
describes a graph. -/
theorem create_answered {policy : Option WorkflowPolicy} {answer : Summary}
    (hruns : (create platform tenant uuid5 policy limits payload clock uuid4).Runs
      (GraphsEvolve platform) tables (.ok answer) final) :
    ∃ rules, policy = some rules ∧ Fits rules limits payload ∧ payload.Valid ∧
      Workflows.isCanonicalId tenant = true := by
  cases policy with
  | none =>
      obtain ⟨hfailed, -⟩ := hruns
      cases hfailed
  | some rules =>
      by_cases hfits : Fits rules limits payload
      · by_cases hvalid : payload.Valid
        · refine ⟨rules, rfl, hfits, hvalid, ?_⟩
          obtain ⟨graph, binding, _, -, -, -, -, hcall⟩ :=
            create_calls platform tenant uuid5 hfits hvalid
          rw [hcall] at hruns
          obtain ⟨before, -, ⟨id, next, hcreated, -⟩ | ⟨_, -, hfailed, -⟩⟩ :=
            runs_transact_bind.mp hruns
          · exact (Workflows.createGraph_request hcreated).1
          · cases hfailed
        · rw [create_invalid hfits hvalid] at hruns
          obtain ⟨hfailed, -⟩ := hruns
          cases hfailed
      · rw [create_limited hfits] at hruns
        obtain ⟨hfailed, -⟩ := hruns
        cases hfailed

/-- What a creation that is answered leaves. -/
theorem create_made {answer : Summary} (h : tables.Stored platform)
    (hruns : (create platform tenant uuid5 (some policy) limits payload clock uuid4).Runs
      (GraphsEvolve platform) tables (.ok answer) final) :
    ∃ graph request hashed shown state,
      Prepares tenant uuid5 policy payload graph request hashed shown ∧
      GraphsEvolve platform tables final ∧
      final.Registered tenant payload.idempotencyKey answer.graphId (platform.sha256 hashed) ∧
      final.Holds tenant answer.graphId state ∧ answer = summaryOf answer.graphId state ∧
      (Made final tenant answer.graphId graph shown ∨
        ClashedIn platform tables final answer.graphId request hashed) := by
  obtain ⟨rules, hrules, hfits, hvalid, htenant⟩ := create_answered hruns
  obtain rfl := Option.some.inj hrules
  obtain ⟨graph, request, hashed, shown, before, hprepares, hbefore, hanswered⟩ :=
    create_runs h htenant hfits hvalid hruns
  generalize hresult : (Except.ok answer : Except ApiError Summary) = outcome at hanswered
  cases hanswered with
  | conflict hregistered hdigest hsame => cases hresult
  | failed hfresh hfails hsame => cases hresult
  | @shown id state hevolves hregistered hholds hmade =>
      obtain rfl := Except.ok.inj hresult
      refine ⟨graph, request, hashed, shown, state, hprepares, hbefore.trans hevolves, hregistered,
        hholds, rfl, hmade.imp_right ?_⟩
      rintro ⟨seen, hseen, hlast, hclashes⟩
      exact ⟨seen, hbefore.trans hseen, hlast, hclashes⟩

/-- What the digest of a request covers. -/
def Covers (tenant : String) (uuid5 : String → Inference.Text) (policy : WorkflowPolicy)
    (payload : CreateWorkflowGraphRequest) (hashed : String) : Prop :=
  ∃ graph request shown, Prepares tenant uuid5 policy payload graph request hashed shown

/-- The digests of two requests agree though they cover different texts. -/
def DigestsCollide (platform : Platform) (tenant : String) (uuid5 : String → Inference.Text)
    (policy : WorkflowPolicy) (payload other : CreateWorkflowGraphRequest) : Prop :=
  ∃ hashed hashed', Covers tenant uuid5 policy payload hashed ∧
    Covers tenant uuid5 policy other hashed' ∧ hashed' ≠ hashed ∧
    platform.sha256 hashed' = platform.sha256 hashed

/-- The ids of the nodes of a graph stay. -/
theorem nodeIds_kept {graphId : String} {state state' : GraphState} (h : tables.Stored platform)
    (hholds : tables.Holds tenant graphId state) (hlater : GraphsEvolve platform tables later)
    (hholds' : later.Holds tenant graphId state') :
    state'.nodeStates.map Prod.fst = state.nodeStates.map Prod.fst := by
  obtain ⟨kept, hkept, hgraph⟩ := hholds.evolves h hlater
  obtain rfl := hkept.unique hholds'
  rw [GraphState.keys, GraphState.keys, hgraph]

/-- The conflict of a key that stands for another request. -/
def keyTaken : ApiError :=
  .raised (.workflowConflict "Graph idempotency key conflicts with existing input")

/-- **Creations are idempotent.**  After a creation was answered, whatever happens in between, a
creation that is answered names the same graph exactly when it is of the same tenant under the
same key, and then shows the same nodes.  And of the requests of the tenant under that key and
policy, with the limits of the day, exactly those are answered that describe the same nodes, in
any order of the nodes and of their dependencies; every other graph is a conflict, unless the
digests of the two requests collide. -/
def CreationsAreIdempotent (platform : Platform) : Prop :=
  ∀ tables, GraphsEvolve platform GraphTables.empty tables →
    ∀ tenant uuid5 rules limits payload clock uuid4 answer final,
      (create platform tenant uuid5 (some rules) limits payload clock uuid4).Runs
        (GraphsEvolve platform) tables (.ok answer) final →
      ∀ later, GraphsEvolve platform final later →
        (∀ other uuid5' rules' limits' payload' clock' uuid4' answer' last,
          (create platform other uuid5' (some rules') limits' payload' clock' uuid4').Runs
            (GraphsEvolve platform) later (.ok answer') last →
          (answer'.graphId = answer.graphId ↔
            other = tenant ∧ payload'.idempotencyKey = payload.idempotencyKey) ∧
          (answer'.graphId = answer.graphId →
            answer'.nodes.map Prod.fst = answer.nodes.map Prod.fst)) ∧
        ∀ limits' payload' clock' uuid4' outcome last, Fits rules limits' payload' →
          payload'.Valid → payload'.idempotencyKey = payload.idempotencyKey →
          (create platform tenant uuid5 (some rules) limits' payload' clock' uuid4').Runs
            (GraphsEvolve platform) later outcome last →
          (payload.Same payload' →
            ∃ answer', outcome = .ok answer' ∧ answer'.graphId = answer.graphId) ∧
          (¬ payload.Same payload' → outcome = .error keyTaken ∨
            DigestsCollide platform tenant uuid5 rules payload payload')

/-- A graph is its nodes. -/
theorem graph_eq_of_nodes {graph other : WorkflowGraph} (h : other.nodes = graph.nodes) :
    other = graph := by
  have hversion : ∀ found : WorkflowGraph, found.schemaVersion = 1 := fun found =>
    (Workflows.check_iff.mp found.checked).1
  have hsame := (hversion other).trans (hversion graph).symm
  cases graph
  cases other
  cases h
  cases hsame
  rfl

/-- What was prepared of two requests is the same exactly when they are. -/
theorem prepares_iff {graph graph' : WorkflowGraph}
    {request request' : String × Option String × Option String} {hashed hashed' : String}
    {shown shown' : Json} (hvalid : payload.Valid)
    (hkey : other.idempotencyKey = payload.idempotencyKey)
    (h : Prepares tenant uuid5 policy payload graph request hashed shown)
    (h' : Prepares tenant uuid5 policy other graph' request' hashed' shown') :
    hashed' = hashed ↔ payload.Same other := by
  rw [← graphNodes_iff hvalid.distinct hkey h.built]
  obtain ⟨binding, hbinding, hrequest⟩ := h.requested
  obtain ⟨binding', hbinding', hrequest'⟩ := h'.requested
  obtain rfl := Except.ok.inj (hbinding.symm.trans hbinding')
  constructor
  · rintro rfl
    obtain rfl := Workflows.graphText_injective hrequest hrequest' h.covered h'.covered
    obtain ⟨value, hvalue, hgraph⟩ := h.stored
    obtain ⟨value', hvalue', hgraph'⟩ := h'.stored
    obtain rfl := Except.ok.inj (hvalue.symm.trans hvalue')
    obtain rfl := Except.ok.inj (hgraph.symm.trans hgraph')
    exact h'.built
  · intro hbuilt
    obtain rfl := graph_eq_of_nodes (Except.ok.inj (h'.built.symm.trans hbuilt))
    obtain rfl := Except.ok.inj (hrequest.symm.trans hrequest')
    exact Except.ok.inj (h'.covered.symm.trans h.covered)

theorem graph_creations_are_idempotent (platform : Platform) : CreationsAreIdempotent platform := by
  intro tables hreachable tenant uuid5 rules limits payload clock uuid4 answer final hfirst later
    hlater
  have hstored := Workflows.graphReachable_stored hreachable
  obtain ⟨graph, request, hashed, shown, state, hprepares, hfinal, hregistered, hholds, hanswer, -⟩ :=
    create_made hstored hfirst
  have hfinalStored := hstored.evolves hfinal
  have hlaterStored := hfinalStored.evolves hlater
  have hthere := hregistered.evolves hlater
  constructor
  · intro other uuid5' rules' limits' payload' clock' uuid4' answer' last hsecond
    obtain ⟨-, -, hashed', -, state', -, hlast, hregistered', hholds', hanswer', -⟩ :=
      create_made hlaterStored hsecond
    have hkept := hthere.evolves hlast
    refine ⟨⟨fun hsame => ?_, ?_⟩, fun hsame => ?_⟩
    · rw [hsame] at hregistered'
      exact hkept.unique hregistered'
    · rintro ⟨rfl, hkey⟩
      rw [hkey] at hregistered'
      have hentry := eq_of_key (hlaterStored.evolves hlast).keys hregistered' hkept rfl
      exact congrArg Registration.identity hentry
    · rw [hsame] at hregistered' hholds'
      obtain ⟨rfl, -⟩ := hkept.unique hregistered'
      rw [hanswer, hanswer']
      exact nodeIds_kept hfinalStored hholds (hlater.trans hlast) hholds'
  · intro limits' payload' clock' uuid4' outcome last hfits hvalid hkey hsecond
    obtain ⟨_, -, -, hfirstValid, htenant⟩ := create_answered hfirst
    obtain ⟨graph', request', hashed', shown', before, hprepares', hbefore, hanswered⟩ :=
      create_runs hlaterStored htenant hfits hvalid hsecond
    have hsame := prepares_iff hfirstValid hkey hprepares hprepares'
    have hkept := hthere.evolves hbefore
    have hkeys := (hlaterStored.evolves hbefore).keys
    rw [hkey] at hanswered
    cases hanswered with
    | @conflict id digest hother hdigest hlast =>
        have hentry : digest = platform.sha256 hashed :=
          congrArg Registration.digest (eq_of_key hkeys hother hkept rfl)
        refine ⟨fun hdescribes => ?_, fun _ => Or.inl rfl⟩
        rw [hentry, hsame.mpr hdescribes] at hdigest
        exact absurd rfl hdigest
    | failed hfresh hfails hlast => exact absurd (List.mem_map_of_mem hkept) hfresh
    | @shown id state' hevolves hnamed hholds' hmade =>
        have hentry := eq_of_key ((hlaterStored.evolves hbefore).evolves hevolves).keys hnamed
          (hkept.evolves hevolves) rfl
        have hid : id = answer.graphId := congrArg Registration.identity hentry
        refine ⟨fun _ => ⟨_, rfl, hid⟩, fun hother => Or.inr ⟨hashed, hashed',
          ⟨_, _, _, hprepares⟩, ⟨_, _, _, hprepares'⟩, ?_, ?_⟩⟩
        · exact fun htext => hother (hsame.mp htext)
        · exact congrArg Registration.digest hentry

/-! ### Judgments -/

/-- The graph an answer names is the one the request describes: it has the nodes that were built,
each with its dependencies and its text, the answer shows their ids in canonical order, and so
does every later status. -/
structure DescribedBy (platform : Platform) (tables : GraphTables) (tenant : String)
    (payload : CreateWorkflowGraphRequest) (answer : Summary) : Prop where
  stored : ∃ state, tables.Holds tenant answer.graphId state ∧ answer = summaryOf answer.graphId state ∧
    List.Forall₂ Builds payload.sortedNodes state.graph.nodes
  ids : answer.nodes.map Prod.fst = payload.sortedNodes.map CreateGraphNodeRequest.nodeId
  found : ∀ later outcome last, GraphsEvolve platform tables later →
    (status tenant answer.graphId).Runs (GraphsEvolve platform) later outcome last →
      ∃ shown, outcome = .ok shown ∧ shown.graphId = answer.graphId ∧
        shown.nodes.map Prod.fst = answer.nodes.map Prod.fst

/-- The key of a request stands for another one: under it a graph is registered with a digest
that is not the one of the text the request is hashed to. -/
def TakenByAnother (platform : Platform) (tables : GraphTables) (tenant : String)
    (uuid5 : String → Inference.Text) (policy : WorkflowPolicy) (payload : CreateWorkflowGraphRequest) :
    Prop :=
  ∃ graph request hashed shown id digest,
    Prepares tenant uuid5 policy payload graph request hashed shown ∧
    tables.Registered tenant payload.idempotencyKey id digest ∧ digest ≠ platform.sha256 hashed

/-- **Creations are judged by what they describe.**  A creation is refused for its policy, its
limits or its graph, in this order, and these refusals leave the store alone; every other one of
a tenant with a proper name is answered with the graph it describes, unless its key stands for
another request, or is fresh and a new identifier is taken or has no deadline in the calendar
(neither of which changes the store), or the graph under its key was created from another request
with the same digest. -/
def CreationsAreJudged (platform : Platform) : Prop :=
  ∀ tables, GraphsEvolve platform GraphTables.empty tables →
    ∀ tenant uuid5 policy limits payload clock uuid4 outcome final,
      (create platform tenant uuid5 policy limits payload clock uuid4).Runs
        (GraphsEvolve platform) tables outcome final →
      (policy = none ∧ outcome = .error (.control policyRequired) ∧ final = tables) ∨
      ∃ rules, policy = some rules ∧
        ((¬ Fits rules limits payload ∧ outcome = .error (.control limitExceeded) ∧
            final = tables) ∨
          (Fits rules limits payload ∧ ¬ payload.Valid ∧ outcome = .error (.control invalidGraph) ∧
            final = tables) ∨
          (Fits rules limits payload ∧ payload.Valid ∧
            (Workflows.isCanonicalId tenant = true →
              (GraphsEvolve platform tables final ∧
                TakenByAnother platform final tenant uuid5 rules payload ∧
                outcome = .error keyTaken) ∨
              (∃ error, GraphsEvolve platform tables final ∧
                final.Fresh tenant payload.idempotencyKey ∧
                RegistrationFails final uuid4 (budgetOf rules) clock.utc error ∧
                outcome = .error (.raised error)) ∨
              ∃ answer, outcome = .ok answer ∧
                (DescribedBy platform final tenant payload answer ∨
                  ∃ graph request hashed shown,
                    Prepares tenant uuid5 rules payload graph request hashed shown ∧
                    ClashedIn platform tables final answer.graphId request hashed))))

theorem creations_are_judged (platform : Platform) : CreationsAreJudged platform := by
  intro tables hreachable tenant uuid5 policy limits payload clock uuid4 outcome final hruns
  have hstored := Workflows.graphReachable_stored hreachable
  cases policy with
  | none =>
      obtain ⟨rfl, rfl⟩ := hruns
      exact Or.inl ⟨rfl, rfl, rfl⟩
  | some rules =>
      refine Or.inr ⟨rules, rfl, ?_⟩
      by_cases hfits : Fits rules limits payload
      · by_cases hvalid : payload.Valid
        · refine Or.inr (Or.inr ⟨hfits, hvalid, fun htenant => ?_⟩)
          obtain ⟨graph, request, hashed, shown, before, hprepares, hbefore, hanswered⟩ :=
            create_runs hstored htenant hfits hvalid hruns
          cases hanswered with
          | @conflict id digest hregistered hdigest hsame =>
              subst hsame
              exact Or.inl ⟨hbefore, ⟨graph, request, hashed, shown, id, digest, hprepares,
                hregistered, hdigest⟩, rfl⟩
          | @failed error hfresh hfails hsame =>
              subst hsame
              exact Or.inr (Or.inl ⟨error, hbefore, hfresh, hfails, rfl⟩)
          | @shown id state hevolves hregistered hholds hmade =>
              refine Or.inr (Or.inr ⟨_, rfl, ?_⟩)
              rcases hmade with ⟨⟨state', hholds', rfl⟩, hshows⟩ |
                ⟨seen, hseen, hlast, hclashes⟩
              · obtain rfl := hholds.unique hholds'
                have hfinal := (hstored.evolves hbefore).evolves hevolves
                refine Or.inl ⟨⟨state', hholds, rfl, graphNodes_builds hprepares.built⟩, ?_, ?_⟩
                · show state'.nodeStates.map Prod.fst = _
                  rw [GraphState.keys, built_nodeIds hprepares.built]
                · intro later outcome last hlater hstatus
                  have hthere := hshows.evolves hfinal hlater
                  obtain ⟨-, ⟨-, habsent⟩ | ⟨seen, hsaw, houtcome⟩⟩ :=
                    status_runs (hfinal.evolves hlater) hstatus
                  · exact absurd hthere (habsent shown)
                  · exact ⟨_, houtcome, rfl,
                      nodeIds_kept hfinal hholds (hlater.trans hsaw.evolves) hsaw.holds⟩
              · exact Or.inr ⟨graph, request, hashed, shown, hprepares, seen,
                  hbefore.trans hseen, hlast, hclashes⟩
        · rw [create_invalid hfits hvalid] at hruns
          obtain ⟨rfl, rfl⟩ := hruns
          exact Or.inr (Or.inl ⟨hfits, hvalid, rfl, rfl⟩)
      · rw [create_limited hfits] at hruns
        obtain ⟨rfl, rfl⟩ := hruns
        exact Or.inl ⟨hfits, rfl, rfl⟩

end GraphRoutes
end Api
end Ryuk
