import Ryuk.Api.GraphCreation
import Ryuk.Api.Service

/-!
# The graph routes under load

All requests of the four routes on graphs run at once, of all tenants, with each other and
with the executors on the store.  The one failure that is not documented is that of a creation
whose deadline is past the calendar.
-/

namespace Ryuk

namespace Workflows

open Foundation Foundation.Transaction

variable {platform : Platform} {tenant graphId : String}

/-! ### Calls of the routes -/

/-- A body that only reads leaves the graphs to the service. -/
theorem graphReads_evolve {α : Type} {body : GraphTx α}
    (h : Keeps (fun tables : GraphTables => tables) body) (tables : GraphTables) :
    GraphsEvolve platform tables (commit body tables).2 :=
  Machine.Reachable.of_eq (h.commit tables).symm

theorem getGraphBinding_reads : Keeps (fun tables : GraphTables => tables)
    (SQLiteWorkflowStore.getGraphBinding tenant graphId) :=
  Keeps.bind Keeps.query fun _ => Keeps.lift

theorem sinkResults_reads {sinks : List String} : Keeps (fun tables : GraphTables => tables)
    (sinkResults platform tenant graphId sinks) := by
  induction sinks with
  | nil => exact Keeps.pure
  | cons nodeId rest ih =>
      apply Keeps.bind Keeps.query
      intro row
      split
      · exact Keeps.fail
      · apply Keeps.bind Keeps.lift
        intro artifact
        apply Keeps.bind Keeps.lift
        intro report
        exact Keeps.bind ih fun _ => Keeps.pure

theorem acceptedGraphResults_reads : Keeps (fun tables : GraphTables => tables)
    (acceptedGraphResults platform tenant graphId) := by
  apply Keeps.bind getGraphState_keeps
  intro state
  cases state with
  | none => exact Keeps.fail
  | some state =>
      apply Keeps.bind Keeps.lift
      intro unaccepted
      exact Keeps.bind Keeps.require fun _ => sinkResults_reads

/-- A call of the store moves it as a run of the service does. -/
theorem graphBody_evolves {α : Type} {body : GraphTx α} (call : GraphCall) (answer : α → GraphAnswer)
    (hbody : call.body platform = answer <$> body) (tables : GraphTables) :
    GraphsEvolve platform tables (commit body tables).2 := by
  refine ⟨[.call call], ?_⟩
  show (commit (BudgetAnswer.operation <$> call.body platform) tables).2 = _
  rw [commit_map, hbody, commit_map]

/-- A creation of a tenant without a proper name raises. -/
theorem createGraph_refused {key uuid4 : String} {graph : WorkflowGraph}
    {budget : Option GraphBudget} {binding : Option (List (String × Foundation.Json))}
    {now : Datetime.DateTime} (h : isCanonicalId tenant = false) (tables : GraphTables) :
    ∃ message, createGraph platform tenant key graph budget binding now uuid4 tables =
      .error (.valueError message) := by
  refine ⟨"Identifiers must be nonempty without outer whitespace", ?_⟩
  unfold createGraph require
  rw [h]
  rfl

end Workflows

namespace Api
namespace GraphRoutes

open Foundation Foundation.Transaction Foundation.Script
open Control (ControlPlaneFailure)
open Workflows (GraphTables GraphsEvolve WorkflowPolicy)
open WorkflowRoutes (InputLimits policyRequired)

variable {platform : Platform} {tables final : GraphTables} {tenant graphId : String}
  {uuid5 : String → Inference.Text} {limits : InputLimits}

theorem getGraphState_obeys {α : Type} {rest : Option Workflows.GraphState → Route GraphTables α}
    (hrest : ∀ state, (rest state).Obeys (GraphsEvolve platform)) :
    (Route.transact (Workflows.getGraphState tenant graphId) >>= rest).Obeys
      (GraphsEvolve platform) :=
  obeys_bind (obeys_transact fun tables =>
    Workflows.graphReads_evolve Workflows.getGraphState_keeps tables) hrest

theorem savedGraph_obeys : (savedGraph tenant graphId).Obeys (GraphsEvolve platform) := by
  apply obeys_bind (obeys_transact fun tables =>
    Workflows.graphReads_evolve Workflows.getGraphBinding_reads tables)
  intro binding
  cases binding with
  | none => trivial
  | some binding =>
      apply getGraphState_obeys
      intro state
      cases state with
      | none => trivial
      | some state => trivial

theorem summary_obeys : (summary tenant graphId).Obeys (GraphsEvolve platform) := by
  apply getGraphState_obeys
  intro state
  cases state with
  | none => trivial
  | some state => trivial

theorem status_obeys : (status tenant graphId).Obeys (GraphsEvolve platform) :=
  obeys_bind savedGraph_obeys fun _ => summary_obeys

theorem cancel_obeys : (cancel tenant graphId).Obeys (GraphsEvolve platform) := by
  apply obeys_bind savedGraph_obeys
  intro state
  apply obeys_bind
  · apply obeys_transact
    exact Workflows.graphBody_evolves (.cancelGraph tenant graphId) .state rfl
  · intro ended
    exact summary_obeys

theorem result_obeys : (result platform tenant graphId).Obeys (GraphsEvolve platform) := by
  apply obeys_bind savedGraph_obeys
  intro state
  apply obeys_bind
  · apply obeys_transact
    exact Workflows.graphReads_evolve Workflows.acceptedGraphResults_reads
  · intro results
    exact obeys_bind summary_obeys fun _ => trivial

theorem create_obeys {policy : Option WorkflowPolicy} {payload : CreateWorkflowGraphRequest}
    {clock : Datetime.Instant} {uuid4 : String} :
    (create platform tenant uuid5 policy limits payload clock uuid4).Obeys
      (GraphsEvolve platform) := by
  cases policy with
  | none => trivial
  | some rules =>
      by_cases hfits : Fits rules limits payload
      · by_cases hvalid : payload.Valid
        · obtain ⟨graph, binding, _, -, -, -, -, hcall⟩ :=
            create_calls platform tenant uuid5 hfits hvalid
          rw [hcall]
          apply obeys_bind
          · apply obeys_transact
            exact Workflows.graphBody_evolves (.createGraph tenant payload.idempotencyKey graph
              (some (budgetOf rules)) (some binding) clock.utc uuid4) .graphId rfl
          · intro id
            exact summary_obeys
        · rw [create_invalid hfits hvalid]
          trivial
      · rw [create_limited hfits]
        trivial

/-! ### Failures -/

/-- The failures the routes document. -/
def documented : List ControlPlaneFailure :=
  [quotaExceeded, recordUnavailable, workflowsDisabled, notFound, policyRequired, limitExceeded,
    invalidGraph, failures.conflict, failures.unverified]

abbrev Documented {α : Type} (outcome : Except ApiError α) : Prop :=
  failures.Documents documented outcome

section Failures

variable {α : Type}

theorem documented_unknown {outcome : Except ApiError α} (h : Unknown tables tenant graphId outcome) :
    Documented outcome := by
  rw [h.1]
  exact documents_control (by simp [documented])

theorem status_documented {outcome : Except ApiError Summary} (h : tables.Stored platform)
    (hruns : (status tenant graphId).Runs (GraphsEvolve platform) tables outcome final) :
    Documented outcome := by
  obtain ⟨-, hunknown | ⟨_, -, rfl⟩⟩ := status_runs h hruns
  · exact documented_unknown hunknown
  · exact documents_ok

theorem cancel_documented {outcome : Except ApiError Summary} (h : tables.Stored platform)
    (hruns : (cancel tenant graphId).Runs (GraphsEvolve platform) tables outcome final) :
    Documented outcome := by
  obtain ⟨-, hunknown | ⟨_, -, -, rfl⟩⟩ := cancel_runs h hruns
  · exact documented_unknown hunknown
  · exact documents_ok

theorem result_documented {outcome : Except ApiError Served} (h : tables.Stored platform)
    (hruns : (result platform tenant graphId).Runs (GraphsEvolve platform) tables outcome final) :
    Documented outcome := by
  obtain ⟨-, hunknown | ⟨middle, state, hsaw, -, rfl⟩⟩ := result_runs h hruns
  · exact documented_unknown hunknown
  · unfold servedOf
    rcases published_cases (h.evolves hsaw.evolves) hsaw.holds with ⟨-, results, hpublished, -⟩ |
      ⟨-, hpublished, -⟩
    · rw [hpublished]
      exact documents_ok
    · rw [hpublished]
      exact documents_conflict (by simp [documented])

/-- A creation at a time from which its deadline is past the calendar. -/
def Overdue (policy : Option WorkflowPolicy) (clock : Datetime.Instant) : Prop :=
  ∃ rules, policy = some rules ∧
    Workflows.deadlineAt (budgetOf rules) clock.utc = .error .overflowError

/-- From a clock in UTC, the deadline of a policy fails only by leaving the calendar. -/
theorem deadlineAt_overflow {policy : WorkflowPolicy} {clock : Datetime.Instant}
    {error : PyError} (h : Workflows.deadlineAt (budgetOf policy) clock.utc = .error error) :
    error = .overflowError := by
  -- the duration of a policy is a finite float
  obtain ⟨duration, hduration⟩ : ∃ duration,
      Workflows.microseconds (budgetOf policy).deadlineSeconds = .ok duration := ⟨_, rfl⟩
  unfold Workflows.deadlineAt at h
  rw [Workflows.utcNow_utc, except_ok_bind, hduration, except_ok_bind] at h
  split at h
  · cases h
  · exact (Except.error.inj h).symm

theorem create_documented {policy : Option WorkflowPolicy} {payload : CreateWorkflowGraphRequest}
    {clock : Datetime.Instant} {uuid4 : String} {outcome : Except ApiError Summary}
    (h : tables.Stored platform)
    (hruns : (create platform tenant uuid5 policy limits payload clock uuid4).Runs
      (GraphsEvolve platform) tables outcome final) :
    Documented outcome ∨ (outcome = .error (.raised .overflowError) ∧ Overdue policy clock) := by
  cases policy with
  | none =>
      obtain ⟨rfl, -⟩ := hruns
      exact Or.inl (documents_control (by simp [documented]))
  | some rules =>
      by_cases hfits : Fits rules limits payload
      · by_cases hvalid : payload.Valid
        · cases htenant : Workflows.isCanonicalId tenant with
          | true =>
              obtain ⟨_, _, _, _, _, -, -, hanswered⟩ := create_runs h htenant hfits hvalid hruns
              cases hanswered with
              | conflict _ _ _ => exact Or.inl (documents_conflict (by simp [documented]))
              | failed _ hfails _ =>
                  cases hfails with
                  | taken _ =>
                      exact Or.inl (documents_raised (by simp [documented])
                        (Or.inr (Or.inr (Or.inr rfl))))
                  | overdue hdeadline =>
                      obtain rfl := deadlineAt_overflow hdeadline
                      exact Or.inr ⟨rfl, rules, rfl, hdeadline⟩
              | shown _ _ _ _ => exact Or.inl documents_ok
          | false =>
              obtain ⟨graph, binding, _, -, -, -, -, hcall⟩ :=
                create_calls platform tenant uuid5 hfits hvalid
              rw [hcall] at hruns
              obtain ⟨before, -, ⟨id, next, hcreated, -⟩ | ⟨error, hfailed, rfl, -⟩⟩ :=
                runs_transact_bind.mp hruns
              · have hproper := (Workflows.createGraph_request hcreated).1
                rw [htenant] at hproper
                cases hproper
              · obtain ⟨message, hrefused⟩ := @Workflows.createGraph_refused platform tenant
                  payload.idempotencyKey uuid4 graph (some (budgetOf rules)) (some binding)
                  clock.utc htenant before
                rw [hrefused] at hfailed
                exact Or.inl (documents_raised (by simp [documented])
                  (Or.inl ⟨message, (Except.error.inj hfailed).symm⟩))
        · rw [create_invalid hfits hvalid] at hruns
          obtain ⟨rfl, -⟩ := hruns
          exact Or.inl (documents_control (by simp [documented]))
      · rw [create_limited hfits] at hruns
        obtain ⟨rfl, -⟩ := hruns
        exact Or.inl (documents_control (by simp [documented]))

end Failures

/-! ### The service -/

/-- A request of one of the routes. -/
inductive GraphRequest where
  | create (policy : Option WorkflowPolicy) (payload : CreateWorkflowGraphRequest)
      (clock : Datetime.Instant) (uuid4 : String)
  | status (graphId : String)
  | cancel (graphId : String)
  | result (graphId : String)

/-- What a request is answered. -/
inductive Reply where
  | summary (summary : Summary)
  | served (served : Served)

variable (platform) (uuid5 : String → Inference.Text) (limits : InputLimits)

/-- The route of a request, of the tenant of its principal. -/
def GraphRequest.asked (given : Circumstances) : GraphRequest → Asked GraphTables Reply
  | .create policy payload clock uuid4 =>
      ⟨given, "workflow_graph.create", estimatedTokens policy, failures,
        .summary <$> GraphRoutes.create platform given.tenantId uuid5 policy limits payload clock
          uuid4⟩
  | .status graphId =>
      ⟨given, "workflow_graph.status", 0, failures,
        .summary <$> GraphRoutes.status given.tenantId graphId⟩
  | .cancel graphId =>
      ⟨given, "workflow_graph.cancel", 0, failures,
        .summary <$> GraphRoutes.cancel given.tenantId graphId⟩
  | .result graphId =>
      ⟨given, "workflow_graph.result", 0, failures,
        .served <$> GraphRoutes.result platform given.tenantId graphId⟩

/-- The requests of the four routes. -/
def IsGraphRoute (asked : Asked GraphTables Reply) : Prop :=
  ∃ given request, asked = GraphRequest.asked platform uuid5 limits given request

/-- The requests that create a graph whose deadline is past the calendar. -/
def IsOverdue (asked : Asked GraphTables Reply) : Prop :=
  ∃ given policy payload clock uuid4, Overdue policy clock ∧
    asked = GraphRequest.asked platform uuid5 limits given (.create policy payload clock uuid4)

variable {platform uuid5 limits}

theorem asked_obeys {asked : Asked GraphTables Reply}
    (h : IsGraphRoute platform uuid5 limits asked) :
    asked.route.Obeys (GraphsEvolve platform) := by
  obtain ⟨given, request, rfl⟩ := h
  cases request with
  | create policy payload clock uuid4 => exact obeys_map create_obeys
  | status graphId => exact obeys_map status_obeys
  | cancel graphId => exact obeys_map cancel_obeys
  | result graphId => exact obeys_map result_obeys

/-- Every route ends in an answer, a documented failure or, for a creation, an overflow. -/
theorem asked_documented {asked : Asked GraphTables Reply} {outcome : Except ApiError Reply}
    (hroute : IsGraphRoute platform uuid5 limits asked) (h : tables.Stored platform)
    (hruns : asked.route.Runs (GraphsEvolve platform) tables outcome final) :
    asked.failures = failures ∧ (Documented outcome ∨
      (outcome = .error (.raised .overflowError) ∧ IsOverdue platform uuid5 limits asked)) := by
  obtain ⟨given, request, rfl⟩ := hroute
  cases request with
  | create policy payload clock uuid4 =>
      obtain ⟨result, hresult, rfl⟩ := runs_map hruns
      refine ⟨rfl, ?_⟩
      rcases create_documented h hresult with hdocumented | ⟨rfl, hoverdue⟩
      · exact Or.inl hdocumented.map
      · exact Or.inr ⟨rfl, given, policy, payload, clock, uuid4, hoverdue, rfl⟩
  | status graphId =>
      obtain ⟨result, hresult, rfl⟩ := runs_map hruns
      exact ⟨rfl, Or.inl (status_documented h hresult).map⟩
  | cancel graphId =>
      obtain ⟨result, hresult, rfl⟩ := runs_map hruns
      exact ⟨rfl, Or.inl (cancel_documented h hresult).map⟩
  | result graphId =>
      obtain ⟨result, hresult, rfl⟩ := runs_map hruns
      exact ⟨rfl, Or.inl (result_documented h hresult).map⟩

/-- An explained answer of the routes is a reply, a documented failure or an overflow. -/
theorem explained_documented {start : Option GraphTables} {asked : Asked GraphTables Reply}
    {answer : Except ApiError Reply} {error : ApiError}
    (hroute : IsGraphRoute platform uuid5 limits asked)
    (hstart : ∀ store, start = some store → GraphsEvolve platform GraphTables.empty store)
    (h : Explained (GraphsEvolve platform) start asked answer) (herror : answer = .error error) :
    (∃ failure ∈ documented, error = .control failure) ∨
      (error = .raised .overflowError ∧ IsOverdue platform uuid5 limits asked) := by
  rcases h with rfl | rfl | ⟨-, rfl⟩ | ⟨store, before, outcome, final, hsome, hbefore, hruns, rfl⟩
  · exact Or.inl ⟨quotaExceeded, by simp [documented], (Except.error.inj herror).symm⟩
  · exact Or.inl ⟨recordUnavailable, by simp [documented], (Except.error.inj herror).symm⟩
  · exact Or.inl ⟨workflowsDisabled, by simp [documented], (Except.error.inj herror).symm⟩
  · have hstored := (Workflows.graphReachable_stored (hstart store hsome)).evolves hbefore
    obtain ⟨hfailures, hcase⟩ := asked_documented hroute hstored hruns
    rw [hfailures] at herror
    rcases hcase with hdocumented | ⟨rfl, hoverdue⟩
    · exact Or.inl (hdocumented error herror)
    · exact Or.inr ⟨(Except.error.inj herror).symm, hoverdue⟩

/-- **The service under load.**  Whatever requests of the routes arrive, and however their
transactions fall between those of the others and of the executors: each tenant holds a permit
for each of its requests under way, one record is written for each answer, every answer is a
reply or a documented failure, but for an overflow where the deadline of a new graph is past
the calendar, and all requests can come to their ends. -/
def ServesGraphsUnderLoad (platform : Platform) : Prop :=
  ∀ uuid5 limits (start service : Service GraphTables Reply),
    start.running = [] → start.answered = [] →
    (∀ store, start.store = some store → GraphsEvolve platform GraphTables.empty store) →
    Service.Reaches (IsGraphRoute platform uuid5 limits) (GraphsEvolve platform) start service →
    (∀ tenantId, service.api.admission.held tenantId =
      start.api.admission.held tenantId + service.running.countP (Operation.isOf tenantId)) ∧
    service.api.recorded.length = start.api.recorded.length + service.answered.length ∧
    (∀ entry ∈ service.answered, ∀ error, entry.2 = .error error →
      (∃ failure ∈ documented, error = .control failure) ∨
        (error = .raised .overflowError ∧ IsOverdue platform uuid5 limits entry.1)) ∧
    ∃ drained, Service.Reaches (IsGraphRoute platform uuid5 limits) (GraphsEvolve platform) service
      drained ∧ drained.running = []

theorem graph_routes_serve_under_load (platform : Platform) : ServesGraphsUnderLoad platform := by
  intro uuid5 limits start service hrunning hanswered hstart hreaches
  obtain ⟨hheld, hrecorded, hexplained, hdrains⟩ := Service.underLoad
    (fun tables => Machine.Reachable.refl tables)
    (fun _ _ _ hfirst hsecond => hfirst.trans hsecond) (fun _ => asked_obeys) hrunning hanswered
    hreaches
  refine ⟨hheld, hrecorded, fun entry hentry error herror => ?_, hdrains⟩
  obtain ⟨hroute, hanswer⟩ := hexplained entry hentry
  exact explained_documented hroute hstart hanswer herror

end GraphRoutes
end Api
end Ryuk
