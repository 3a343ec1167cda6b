import Ryuk.Api.Service
import Ryuk.Api.WorkflowAnswers

/-!
# The workflow routes under load

All requests of the four routes, of all tenants, run at once, with each other and with
workers on the store.  Every one is answered or fails with one of the documented failures,
and the permits held are those of the requests under way.
-/

namespace Ryuk

namespace Workflows

open Foundation Foundation.Transaction

variable {platform : Platform} {tenant workflowId : String}

/-! ### Calls of the routes -/

/-- A call that only reads. -/
def Reads {α : Type} (body : Tx α) : Prop := Keeps (fun tables : Tables => tables) body

theorem Reads.evolves {α : Type} {body : Tx α} (h : Reads body) (tables : Tables) :
    Evolves platform tables (commit body tables).2 :=
  Machine.Reachable.of_eq (h.commit tables).symm

theorem getBinding_reads : Reads (getBinding tenant workflowId) := by
  unfold Reads getBinding
  apply Keeps.bind Keeps.query
  intro row
  cases row with
  | none => exact Keeps.pure
  | some row => exact Keeps.bind Keeps.lift fun _ => Keeps.pure

theorem getArtifact_reads {artifactId : Option String} :
    Reads (getArtifact platform tenant workflowId artifactId) := by
  unfold Reads getArtifact
  apply Keeps.bind Keeps.query
  intro row
  cases row with
  | none => exact Keeps.pure
  | some row => exact Keeps.bind Keeps.lift fun _ => Keeps.pure

theorem get_reads : Reads (SQLiteWorkflowStore.get platform tenant workflowId) := by
  unfold Reads SQLiteWorkflowStore.get
  apply Keeps.bind Keeps.query
  intro row
  cases row with
  | none => exact Keeps.pure
  | some row =>
      apply Keeps.bind Keeps.lift
      intro packet
      apply Keeps.bind Keeps.lift
      intro stored
      apply Keeps.bind
      · unfold SQLiteWorkflowStore.recordResult
        cases row.resultArtifactId with
        | none => exact Keeps.pure
        | some artifactId =>
            apply Keeps.bind getArtifact_reads
            intro artifact
            cases artifact with
            | none => exact Keeps.fail
            | some artifact => exact Keeps.pure
      · intro result
        apply Keeps.bind Keeps.query
        intro report
        exact Keeps.bind Keeps.lift fun _ => Keeps.pure

/-- A call of the store moves it as a run of the store does. -/
theorem call_evolves {α : Type} {body : Tx α} (call : Call) (answer : α → Answer)
    (hbody : call.body platform = answer <$> body) (tables : Tables) :
    Evolves platform tables (commit body tables).2 := by
  refine ⟨[call], ?_⟩
  show (commit (call.body platform) tables).2 = _
  rw [hbody, commit_map]

/-- A creation of a tenant without a proper name raises. -/
theorem create_refused {key uuid4 : String} {packet : TaskPacket}
    {binding : Option (List (String × Foundation.Json))} (h : isCanonicalId tenant = false)
    (tables : Tables) : ∃ message, create platform tenant key packet binding uuid4 tables =
      .error (.valueError message) := by
  have hname : (decide (tenant ≠ "") && decide (tenant = Text.strip tenant)) = false := h
  refine ⟨"Identifiers must be nonempty without outer whitespace", ?_⟩
  unfold create identifier require
  rw [hname]
  rfl

end Workflows

namespace Api
namespace WorkflowRoutes

open Foundation Foundation.Json Foundation.Transaction Foundation.Script
open Control (ControlPlaneFailure)
open Workflows (Call CreateWorkflowRequest Evolves Final Tables WorkflowPolicy WorkflowState subscript)

variable {platform : Platform} {tables final : Tables} {tenant workflowId : String}

theorem getBinding_obeys :
    (Route.transact (Workflows.getBinding tenant workflowId)).Obeys (Evolves platform) :=
  obeys_transact fun tables => Workflows.getBinding_reads.evolves tables

theorem savedWorkflow_obeys :
    (savedWorkflow platform tenant workflowId).Obeys (Evolves platform) := by
  apply obeys_bind getBinding_obeys
  intro binding
  cases binding with
  | none => trivial
  | some binding =>
      apply obeys_bind (obeys_transact fun tables => Workflows.get_reads.evolves tables)
      intro row
      cases row with
      | none => trivial
      | some row => trivial

theorem summary_obeys {row : Workflows.SQLiteWorkflowStore.WorkflowRecord} :
    (summary tenant row).Obeys (Evolves platform) := by
  apply obeys_bind getBinding_obeys
  intro binding
  cases binding with
  | none => trivial
  | some binding =>
      cases hversion : subscript binding "version" with
      | ok version =>
          show (Route.compute (subscript binding "version") >>= _ : Route Tables Summary).Obeys _
          rw [hversion]
          trivial
      | error error =>
          show (Route.compute (subscript binding "version") >>= _ : Route Tables Summary).Obeys _
          rw [hversion]
          trivial

theorem status_obeys : (status platform tenant workflowId).Obeys (Evolves platform) :=
  obeys_bind savedWorkflow_obeys fun _ => summary_obeys

theorem cancel_obeys : (cancel platform tenant workflowId).Obeys (Evolves platform) := by
  apply obeys_bind savedWorkflow_obeys
  intro row
  apply obeys_bind
  · apply obeys_transact
    exact Workflows.call_evolves (.cancel tenant workflowId) .cancelled rfl
  · intro cancelled
    cases cancelled with
    | true => exact status_obeys
    | false => trivial

theorem result_obeys : (result platform tenant workflowId).Obeys (Evolves platform) := by
  apply obeys_bind savedWorkflow_obeys
  intro row
  split_ifs
  · trivial
  · apply obeys_bind
    · apply obeys_transact
      exact Workflows.call_evolves (.validate tenant workflowId none) .report rfl
    · intro report
      cases subscript report "decision" with
      | error error => trivial
      | ok decision =>
          show (if decision ≠ .str "accepted" then _ else _ : Route Tables Served).Obeys _
          split_ifs
          · trivial
          · exact obeys_bind summary_obeys fun _ => trivial

theorem create_obeys {uuid5 : String → Inference.Text} {policy : Option WorkflowPolicy}
    {limits : InputLimits} {payload : CreateWorkflowRequest} {uuid4 : String} :
    (create platform tenant uuid5 policy limits payload uuid4).Obeys (Evolves platform) := by
  cases policy with
  | none => trivial
  | some rules =>
      by_cases hfits : Fits rules limits payload
      · obtain ⟨packet, binding, _, _, _, _, -, -, -, -, -, hcalls⟩ :=
          create_calls platform tenant uuid5 hfits
        rw [hcalls]
        apply obeys_bind
        · apply obeys_transact
          exact Workflows.call_evolves (.create tenant payload.idempotencyKey packet (some binding)
            uuid4) .workflowId rfl
        · intro id
          exact status_obeys
      · rw [create_limited hfits]
        trivial

/-! ### Failures -/

/-- The failures the routes document. -/
def documented : List ControlPlaneFailure :=
  [quotaExceeded, recordUnavailable, workflowsDisabled, notFound, policyRequired, limitExceeded,
    failures.conflict, failures.unverified]

/-- An outcome whose failure, if it has one, is translated into a documented one. -/
abbrev Documented {α : Type} (outcome : Except ApiError α) : Prop :=
  failures.Documents documented outcome

section Failures

variable {α : Type}

theorem documented_notFound : Documented (.error (.control notFound) : Except ApiError α) :=
  documents_control (by simp [documented])

theorem documented_conflict {message : String} :
    Documented (.error (.raised (.workflowConflict message)) : Except ApiError α) :=
  documents_conflict (by simp [documented])

theorem documented_raised {error : PyError} (h : (∃ message, error = .valueError message) ∨
      error = .keyError ∨ error = .typeError ∨ error = .integrityError) :
    Documented (.error (.raised error) : Except ApiError α) :=
  documents_raised (by simp [documented]) h

/-- A field of a binding that is not there is an exception the routes translate. -/
theorem documented_summaryOf {state : WorkflowState} {binding : Json} :
    Documented (summaryOf workflowId state binding) := by
  unfold summaryOf
  cases hversion : subscript binding "version" with
  | ok version => exact documents_ok
  | error error =>
      apply documented_raised
      unfold subscript at hversion
      split at hversion
      · split at hversion
        · cases hversion
        · exact Or.inr (Or.inl (Except.error.inj hversion).symm)
      · exact Or.inr (Or.inr (Or.inl (Except.error.inj hversion).symm))

theorem status_documented {outcome : Except ApiError Summary} (h : tables.Stored platform)
    (hruns : (status platform tenant workflowId).Runs (Evolves platform) tables outcome final) :
    Documented outcome := by
  obtain ⟨-, ⟨rfl, -⟩ | ⟨_, _, _, _, -, -, -, rfl⟩⟩ := status_runs h hruns
  · exact documented_notFound
  · exact documented_summaryOf

theorem cancel_documented {outcome : Except ApiError Summary} (h : tables.Stored platform)
    (hruns : (cancel platform tenant workflowId).Runs (Evolves platform) tables outcome final) :
    Documented outcome := by
  obtain ⟨-, ⟨rfl, -⟩ | ⟨_, _, _, -, -, -, -, ⟨-, rfl⟩ | ⟨-, -, rfl⟩⟩⟩ := cancel_runs h hruns
  · exact documented_notFound
  · exact documented_conflict
  · exact documented_summaryOf

theorem result_documented {outcome : Except ApiError Served} (h : tables.Stored platform)
    (hruns : (result platform tenant workflowId).Runs (Evolves platform) tables outcome final) :
    Documented outcome := by
  obtain ⟨-, ⟨rfl, -⟩ | ⟨_, _, _, binding, -, -, -, ⟨-, rfl⟩ | ⟨_, -, -, -, rfl⟩⟩⟩ :=
    result_runs h hruns
  · exact documented_notFound
  · exact documented_conflict
  · unfold servedOf
    have hsummary := @documented_summaryOf workflowId .succeeded binding
    cases hmade : summaryOf workflowId .succeeded binding with
    | ok summary => exact documents_ok
    | error error =>
        rw [hmade] at hsummary
        intro found hfound
        apply hsummary found
        exact congrArg Except.error (Except.error.inj hfound)

theorem create_documented {uuid5 : String → Inference.Text} {policy : Option WorkflowPolicy}
    {limits : InputLimits} {payload : CreateWorkflowRequest} {uuid4 : String}
    {outcome : Except ApiError Summary} (h : tables.Proven platform)
    (hruns : (create platform tenant uuid5 policy limits payload uuid4).Runs (Evolves platform)
      tables outcome final) : Documented outcome := by
  cases policy with
  | none =>
      obtain ⟨rfl, -⟩ := hruns
      exact documents_control (by simp [documented])
  | some rules =>
      by_cases hfits : Fits rules limits payload
      · obtain ⟨packet, binding, _, _, hashed, _, -, -, hhashed, -, -, hcalls⟩ :=
          create_calls platform tenant uuid5 hfits
        cases htenant : Workflows.isCanonicalId tenant with
        | true =>
            obtain ⟨before, hbefore, hcase⟩ := create_runs h htenant hfits hhashed hruns
            rcases hcase with ⟨_, _, -, -, rfl, -⟩ | ⟨-, -, rfl, -⟩ | ⟨id, next, hnext, -, -, hstatus⟩
            · exact documented_conflict
            · exact documented_raised (Or.inr (Or.inr (Or.inr rfl)))
            · exact status_documented ((h.evolves hbefore).evolves hnext).stored hstatus
        | false =>
            rw [hcalls] at hruns
            obtain ⟨before, -, ⟨id, next, hcreated, -⟩ | ⟨error, hfailed, rfl, -⟩⟩ :=
              runs_transact_bind.mp hruns
            · have hproper := (Workflows.create_request hcreated).1
              rw [htenant] at hproper
              cases hproper
            · obtain ⟨message, hrefused⟩ := @Workflows.create_refused platform tenant
                payload.idempotencyKey uuid4 packet (some binding) htenant before
              rw [hrefused] at hfailed
              exact documented_raised (Or.inl ⟨message, (Except.error.inj hfailed).symm⟩)
      · rw [create_limited hfits] at hruns
        obtain ⟨rfl, -⟩ := hruns
        exact documents_control (by simp [documented])

end Failures

/-! ### The service -/

/-- A request of one of the routes. -/
inductive WorkflowRequest where
  | create (policy : Option WorkflowPolicy) (payload : CreateWorkflowRequest) (uuid4 : String)
  | status (workflowId : String)
  | cancel (workflowId : String)
  | result (workflowId : String)

/-- What a request is answered. -/
inductive Reply where
  | summary (summary : Summary)
  | served (served : Served)

variable (platform) (uuid5 : String → Inference.Text) (limits : InputLimits)

/-- The route of a request, of the tenant of its principal. -/
def WorkflowRequest.asked (given : Circumstances) : WorkflowRequest → Asked Tables Reply
  | .create policy payload uuid4 =>
      ⟨given, "workflow.create", estimatedTokens policy payload, failures,
        .summary <$> WorkflowRoutes.create platform given.tenantId uuid5 policy limits payload uuid4⟩
  | .status workflowId =>
      ⟨given, "workflow.status", 0, failures,
        .summary <$> WorkflowRoutes.status platform given.tenantId workflowId⟩
  | .cancel workflowId =>
      ⟨given, "workflow.cancel", 0, failures,
        .summary <$> WorkflowRoutes.cancel platform given.tenantId workflowId⟩
  | .result workflowId =>
      ⟨given, "workflow.result", 0, failures,
        .served <$> WorkflowRoutes.result platform given.tenantId workflowId⟩

/-- The requests of the four routes. -/
def IsWorkflowRoute (asked : Asked Tables Reply) : Prop :=
  ∃ given request, asked = WorkflowRequest.asked platform uuid5 limits given request

variable {platform uuid5 limits}

theorem asked_obeys {asked : Asked Tables Reply} (h : IsWorkflowRoute platform uuid5 limits asked) :
    asked.route.Obeys (Evolves platform) := by
  obtain ⟨given, request, rfl⟩ := h
  cases request with
  | create policy payload uuid4 => exact obeys_map create_obeys
  | status workflowId => exact obeys_map status_obeys
  | cancel workflowId => exact obeys_map cancel_obeys
  | result workflowId => exact obeys_map result_obeys

/-- Every route ends in an answer or a documented failure. -/
theorem asked_documented {asked : Asked Tables Reply} {outcome : Except ApiError Reply}
    (hroute : IsWorkflowRoute platform uuid5 limits asked) (h : tables.Proven platform)
    (hruns : asked.route.Runs (Evolves platform) tables outcome final) :
    asked.failures = failures ∧ Documented outcome := by
  obtain ⟨given, request, rfl⟩ := hroute
  cases request with
  | create policy payload uuid4 =>
      obtain ⟨result, hresult, rfl⟩ := runs_map hruns
      exact ⟨rfl, (create_documented h hresult).map⟩
  | status workflowId =>
      obtain ⟨result, hresult, rfl⟩ := runs_map hruns
      exact ⟨rfl, (status_documented h.stored hresult).map⟩
  | cancel workflowId =>
      obtain ⟨result, hresult, rfl⟩ := runs_map hruns
      exact ⟨rfl, (cancel_documented h.stored hresult).map⟩
  | result workflowId =>
      obtain ⟨result, hresult, rfl⟩ := runs_map hruns
      exact ⟨rfl, (result_documented h.stored hresult).map⟩

/-- An explained answer of the routes is a reply or a documented failure. -/
theorem explained_documented {start : Option Tables} {asked : Asked Tables Reply}
    {answer : Except ApiError Reply} {error : ApiError}
    (hroute : IsWorkflowRoute platform uuid5 limits asked)
    (hstart : ∀ store, start = some store → Evolves platform Tables.empty store)
    (h : Explained (Evolves platform) start asked answer) (herror : answer = .error error) :
    ∃ failure ∈ documented, error = .control failure := by
  rcases h with rfl | rfl | ⟨-, rfl⟩ | ⟨store, before, outcome, final, hsome, hbefore, hruns, rfl⟩
  · exact ⟨quotaExceeded, by simp [documented], (Except.error.inj herror).symm⟩
  · exact ⟨recordUnavailable, by simp [documented], (Except.error.inj herror).symm⟩
  · exact ⟨workflowsDisabled, by simp [documented], (Except.error.inj herror).symm⟩
  · have hproven := (Workflows.reachable_proven (hstart store hsome)).evolves hbefore
    obtain ⟨hfailures, hdocumented⟩ := asked_documented hroute hproven hruns
    rw [hfailures] at herror
    exact hdocumented error herror

/-- **The service under load.**  Whatever requests of the routes arrive, and however their
transactions fall between those of the others and of the workers: each tenant holds a permit
for each of its requests under way, one record is written for each answer, every answer is a
reply or a documented failure, and all requests can come to their ends. -/
def ServesUnderLoad (platform : Platform) : Prop :=
  ∀ uuid5 limits (start service : Service Tables Reply),
    start.running = [] → start.answered = [] →
    (∀ store, start.store = some store → Evolves platform Tables.empty store) →
    Service.Reaches (IsWorkflowRoute platform uuid5 limits) (Evolves platform) start service →
    (∀ tenantId, service.api.admission.held tenantId =
      start.api.admission.held tenantId + service.running.countP (Operation.isOf tenantId)) ∧
    service.api.recorded.length = start.api.recorded.length + service.answered.length ∧
    (∀ entry ∈ service.answered, ∀ error, entry.2 = .error error →
      ∃ failure ∈ documented, error = .control failure) ∧
    ∃ drained, Service.Reaches (IsWorkflowRoute platform uuid5 limits) (Evolves platform) service
      drained ∧ drained.running = []

theorem serves_under_load (platform : Platform) : ServesUnderLoad platform := by
  intro uuid5 limits start service hrunning hanswered hstart hreaches
  obtain ⟨hheld, hrecorded, hexplained, hdrains⟩ := Service.underLoad
    (fun tables => Machine.Reachable.refl tables)
    (fun _ _ _ hfirst hsecond => hfirst.trans hsecond) (fun _ => asked_obeys) hrunning hanswered
    hreaches
  refine ⟨hheld, hrecorded, fun entry hentry error herror => ?_, hdrains⟩
  obtain ⟨hroute, hanswer⟩ := hexplained entry hentry
  exact explained_documented hroute hstart hanswer herror

end WorkflowRoutes
end Api
end Ryuk
