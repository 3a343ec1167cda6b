import Ryuk.Api.Workflows
import Ryuk.Workflows.Evidence
import Ryuk.Workflows.Snapshots

/-!
# What the workflow routes answer

Every route is taken apart into the states of the store in which it read, with whatever
others did in between.
-/

namespace Ryuk
namespace Api
namespace WorkflowRoutes

open Foundation Foundation.Json Foundation.Transaction Foundation.Script
open Control (ControlPlaneFailure)
open Workflows (Call CreateWorkflowRequest Evolves Final Records Tables WorkflowPolicy WorkflowRow
  WorkflowState subscript)
open Workflows.SQLiteWorkflowStore (WorkflowRecord)

variable {platform : Platform} {tables final : Tables} {tenant workflowId : String}

/-- A workflow as a request saw it: its binding, its row and its record. -/
structure Saw (tables : Tables) (tenant workflowId : String) (record : WorkflowRecord)
    (row : WorkflowRow) (binding : Json) : Prop where
  shows : tables.Shows tenant workflowId binding
  holds : tables.Holds tenant workflowId row
  records : Records tables workflowId row record

section Reads

variable {α : Type} {outcome : Except ApiError α}

/-- `get_binding`, and what follows. -/
theorem getBinding_runs {rest : Option Json → Route Tables α} (h : tables.Stored platform)
    (hruns : (Route.transact (Workflows.getBinding tenant workflowId) >>= rest).Runs
      (Evolves platform) tables outcome final) :
    ∃ middle, Evolves platform tables middle ∧
      (((∀ binding, ¬ middle.Shows tenant workflowId binding) ∧
          (rest none).Runs (Evolves platform) middle outcome final) ∨
        ∃ binding, middle.Shows tenant workflowId binding ∧
          (rest (some binding)).Runs (Evolves platform) middle outcome final) := by
  have hreturns : ∀ before, Evolves platform tables before →
      ∃ value next, Workflows.getBinding tenant workflowId before = .ok (value, next) := by
    intro before hevolves
    rcases Workflows.getBinding_stored (h.evolves hevolves) tenant workflowId with
      ⟨binding, -, hread⟩ | ⟨-, hread⟩
    · exact ⟨_, _, hread⟩
    · exact ⟨_, _, hread⟩
  obtain ⟨before, value, next, hevolves, hbody, hrest⟩ := runs_transact_returns hreturns hruns
  refine ⟨before, hevolves, ?_⟩
  rcases Workflows.getBinding_stored (h.evolves hevolves) tenant workflowId with
    ⟨binding, hshows, hread⟩ | ⟨hnone, hread⟩
  · rw [hread] at hbody
    cases hbody
    exact Or.inr ⟨binding, hshows, hrest⟩
  · rw [hread] at hbody
    cases hbody
    exact Or.inl ⟨hnone, hrest⟩

end Reads

/-- `saved_workflow` finds what is shown to the tenant. -/
theorem savedWorkflow_runs {outcome : Except ApiError WorkflowRecord} (h : tables.Stored platform)
    (hruns : (savedWorkflow platform tenant workflowId).Runs (Evolves platform) tables outcome
      final) :
    Evolves platform tables final ∧
      ((outcome = .error (.control notFound) ∧ ∀ binding, ¬ tables.Shows tenant workflowId binding) ∨
        ∃ record row binding, outcome = .ok record ∧
          Saw final tenant workflowId record row binding) := by
  unfold savedWorkflow at hruns
  obtain ⟨middle, hmiddle, hcase⟩ := getBinding_runs h hruns
  have hstored := h.evolves hmiddle
  rcases hcase with ⟨habsent, hrest⟩ | ⟨binding, hshows, hrest⟩
  · obtain ⟨rfl, rfl⟩ := hrest
    exact ⟨hmiddle, Or.inl ⟨rfl, fun binding hshows =>
      habsent binding (hshows.evolves (hmiddle.advances h))⟩⟩
  · have hheld : ∀ before, Evolves platform middle before →
        ∃ row record, Saw before tenant workflowId record row binding ∧
          Workflows.SQLiteWorkflowStore.get platform tenant workflowId before =
            .ok (some record, before) := by
      intro before hevolves
      have hshows' := hshows.evolves (hevolves.advances hstored)
      obtain ⟨row, hrow⟩ := hshows'.holds
      obtain ⟨record, hrecord, hrecords⟩ := Workflows.get_stored (hstored.evolves hevolves) hrow
      exact ⟨row, record, ⟨hshows', hrow, hrecords⟩, hrecord⟩
    have hreturns : ∀ before, Evolves platform middle before → ∃ value next,
        Workflows.SQLiteWorkflowStore.get platform tenant workflowId before = .ok (value, next) := by
      intro before hevolves
      obtain ⟨_, record, -, hread⟩ := hheld before hevolves
      exact ⟨some record, before, hread⟩
    obtain ⟨before, value, next, hevolves, hbody, hlast⟩ := runs_transact_returns hreturns hrest
    obtain ⟨row, record, hsaw, hread⟩ := hheld before hevolves
    rw [hread] at hbody
    cases hbody
    obtain ⟨rfl, rfl⟩ := hlast
    exact ⟨hmiddle.trans hevolves, Or.inr ⟨record, row, binding, rfl, hsaw⟩⟩

/-- A workflow that is not shown. -/
def Unknown (tables : Tables) (tenant workflowId : String) {α : Type}
    (outcome : Except ApiError α) : Prop :=
  outcome = .error (.control notFound) ∧ ∀ binding, ¬ tables.Shows tenant workflowId binding

/-- What follows `saved_workflow` goes on with a workflow it saw. -/
theorem saved_bind {α : Type} {rest : WorkflowRecord → Route Tables α} {outcome : Except ApiError α}
    (h : tables.Stored platform)
    (hruns : (savedWorkflow platform tenant workflowId >>= rest).Runs (Evolves platform) tables
      outcome final) :
    (Evolves platform tables final ∧ Unknown tables tenant workflowId outcome) ∨
      ∃ middle record row binding, Evolves platform tables middle ∧
        Saw middle tenant workflowId record row binding ∧
        (rest record).Runs (Evolves platform) middle outcome final := by
  rcases runs_bind.mp hruns with ⟨record, middle, hsaved, hrest⟩ | ⟨failure, hsaved, rfl⟩
  · obtain ⟨hmiddle, ⟨hfailed, -⟩ | ⟨found, row, binding, hfound, hsaw⟩⟩ :=
      savedWorkflow_runs h hsaved
    · cases hfailed
    · obtain rfl := Except.ok.inj hfound
      exact Or.inr ⟨middle, record, row, binding, hmiddle, hsaw, hrest⟩
  · obtain ⟨hmiddle, ⟨hfailed, habsent⟩ | ⟨_, _, _, hfound, -⟩⟩ := savedWorkflow_runs h hsaved
    · rw [Except.error.inj hfailed]
      exact Or.inl ⟨hmiddle, rfl, habsent⟩
    · cases hfound

/-- What `summary` makes of a workflow and its binding. -/
def summaryOf (workflowId : String) (state : WorkflowState) (binding : Json) :
    Except ApiError Summary :=
  ((subscript binding "version").mapError .raised).map fun version =>
    ⟨workflowId, state, version, decide (state = .succeeded)⟩

/-- `summary` of a workflow whose binding was shown when it was seen. -/
theorem summary_runs {record : WorkflowRecord} {binding : Json} {outcome : Except ApiError Summary}
    (h : tables.Stored platform) (hshows : tables.Shows tenant record.id binding)
    (hruns : (summary tenant record).Runs (Evolves platform) tables outcome final) :
    Evolves platform tables final ∧ outcome = summaryOf record.id record.state binding := by
  unfold summary at hruns
  obtain ⟨middle, hmiddle, ⟨habsent, -⟩ | ⟨found, hfound, hrest⟩⟩ := getBinding_runs h hruns
  · exact absurd (hshows.evolves (hmiddle.advances h)) (habsent binding)
  · obtain rfl : found = binding :=
      ((hshows.evolves (hmiddle.advances h)).unique hfound).2
    dsimp only at hrest
    unfold summaryOf
    cases hversion : subscript found "version" with
    | ok version =>
        rw [hversion] at hrest
        obtain ⟨rfl, rfl⟩ := hrest
        exact ⟨hmiddle, rfl⟩
    | error error =>
        rw [hversion] at hrest
        obtain ⟨rfl, rfl⟩ := hrest
        exact ⟨hmiddle, rfl⟩

/-! ### Routes -/

/-- `status` answers with the state it read. -/
theorem status_runs {outcome : Except ApiError Summary} (h : tables.Stored platform)
    (hruns : (status platform tenant workflowId).Runs (Evolves platform) tables outcome final) :
    Evolves platform tables final ∧
      (Unknown tables tenant workflowId outcome ∨
        ∃ middle record row binding, Evolves platform tables middle ∧
          Evolves platform middle final ∧ Saw middle tenant workflowId record row binding ∧
          outcome = summaryOf workflowId row.state binding) := by
  rcases saved_bind h hruns with ⟨hfinal, hunknown⟩ | ⟨middle, record, row, binding, hmiddle, hsaw,
    hrest⟩
  · exact ⟨hfinal, Or.inl hunknown⟩
  · have hshows : middle.Shows tenant record.id binding := by
      rw [hsaw.records.id]
      exact hsaw.shows
    obtain ⟨hfinal, houtcome⟩ := summary_runs (h.evolves hmiddle) hshows hrest
    rw [hsaw.records.id, hsaw.records.state] at houtcome
    exact ⟨hmiddle.trans hfinal, Or.inr ⟨middle, record, row, binding, hmiddle, hfinal, hsaw,
      houtcome⟩⟩

/-- What `result` answers about a workflow it saw. -/
def servedOf (workflowId : String) (binding : Json) (result : Option Json) (report : Json) :
    Except ApiError Served :=
  (summaryOf workflowId .succeeded binding).map fun summary => ⟨summary, result, report⟩

/-- `result` answers with the payload and the report of an accepted workflow, and with a
conflict about every other. -/
theorem result_runs {outcome : Except ApiError Served} (h : tables.Stored platform)
    (hruns : (result platform tenant workflowId).Runs (Evolves platform) tables outcome final) :
    Evolves platform tables final ∧
      (Unknown tables tenant workflowId outcome ∨
        ∃ middle record row binding, Evolves platform tables middle ∧
          Evolves platform middle final ∧ Saw middle tenant workflowId record row binding ∧
          ((row.state ≠ .succeeded ∧ outcome = .error (.raised (.workflowConflict
              "Workflow has no accepted result"))) ∨
            ∃ report, row.state = .succeeded ∧ (middle.view workflowId).report = some report ∧
              report.get? "decision" = some (.str "accepted") ∧
              outcome = servedOf workflowId binding (middle.view workflowId).result report)) := by
  rcases saved_bind h hruns with ⟨hfinal, hunknown⟩ | ⟨middle, record, row, binding, hmiddle, hsaw,
    hrest⟩
  · exact ⟨hfinal, Or.inl hunknown⟩
  · have hstored := h.evolves hmiddle
    by_cases hstate : row.state = .succeeded
    · obtain ⟨report, hreport, hdecision⟩ :=
        Workflows.report_of_succeeded hstored hsaw.holds hstate
      have hserve : ¬ (record.state ≠ .succeeded ∨ record.validation = none) := by
        rw [hsaw.records.state, hsaw.records.validation, hreport]
        simp [hstate]
      rw [if_neg hserve] at hrest
      -- the workflow has ended, so the validation finds what was read before
      have hvalidated : ∀ before, Evolves platform middle before →
          Workflows.validate platform tenant workflowId none before = .ok (report, before) := by
        intro before hevolves
        have hadvances := hevolves.advances hstored
        have hfinal : Final row.state := by
          rw [hstate]
          decide
        obtain ⟨row', hrow', hended⟩ :=
          hsaw.holds.ended hstored.valid (hstored.evolves hevolves).valid hfinal hadvances
        obtain ⟨found, hvalidate, hsame, -⟩ := Workflows.validate_succeeded
          (hstored.evolves hevolves) hrow' (hended.state.trans hstate)
          (hsaw.shows.evolves hadvances)
        rw [hended.report, hreport, Option.some.injEq] at hsame
        rw [hsame]
        exact hvalidate
      obtain ⟨before, value, next, hevolves, hbody, hlast⟩ := runs_transact_returns
        (fun before hevolves => ⟨_, _, hvalidated before hevolves⟩) hrest
      rw [hvalidated before hevolves] at hbody
      cases hbody
      rw [Workflows.subscript_eq hdecision] at hlast
      rcases runs_bind.mp hlast with ⟨decision, state, hdone, hsummary⟩ | ⟨_, hdone, -⟩
      · obtain ⟨hvalue, hsame⟩ := hdone
        obtain rfl := Except.ok.inj hvalue
        subst hsame
        rw [if_neg (not_not_intro rfl)] at hsummary
        have hshows : state.Shows tenant record.id binding := by
          rw [hsaw.records.id]
          exact hsaw.shows.evolves (hevolves.advances hstored)
        rcases runs_bind.mp hsummary with ⟨value, state', hsummary, hpure⟩ | ⟨failure, hsummary, hfail⟩
        · obtain ⟨hfinal, houtcome⟩ := summary_runs (hstored.evolves hevolves) hshows hsummary
          obtain ⟨rfl, rfl⟩ := hpure
          refine ⟨hmiddle.trans (hevolves.trans hfinal), Or.inr ⟨middle, record, row, binding,
            hmiddle, hevolves.trans hfinal, hsaw, Or.inr ⟨report, hstate, hreport, hdecision, ?_⟩⟩⟩
          unfold servedOf
          rw [hsaw.records.id, hsaw.records.state, hstate] at houtcome
          rw [← houtcome, hsaw.records.result]
          rfl
        · obtain ⟨hfinal, houtcome⟩ := summary_runs (hstored.evolves hevolves) hshows hsummary
          refine ⟨hmiddle.trans (hevolves.trans hfinal), Or.inr ⟨middle, record, row, binding,
            hmiddle, hevolves.trans hfinal, hsaw, Or.inr ⟨report, hstate, hreport, hdecision, ?_⟩⟩⟩
          unfold servedOf
          rw [hsaw.records.id, hsaw.records.state, hstate] at houtcome
          rw [← houtcome, hfail]
          rfl
      · obtain ⟨hvalue, -⟩ := hdone
        cases hvalue
    · have hrefuse : record.state ≠ .succeeded ∨ record.validation = none := by
        rw [hsaw.records.state]
        exact Or.inl hstate
      rw [if_pos hrefuse] at hrest
      obtain ⟨rfl, rfl⟩ := hrest
      exact ⟨hmiddle, Or.inr ⟨final, record, row, binding, hmiddle,
        Machine.Reachable.refl final, hsaw, Or.inl ⟨hstate, rfl⟩⟩⟩

/-- A store call that a route makes is one of the ways the store evolves. -/
theorem evolves_call {call : Call} {answer : Workflows.Answer}
    (h : call.body platform tables = .ok (answer, final)) : Evolves platform tables final := by
  refine ⟨[call], ?_⟩
  show (commit (call.body platform) tables).2 = final
  rw [commit_of_ok h]

/-- `cancel` answers that the workflow is cancelled, or with a conflict. -/
theorem cancel_runs {outcome : Except ApiError Summary} (h : tables.Stored platform)
    (hruns : (cancel platform tenant workflowId).Runs (Evolves platform) tables outcome final) :
    Evolves platform tables final ∧
      (Unknown tables tenant workflowId outcome ∨
        ∃ middle row binding, Evolves platform tables middle ∧ Evolves platform middle final ∧
          middle.Shows tenant workflowId binding ∧ middle.Holds tenant workflowId row ∧
          ((row.state.isCancellable = false ∧ outcome = .error (.raised (.workflowConflict
              "Workflow cannot be cancelled"))) ∨
            (row.state.isCancellable = true ∧
              (∃ row', final.Holds tenant workflowId row' ∧ row'.state = .cancelled) ∧
              outcome = summaryOf workflowId .cancelled binding))) := by
  rcases saved_bind h hruns with ⟨hfinal, hunknown⟩ | ⟨middle, record, row, binding, hmiddle, hsaw,
    hrest⟩
  · exact ⟨hfinal, Or.inl hunknown⟩
  · have hstored := h.evolves hmiddle
    have hcancels : ∀ before, Evolves platform middle before → ∃ row next,
        before.Shows tenant workflowId binding ∧ before.Holds tenant workflowId row ∧
        Workflows.cancel tenant workflowId before = .ok (row.state.isCancellable, next) ∧
        (row.state.isCancellable = false → next = before) := by
      intro before hevolves
      have hshows := hsaw.shows.evolves (hevolves.advances hstored)
      obtain ⟨row', hrow'⟩ := hshows.holds
      obtain ⟨next, hcancel, hsame⟩ := Workflows.cancel_answers hrow'
      exact ⟨row', next, hshows, hrow', hcancel, hsame⟩
    have hreturns : ∀ before, Evolves platform middle before → ∃ value next,
        Workflows.cancel tenant workflowId before = .ok (value, next) := by
      intro before hevolves
      obtain ⟨_, next, -, -, hcancel, -⟩ := hcancels before hevolves
      exact ⟨_, next, hcancel⟩
    obtain ⟨before, value, next, hevolves, hbody, hlast⟩ := runs_transact_returns hreturns hrest
    obtain ⟨row', next', hshows, hrow', hcancel, hsame⟩ := hcancels before hevolves
    rw [hcancel] at hbody
    cases hbody
    have hbefore := hstored.evolves hevolves
    have hnext : Evolves platform before next := by
      apply @evolves_call platform before next (.cancel tenant workflowId)
      exact map_ok.mpr ⟨_, hcancel, rfl⟩
    cases hcancellable : row'.state.isCancellable with
    | false =>
        rw [hcancellable] at hlast
        obtain ⟨rfl, rfl⟩ := hlast
        exact ⟨(hmiddle.trans hevolves).trans hnext, Or.inr ⟨before, row', binding,
          hmiddle.trans hevolves, hnext, hshows, hrow', Or.inl ⟨hcancellable, rfl⟩⟩⟩
    | true =>
        rw [hcancellable] at hlast hcancel
        obtain ⟨ended, hended, hstate⟩ := Workflows.cancel_ends hcancel hrow'
        have hfinalState : Final ended.state := by
          rw [hstate]
          decide
        have hnextStored := hbefore.evolves hnext
        -- whatever is read after the cancellation is read of a cancelled workflow
        have hcancelled : ∀ state, Evolves platform next state →
            ∃ row', state.Holds tenant workflowId row' ∧ row'.state = .cancelled := by
          intro state hstateEvolves
          obtain ⟨later, hlater, hkept⟩ := hended.ended hnextStored.valid
            (hnextStored.evolves hstateEvolves).valid hfinalState (hstateEvolves.advances hnextStored)
          exact ⟨later, hlater, hkept.state.trans hstate⟩
        have hshowsNext := hshows.evolves (hnext.advances hbefore)
        rcases saved_bind hnextStored hlast with ⟨-, -, habsent⟩ | ⟨state, record', row'', binding',
          hstateEvolves, hsaw', hsummary⟩
        · exact absurd hshowsNext (habsent binding)
        · have hshows' := hshowsNext.evolves (hstateEvolves.advances hnextStored)
          have hid := hsaw'.records.id
          obtain ⟨later, hlater, hlaterState⟩ := hcancelled state hstateEvolves
          have hrowState : row''.state = .cancelled := by
            have hsameRow := hsaw'.holds.1.symm.trans hlater.1
            rw [Option.some.inj hsameRow]
            exact hlaterState
          obtain ⟨hfinal, houtcome⟩ := summary_runs (hnextStored.evolves hstateEvolves)
            (by rw [hid]; exact hshows') hsummary
          rw [hid, hsaw'.records.state, hrowState] at houtcome
          have hend := hstateEvolves.trans hfinal
          exact ⟨((hmiddle.trans hevolves).trans hnext).trans hend, Or.inr ⟨before, row',
            binding, hmiddle.trans hevolves, hnext.trans hend, hshows, hrow',
            Or.inr ⟨hcancellable, hcancelled final hend, houtcome⟩⟩⟩

/-! ### Creation -/

theorem printable_small {value : Int} (hlow : 0 ≤ value) (hhigh : value ≤ 100000) :
    printable (.int value) = true := by
  rw [Workflows.printable_int_iff]
  have hsize : value.natAbs < 10 ^ 6 := by omega
  exact hsize.trans_le (Nat.pow_le_pow_right (by omega) (by decide))

/-- The context tokens and the model are those that were asked for. -/
theorem requirements_asked {raw : Inference.RawRequirements}
    {requirements : Inference.RoutingRequirements}
    (h : Inference.RoutingRequirements.new raw = .ok requirements) :
    requirements.requiredContextTokens = raw.requiredContextTokens ∧
      requirements.requestedModel.map Subtype.val = raw.requestedModel := by
  unfold Inference.RoutingRequirements.new at h
  simp only [except_bind_ok] at h
  obtain ⟨requested, hrequested, required, -, h⟩ := h
  split_ifs at h
  simp only [except_bind_ok] at h
  obtain ⟨accelerator, -, topology, -, location, -, h⟩ := h
  rw [← Except.ok.inj h]
  refine ⟨rfl, ?_⟩
  show requested.map Subtype.val = raw.requestedModel
  unfold Inference.optionalText at hrequested
  cases hmodel : raw.requestedModel with
  | none =>
      rw [hmodel] at hrequested
      rw [← Except.ok.inj hrequested]
      rfl
  | some model =>
      rw [hmodel] at hrequested
      change (Inference.requireText model "requested_model").map some = _ at hrequested
      cases htext : Inference.requireText model "requested_model" with
      | error error =>
          rw [htext] at hrequested
          cases hrequested
      | ok text =>
          rw [htext] at hrequested
          rw [← Except.ok.inj hrequested]
          exact congrArg some (Inference.requireText_ok_iff.mp htext)

/-- What the packet of a prompt holds. -/
structure HoldsText (prompt model : String) (maxTokens : Int) (temperature : Decimal.Finite)
    (packet : Workflows.TaskPacket) : Prop where
  prompt : ∃ text : Inference.Text, packet.task.input = .text ⟨text⟩ ∧ text.1 = prompt
  model : packet.task.requirements.requestedModel.map Subtype.val = some model
  maxTokens : packet.task.generation.maxOutputTokens = some maxTokens
  temperature : packet.task.generation.temperature = .float (.finite temperature)

/-- The packet of a prompt within the bounds of the routes can be built and written. -/
theorem textPacket_total {prompt model : String} {maxTokens : Int} {temperature : Decimal.Finite}
    (traceId : Inference.Text) (hprompt : Text.isBlank prompt = false)
    (hmodel : Text.isBlank model = false) (htokens : 1 ≤ maxTokens ∧ maxTokens ≤ 32768)
    (hbounds : 0 ≤ temperature.toRat ∧ temperature.toRat ≤ 2) :
    ∃ packet, Workflows.textPacket prompt model maxTokens temperature traceId = .ok packet ∧
      packet.Storable ∧ HoldsText prompt model maxTokens temperature packet := by
  have hinput : Inference.TextInput.new prompt = .ok ⟨⟨prompt, hprompt⟩⟩ := by
    unfold Inference.TextInput.new Inference.requireText
    rw [dif_pos hprompt]
    rfl
  have hpositive : ∀ tokens ∈ some maxTokens, 1 ≤ tokens := by
    intro tokens htokens'
    rw [← Option.mem_some_iff.mp htokens']
    exact htokens.1
  have hrange : (Inference.Temperature.float (.finite temperature)).inRange = true := by
    show (decide (0 ≤ temperature.toRat) && decide (temperature.toRat ≤ 2)) = true
    rw [decide_eq_true hbounds.1, decide_eq_true hbounds.2]
    rfl
  have hgeneration : Inference.GenerationConfig.new (some maxTokens)
      (.float (.finite temperature)) = .ok ⟨_, _, hpositive, hrange⟩ := by
    unfold Inference.GenerationConfig.new
    rw [dif_pos hpositive, dif_pos hrange]
  obtain ⟨requirements, hrequirements⟩ := (@exists_requirements
    { Inference.RawRequirements.default with requestedModel := some model }
      Inference.noTokens_positive).mpr ⟨fun text htext => by
        rw [← Option.mem_some_iff.mp htext]
        exact hmodel, nofun, nofun, nofun, nofun⟩
  obtain ⟨trace, htrace⟩ : ∃ trace, Inference.TraceContext.new traceId.1 none = .ok trace := by
    obtain ⟨text, htext⟩ := (@exists_requireText traceId.1 "request_id").mpr traceId.2
    unfold Inference.TraceContext.new
    rw [htext]
    exact ⟨_, rfl⟩
  have haware : ∀ deadline ∈ (none : Option Datetime.DateTime), deadline.utcoffset.isSome = true := by
    intro deadline hdeadline
    cases hdeadline
  have htask : ∀ input generation, Inference.InferenceTask.new input generation requirements trace
      none = .ok ⟨input, generation, requirements, trace, none, haware⟩ :=
    fun _ _ => dif_pos haware
  refine ⟨⟨⟨.text ⟨⟨prompt, hprompt⟩⟩, ⟨_, _, hpositive, hrange⟩, requirements, trace, none,
    haware⟩, 1, rfl⟩, ?_, Workflows.TaskPacket.storable ?_ ?_ ?_, ⟨⟨⟨prompt, hprompt⟩, rfl, rfl⟩,
    (requirements_asked hrequirements).2, rfl, rfl⟩⟩
  · unfold Workflows.textPacket
    rw [hinput, except_ok_bind, hgeneration, except_ok_bind, hrequirements, except_ok_bind, htrace,
      except_ok_bind, htask, except_ok_bind]
    rfl
  · intro deadline hdeadline
    cases hdeadline
  · intro tokens htokens'
    rw [← Option.mem_some_iff.mp htokens']
    exact printable_small (by have := htokens.1; omega) (by have := htokens.2; omega)
  · intro tokens htokens'
    rw [(requirements_asked hrequirements).1] at htokens'
    cases htokens'

/-- The binding of a policy can always be made and written. -/
theorem binding_total (policy : WorkflowPolicy) : ∃ snapshot,
    Workflows.policySnapshot policy.acceptance.policy = .ok snapshot ∧
    policy.binding = .ok [("version", .str policy.version), ("policy", snapshot),
      ("budget", policy.budget.toDict)] ∧
    printable (.obj [("version", .str policy.version), ("policy", snapshot),
      ("budget", policy.budget.toDict)]) = true := by
  have hitems : ∀ texts : List String, printableItems (texts.map Json.str) = true := by
    intro texts
    induction texts with
    | nil => rfl
    | cons text rest ih =>
        rw [List.map_cons, printableItems, ih]
        rfl
  have hprintable : printable (Workflows.policyDict policy.acceptance.policy) = true := by
    have hmin : printable (.int policy.acceptance.minimumChars) = true :=
      printable_small policy.acceptance.bounded.1
        (policy.acceptance.bounded.2.trans policy.acceptance.limited.2)
    have hmax : printable (.int policy.acceptance.maximumChars) = true :=
      printable_small (by have := policy.acceptance.limited.1; omega) policy.acceptance.limited.2
    rw [printable] at hmin hmax
    unfold Workflows.policyDict Workflows.AcceptanceRules.policy
    simp only [printable, printableFields, hitems, hmin, hmax, Workflows.printable_optionalStr,
      Bool.and_self]
  have hsnapshot : Workflows.policySnapshot policy.acceptance.policy =
      .ok (canon (Workflows.policyDict policy.acceptance.policy)) := by
    rw [Workflows.policySnapshot_iff]
    refine ⟨⟨policy.acceptance.ascii, policy.acceptance.written, hprintable, ?_⟩, rfl⟩
    intro fields hfields
    cases hfields
  refine ⟨canon (Workflows.policyDict policy.acceptance.policy), hsnapshot, ?_, ?_⟩
  · unfold WorkflowPolicy.binding
    rw [hsnapshot]
    rfl
  · have hattempts : printable (.int policy.budget.maxAttempts) = true :=
      printable_small (by have := policy.budget.attempts.1; omega)
        (by have := policy.budget.attempts.2; omega)
    have htokens : printable (.int policy.budget.maxOutputTokens) = true :=
      printable_small (by have := policy.budget.outputTokens.1; omega)
        (by have := policy.budget.outputTokens.2; omega)
    rw [printable] at hattempts htokens
    unfold Workflows.WorkflowLimits.toDict
    simp only [printable, printableFields, printable_canon _ hprintable, hattempts, htokens,
      Bool.and_self]

/-- What a creation registers: the canonical texts of its packet and of its binding. -/
def request (tenant : String) (uuid5 : String → Inference.Text) (policy : WorkflowPolicy)
    (payload : CreateWorkflowRequest) : Except PyError (String × Option String) := do
  let name ← Workflows.canonicalJson (.arr [.str tenant, .str payload.idempotencyKey])
  let packet ← payload.packet (uuid5 name)
  let binding ← policy.binding
  Workflows.taskRequest packet (some binding)

/-- The text a creation is known by. -/
def requestText (tenant : String) (uuid5 : String → Inference.Text) (policy : WorkflowPolicy)
    (payload : CreateWorkflowRequest) : Except PyError String :=
  request tenant uuid5 policy payload >>= Workflows.taskText

/-- A binding that holds the version and the rules of a policy. -/
def Binds (policy : WorkflowPolicy) (binding : Json) : Prop :=
  subscript binding "version" = .ok (.str policy.version) ∧
    ∃ snapshot, Workflows.policySnapshot policy.acceptance.policy = .ok snapshot ∧
      subscript binding "policy" = .ok snapshot

/-- A creation within the limits of its policy and of the service. -/
def Fits (policy : WorkflowPolicy) (limits : InputLimits) (payload : CreateWorkflowRequest) : Prop :=
  payload.prompt.length ≤ limits.promptChars ∧
    payload.maxTokens ≤ min policy.budget.maxOutputTokens limits.generationTokens

/-- The parts of a creation. -/
theorem request_total (tenant : String) (uuid5 : String → Inference.Text) (policy : WorkflowPolicy)
    (payload : CreateWorkflowRequest) : ∃ name packet binding encoded text hashed shown,
      Workflows.canonicalJson (.arr [.str tenant, .str payload.idempotencyKey]) = .ok name ∧
      payload.packet (uuid5 name) = .ok packet ∧ policy.binding = .ok binding ∧
      Workflows.taskRequest packet (some binding) = .ok (encoded, some text) ∧
      Workflows.taskText (encoded, some text) = .ok hashed ∧
      requestText tenant uuid5 policy payload = .ok hashed ∧
      loads text = some shown ∧ Binds policy shown := by
  obtain ⟨name, hname⟩ := @Workflows.canonicalJson_printable
    (.arr [.str tenant, .str payload.idempotencyKey]) rfl
  obtain ⟨packet, hmade, hstorable, -⟩ := textPacket_total (uuid5 name) payload.promptText.2
    payload.modelText.2 payload.tokens payload.bounds
  have hpacket : payload.packet (uuid5 name) = .ok packet := hmade
  obtain ⟨snapshot, hsnapshot, hbinding, hprintable⟩ := binding_total policy
  obtain ⟨dict, hdict⟩ := hstorable.written
  obtain ⟨encoded, hencoded, -⟩ := Workflows.TaskPacket.toDict_text hdict
  obtain ⟨bound, hbound⟩ := Workflows.canonicalJson_printable hprintable
  have hfound : Workflows.taskRequest packet (some [("version", .str policy.version),
      ("policy", snapshot), ("budget", policy.budget.toDict)]) = .ok (encoded, some bound) := by
    have htext : Workflows.boundText (some [("version", .str policy.version), ("policy", snapshot),
        ("budget", policy.budget.toDict)]) = .ok (some bound) := by
      show (Workflows.canonicalJson _).map some = _
      rw [hbound]
      rfl
    unfold Workflows.taskRequest
    rw [hdict, except_ok_bind, hencoded, except_ok_bind, htext]
    rfl
  obtain ⟨hashed, hhashed⟩ := Workflows.taskText_total hfound
  refine ⟨name, packet, _, encoded, bound, hashed, _, hname, hpacket, hbinding, hfound, hhashed, ?_,
    loads_dumps (Workflows.canonicalJson_ok hbound), ?_⟩
  · unfold requestText request
    rw [hname, except_ok_bind, hpacket, except_ok_bind, hbinding, except_ok_bind, hfound,
      except_ok_bind, hhashed]
  · have hnodup : (keys [("version", Json.str policy.version), ("policy", snapshot),
        ("budget", policy.budget.toDict)]).Nodup := by
      show ["version", "policy", "budget"].Nodup
      decide
    have hcanonical : canon snapshot = snapshot := by
      rw [Workflows.policySnapshot_ok hsnapshot]
      exact canon_of_canonical _ (canon_canonical _)
    refine ⟨Workflows.subscript_eq ?_, snapshot, hsnapshot, Workflows.subscript_eq ?_⟩
    · rw [get?_canon hnodup]
      rfl
    · rw [get?_canon hnodup]
      exact congrArg some hcanonical

/-- A creation beyond the limits is refused. -/
theorem create_limited {uuid5 : String → Inference.Text} {policy : WorkflowPolicy}
    {limits : InputLimits} {payload : CreateWorkflowRequest} {uuid4 : String}
    (h : ¬ Fits policy limits payload) :
    create platform tenant uuid5 (some policy) limits payload uuid4 =
      Route.refuse limitExceeded := by
  unfold create
  dsimp only
  rw [if_pos]
  by_contra hwithin
  rw [not_or, Nat.not_lt, Int.not_lt] at hwithin
  exact h hwithin

/-- What the route computes is there, so a creation within the limits makes one call, and then
shows the status. -/
theorem create_calls (platform : Platform) (tenant : String) (uuid5 : String → Inference.Text)
    {policy : WorkflowPolicy} {limits : InputLimits} {payload : CreateWorkflowRequest}
    (hfits : Fits policy limits payload) : ∃ packet binding encoded text hashed shown,
      Workflows.taskRequest packet (some binding) = .ok (encoded, some text) ∧
      Workflows.taskText (encoded, some text) = .ok hashed ∧
      requestText tenant uuid5 policy payload = .ok hashed ∧
      loads text = some shown ∧ Binds policy shown ∧ ∀ uuid4,
        create platform tenant uuid5 (some policy) limits payload uuid4 =
          (Route.transact (Workflows.create platform tenant payload.idempotencyKey packet
            (some binding) uuid4) >>= fun id => status platform tenant id) := by
  obtain ⟨name, packet, binding, encoded, text, hashed, shown, hname, hpacket, hbinding, hfound,
    hhashed, htext, hloads, hbinds⟩ := request_total tenant uuid5 policy payload
  refine ⟨packet, binding, encoded, text, hashed, shown, hfound, hhashed, htext, hloads, hbinds, ?_⟩
  have hwithin : ¬ (limits.promptChars < payload.prompt.length ∨
      min policy.budget.maxOutputTokens limits.generationTokens < payload.maxTokens) := by
    rintro (hlong | hmany)
    · exact absurd hfits.1 (Nat.not_le.mpr hlong)
    · exact absurd hfits.2 (Int.not_le.mpr hmany)
  intro uuid4
  unfold create
  dsimp only
  rw [if_neg hwithin, hname]
  show (Route.compute (payload.packet (uuid5 name)) >>= _) = _
  rw [hpacket]
  show (Route.compute policy.binding >>= _) = _
  rw [hbinding]
  rfl

/-- How a creation is answered: by a conflict when its key stands for another request, by
a failure when the new identifier is taken, and else as a status of the workflow the key
stands for, which is bound to the policy unless it clashes with the request. -/
def CreationAnswered (platform : Platform) (tenant key hashed uuid4 : String)
    (policy : WorkflowPolicy) (before final : Tables) (outcome : Except ApiError Summary) : Prop :=
  (∃ id digest, before.Registered tenant key id digest ∧ digest ≠ platform.sha256 hashed ∧
      outcome = .error (.raised (.workflowConflict
        "Idempotency key conflicts with existing input")) ∧ final = before) ∨
    (before.Fresh tenant key ∧ before.workflows.find uuid4 ≠ none ∧
      outcome = .error (.raised .integrityError) ∧ final = before) ∨
    ∃ id next, Evolves platform before next ∧
      next.Registered tenant key id (platform.sha256 hashed) ∧
      ((∃ binding, next.Shows tenant id binding ∧ Binds policy binding) ∨
        next.Clashes platform id hashed) ∧
      (status platform tenant id).Runs (Evolves platform) next outcome final

theorem create_runs {uuid5 : String → Inference.Text} {policy : WorkflowPolicy}
    {limits : InputLimits} {payload : CreateWorkflowRequest} {uuid4 hashed : String}
    {outcome : Except ApiError Summary} (h : tables.Proven platform)
    (htenant : Workflows.isCanonicalId tenant = true) (hfits : Fits policy limits payload)
    (hhashed : requestText tenant uuid5 policy payload = .ok hashed)
    (hruns : (create platform tenant uuid5 (some policy) limits payload uuid4).Runs
      (Evolves platform) tables outcome final) :
    ∃ before, Evolves platform tables before ∧ CreationAnswered platform tenant
      payload.idempotencyKey hashed uuid4 policy before final outcome := by
  obtain ⟨packet, binding, encoded, text, hashed', shown, hfound, hhashed', htext, hloads, hbinds,
    hcalls⟩ := create_calls platform tenant uuid5 hfits
  obtain rfl : hashed' = hashed := Except.ok.inj (htext.symm.trans hhashed)
  have hkey : Workflows.isCanonicalId payload.idempotencyKey = true := by
    unfold Workflows.isCanonicalId
    have hwritten : payload.idempotencyKey ≠ "" := by
      intro hempty
      have hblank := payload.keyText.2.1
      rw [hempty] at hblank
      cases hblank
    rw [decide_eq_true hwritten, decide_eq_true payload.keyText.2.2]
    rfl
  have hcreate : Workflows.create platform tenant payload.idempotencyKey packet (some binding)
      uuid4 = Workflows.register platform tenant payload.idempotencyKey (encoded, some text)
        hashed' uuid4 := by
    rw [Workflows.create_eq htenant hkey, hfound, lift_ok_bind, hhashed', lift_ok_bind]
  have hroute : create platform tenant uuid5 (some policy) limits payload uuid4 =
      (Route.transact (Workflows.register platform tenant payload.idempotencyKey
        (encoded, some text) hashed' uuid4) >>= fun id => status platform tenant id) := by
    rw [hcalls, hcreate]
  have hcall : ∀ {before next id}, Workflows.register platform tenant payload.idempotencyKey
      (encoded, some text) hashed' uuid4 before = .ok (id, next) → Evolves platform before next := by
    intro before next id hregister
    rw [← hcreate] at hregister
    apply @evolves_call platform before next
      (.create tenant payload.idempotencyKey packet (some binding) uuid4)
    exact map_ok.mpr ⟨_, hregister, rfl⟩
  rw [hroute] at hruns
  obtain ⟨before, hbefore, hcase⟩ := runs_transact_bind.mp hruns
  refine ⟨before, hbefore, ?_⟩
  have hproven := h.evolves hbefore
  have hstored := hproven.stored
  by_cases hfresh : before.Fresh tenant payload.idempotencyKey
  · cases htaken : before.workflows.find uuid4 with
    | some row =>
        have hfailed := @Workflows.register_taken platform before tenant row
          payload.idempotencyKey hashed' uuid4 (encoded, some text) hfresh htaken
        rw [hfailed] at hcase
        obtain ⟨_, _, hbody, -⟩ | ⟨error, hbody, houtcome, hfinal⟩ := hcase
        · cases hbody
        · obtain rfl := Except.error.inj hbody
          exact Or.inr (Or.inl ⟨hfresh, by rw [htaken]; exact Option.some_ne_none row, houtcome,
            hfinal⟩)
    | none =>
        obtain ⟨next, hregister, hshows⟩ := @Workflows.register_fresh platform before tenant
          payload.idempotencyKey hashed' uuid4 encoded text shown hstored hfresh htaken hloads
        rw [hregister] at hcase
        obtain ⟨id, next', hbody, hrest⟩ | ⟨error, hbody, -⟩ := hcase
        · cases hbody
          exact Or.inr (Or.inr ⟨uuid4, next, hcall hregister, (Workflows.register_ok hregister).2,
            Or.inl ⟨shown, hshows, hbinds⟩, hrest⟩)
        · cases hbody
  · obtain ⟨entry, hentry, hsame⟩ := List.mem_map.mp (not_not.mp hfresh)
    have hregistered : before.Registered tenant payload.idempotencyKey entry.identity
        entry.digest := by
      unfold Tables.Registered
      rw [← hsame]
      exact hentry
    rw [Workflows.register_replay hstored.keys hregistered] at hcase
    by_cases hdigest : entry.digest = platform.sha256 hashed'
    · rw [if_pos hdigest] at hcase
      rw [hdigest] at hregistered
      obtain ⟨id, next, hbody, hrest⟩ | ⟨error, hbody, -⟩ := hcase
      · cases hbody
        have hbound : (∃ binding, before.Shows tenant entry.identity binding ∧
            Binds policy binding) ∨ before.Clashes platform entry.identity hashed' := by
          rcases hproven.digested.replayed hregistered hfound hhashed' hloads with
            hshows | hclashes
          · exact Or.inl ⟨shown, hshows, hbinds⟩
          · exact Or.inr hclashes
        exact Or.inr (Or.inr ⟨entry.identity, before, Machine.Reachable.refl before, hregistered,
          hbound, hrest⟩)
      · cases hbody
    · rw [if_neg hdigest] at hcase
      obtain ⟨id, next, hbody, -⟩ | ⟨error, hbody, houtcome, hfinal⟩ := hcase
      · cases hbody
      · obtain rfl := Except.error.inj hbody
        exact Or.inl ⟨entry.identity, entry.digest, hregistered, hdigest, houtcome, hfinal⟩

end WorkflowRoutes
end Api
end Ryuk
