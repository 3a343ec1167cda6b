import Ryuk.Api.GraphRoutes

/-!
# What the graph routes answer

Every route is taken apart into the states of the store in which it read.  An answer that
shows no node ready, running or waiting for validation is the last word on its graph.
-/

namespace Ryuk
namespace Api
namespace GraphRoutes

open Foundation Foundation.Json Foundation.Transaction Foundation.Script
open Workflows (GraphResult GraphState GraphTables GraphsEvolve)

variable {platform : Platform} {tables later final : GraphTables} {tenant graphId : String}

/-! ### Reads -/

section Reads

variable {α : Type} {outcome : Except ApiError α}

/-- `get_graph_state` of a graph that is there, and what follows. -/
theorem getGraphState_runs {rest : Option GraphState → Route GraphTables α} {state : GraphState}
    (h : tables.Stored platform) (hholds : tables.Holds tenant graphId state)
    (hruns : (Route.transact (Workflows.getGraphState tenant graphId) >>= rest).Runs
      (GraphsEvolve platform) tables outcome final) :
    ∃ middle state', GraphsEvolve platform tables middle ∧ middle.Holds tenant graphId state' ∧
      (rest (some state')).Runs (GraphsEvolve platform) middle outcome final := by
  have hreturns : ∀ before, GraphsEvolve platform tables before →
      ∃ value next, Workflows.getGraphState tenant graphId before = .ok (value, next) := by
    intro before hevolves
    obtain ⟨state', hholds', -⟩ := hholds.evolves h hevolves
    exact ⟨_, _, hholds'.read⟩
  obtain ⟨before, value, next, hevolves, hbody, hrest⟩ := runs_transact_returns hreturns hruns
  obtain ⟨state', hholds', -⟩ := hholds.evolves h hevolves
  rw [hholds'.read] at hbody
  cases hbody
  exact ⟨before, state', hevolves, hholds', hrest⟩

/-- A graph that is not shown. -/
def Unknown (tables : GraphTables) (tenant graphId : String) (outcome : Except ApiError α) : Prop :=
  outcome = .error (.control notFound) ∧ ∀ binding, ¬ tables.Shows tenant graphId binding

/-- What follows `saved_graph` goes on with a graph that is shown. -/
theorem saved_bind {rest : GraphState → Route GraphTables α} (h : tables.Stored platform)
    (hruns : (savedGraph tenant graphId >>= rest).Runs (GraphsEvolve platform) tables outcome
      final) :
    (GraphsEvolve platform tables final ∧ Unknown tables tenant graphId outcome) ∨
      ∃ middle state binding, GraphsEvolve platform tables middle ∧
        middle.Shows tenant graphId binding ∧ middle.Holds tenant graphId state ∧
        (rest state).Runs (GraphsEvolve platform) middle outcome final := by
  unfold savedGraph at hruns
  have hreturns : ∀ before, GraphsEvolve platform tables before → ∃ value next,
      Workflows.SQLiteWorkflowStore.getGraphBinding tenant graphId before = .ok (value, next) := by
    intro before hevolves
    rcases Workflows.getGraphBinding_stored (h.evolves hevolves) tenant graphId with
      ⟨binding, -, hread⟩ | ⟨-, hread⟩
    · exact ⟨_, _, hread⟩
    · exact ⟨_, _, hread⟩
  rcases runs_bind.mp hruns with ⟨state, middle, hsaved, hrest⟩ | ⟨failure, hsaved, rfl⟩
  · obtain ⟨before, value, next, hevolves, hbody, hfound⟩ := runs_transact_returns hreturns hsaved
    have hstored := h.evolves hevolves
    rcases Workflows.getGraphBinding_stored hstored tenant graphId with
      ⟨binding, hshows, hread⟩ | ⟨-, hread⟩
    · rw [hread] at hbody
      cases hbody
      obtain ⟨held, hholds⟩ := hshows.holds hstored
      obtain ⟨last, state', hlast, hholds', hdone, rfl⟩ := getGraphState_runs hstored hholds hfound
      cases hdone
      exact Or.inr ⟨middle, state, binding, hevolves.trans hlast, hshows.evolves hstored hlast,
        hholds', hrest⟩
    · rw [hread] at hbody
      cases hbody
      obtain ⟨hdone, -⟩ := hfound
      cases hdone
  · obtain ⟨before, value, next, hevolves, hbody, hfound⟩ := runs_transact_returns hreturns hsaved
    have hstored := h.evolves hevolves
    rcases Workflows.getGraphBinding_stored hstored tenant graphId with
      ⟨binding, hshows, hread⟩ | ⟨hnone, hread⟩
    · rw [hread] at hbody
      cases hbody
      obtain ⟨held, hholds⟩ := hshows.holds hstored
      obtain ⟨last, state', hlast, hholds', hdone, -⟩ := getGraphState_runs hstored hholds hfound
      cases hdone
    · rw [hread] at hbody
      cases hbody
      obtain ⟨hdone, rfl⟩ := hfound
      rw [Except.error.inj hdone]
      exact Or.inl ⟨hevolves, rfl, fun binding hshows =>
        hnone binding (hshows.evolves h hevolves)⟩

/-- `summary` of a graph that is there shows the state it reads. -/
theorem summary_runs {outcome : Except ApiError Summary} {state : GraphState}
    (h : tables.Stored platform) (hholds : tables.Holds tenant graphId state)
    (hruns : (summary tenant graphId).Runs (GraphsEvolve platform) tables outcome final) :
    ∃ state', GraphsEvolve platform tables final ∧ final.Holds tenant graphId state' ∧
      outcome = .ok (summaryOf graphId state') := by
  unfold summary at hruns
  obtain ⟨middle, state', hmiddle, hholds', rfl, rfl⟩ := getGraphState_runs h hholds hruns
  exact ⟨state', hmiddle, hholds', rfl⟩

end Reads

/-! ### Routes -/

/-- The graph is shown, with a state, in a store between the start and the end of a request. -/
structure Saw (platform : Platform) (tables middle : GraphTables) (tenant graphId : String)
    (state : GraphState) : Prop where
  evolves : GraphsEvolve platform tables middle
  shows : ∃ binding, middle.Shows tenant graphId binding
  holds : middle.Holds tenant graphId state

/-- `status` answers with the state it read. -/
theorem status_runs {outcome : Except ApiError Summary} (h : tables.Stored platform)
    (hruns : (status tenant graphId).Runs (GraphsEvolve platform) tables outcome final) :
    GraphsEvolve platform tables final ∧ (Unknown tables tenant graphId outcome ∨
      ∃ state, Saw platform tables final tenant graphId state ∧
        outcome = .ok (summaryOf graphId state)) := by
  rcases saved_bind h hruns with ⟨hfinal, hunknown⟩ | ⟨middle, state, binding, hmiddle, hshows,
    hholds, hrest⟩
  · exact ⟨hfinal, Or.inl hunknown⟩
  · have hstored := h.evolves hmiddle
    obtain ⟨state', hfinal, hholds', houtcome⟩ := summary_runs hstored hholds hrest
    have hend := hmiddle.trans hfinal
    exact ⟨hend, Or.inr ⟨state', ⟨hend, ⟨binding, hshows.evolves hstored hfinal⟩, hholds'⟩,
      houtcome⟩⟩

/-- `cancel` always answers, with a state in which nothing is left to cancel. -/
theorem cancel_runs {outcome : Except ApiError Summary} (h : tables.Stored platform)
    (hruns : (cancel tenant graphId).Runs (GraphsEvolve platform) tables outcome final) :
    GraphsEvolve platform tables final ∧ (Unknown tables tenant graphId outcome ∨
      ∃ state, Saw platform tables final tenant graphId state ∧ state.Settled ∧
        outcome = .ok (summaryOf graphId state)) := by
  rcases saved_bind h hruns with ⟨hfinal, hunknown⟩ | ⟨middle, state, binding, hmiddle, hshows,
    hholds, hrest⟩
  · exact ⟨hfinal, Or.inl hunknown⟩
  · have hstored := h.evolves hmiddle
    have hreturns : ∀ before, GraphsEvolve platform middle before →
        ∃ value next, Workflows.cancelGraph tenant graphId before = .ok (value, next) := by
      intro before hevolves
      obtain ⟨state', hholds', -⟩ := hholds.evolves hstored hevolves
      obtain ⟨ended, next, hcancel, -⟩ :=
        Workflows.cancelGraph_settles (hstored.evolves hevolves) hholds'
      exact ⟨ended, next, hcancel⟩
    obtain ⟨before, value, next, hevolves, hbody, hlast⟩ := runs_transact_returns hreturns hrest
    have hbefore := hstored.evolves hevolves
    obtain ⟨state', hholds', -⟩ := hholds.evolves hstored hevolves
    obtain ⟨ended, next', hcancel, hnext, hended, hsettled⟩ :=
      Workflows.cancelGraph_settles hbefore hholds'
    rw [hcancel] at hbody
    cases hbody
    -- what the summary reads afterwards is the settled state
    have hnextStored := hbefore.evolves hnext
    obtain ⟨shown, hfinal, hshown, houtcome⟩ := summary_runs hnextStored hended hlast
    obtain rfl := (hended.frozen hnextStored hsettled hfinal).1.unique hshown
    have hrun := hevolves.trans (hnext.trans hfinal)
    have hend := hmiddle.trans hrun
    exact ⟨hend, Or.inr ⟨shown, ⟨hend, ⟨binding, hshows.evolves hstored hrun⟩, hshown⟩, hsettled,
      houtcome⟩⟩

/-- What `result` answers about a graph. -/
def servedOf (platform : Platform) (tables : GraphTables) (tenant graphId : String)
    (state : GraphState) : Except ApiError Served :=
  ((tables.published platform tenant graphId).mapError .raised).map fun results =>
    ⟨summaryOf graphId state, results.map (entryOf platform)⟩

/-- The reads of results return or raise a conflict; results are there only when the graph has
succeeded. -/
theorem published_cases {state : GraphState} (h : tables.Stored platform)
    (hholds : tables.Holds tenant graphId state) :
    (state.Succeeded ∧ ∃ results, tables.published platform tenant graphId = .ok results ∧
        Workflows.acceptedGraphResults platform tenant graphId tables = .ok (results, tables) ∧
        results.map Prod.fst = state.graph.sinks ∧
        ∀ result ∈ results, ∃ artifact, Workflows.GraphEvidence platform tables tenant
          (graphId, result.1) artifact result.2.1 result.2.2) ∨
      (¬ state.Succeeded ∧
        tables.published platform tenant graphId =
          .error (.workflowConflict "Workflow graph has no accepted result") ∧
        Workflows.acceptedGraphResults platform tenant graphId tables =
          .error (.workflowConflict "Workflow graph has no accepted result")) := by
  have houtcome := Workflows.acceptedGraphResults_outcome h.nodes h.graphs h.artifacts tenant graphId
  have hread : ∀ {found}, Workflows.getGraphState tenant graphId tables = .ok (found, tables) →
      found = some state := fun hget =>
    (Prod.mk.inj (Except.ok.inj (hget.symm.trans hholds.read))).1
  unfold GraphTables.published
  generalize Workflows.acceptedGraphResults platform tenant graphId tables = result at houtcome ⊢
  cases houtcome with
  | missing hget => cases hread hget
  | unaccepted hget hopen =>
      obtain rfl := Option.some.inj (hread hget)
      exact Or.inr ⟨hopen, rfl, rfl⟩
  | published hget hsucceeded hkeys hevidence =>
      obtain rfl := Option.some.inj (hread hget)
      exact Or.inl ⟨hsucceeded, _, rfl, rfl, hkeys, hevidence⟩

/-- `result` serves the results of a graph that has succeeded, and answers about every other
with a conflict. -/
theorem result_runs {outcome : Except ApiError Served} (h : tables.Stored platform)
    (hruns : (result platform tenant graphId).Runs (GraphsEvolve platform) tables outcome final) :
    GraphsEvolve platform tables final ∧ (Unknown tables tenant graphId outcome ∨
      ∃ middle state, Saw platform tables middle tenant graphId state ∧
        GraphsEvolve platform middle final ∧
        outcome = servedOf platform middle tenant graphId state) := by
  rcases saved_bind h hruns with ⟨hfinal, hunknown⟩ | ⟨middle, state, binding, hmiddle, hshows,
    hholds, hrest⟩
  · exact ⟨hfinal, Or.inl hunknown⟩
  · have hstored := h.evolves hmiddle
    obtain ⟨before, hevolves, hcase⟩ := runs_transact_bind.mp hrest
    have hbefore := hstored.evolves hevolves
    obtain ⟨state', hholds', -⟩ := hholds.evolves hstored hevolves
    have hsaw : Saw platform tables before tenant graphId state' :=
      ⟨hmiddle.trans hevolves, ⟨binding, hshows.evolves hstored hevolves⟩, hholds'⟩
    unfold servedOf
    rcases published_cases hbefore hholds' with ⟨hsucceeded, results, hpublished, hread, -⟩ |
      ⟨-, hpublished, hread⟩
    · obtain ⟨found, next, hbody, hlast⟩ | ⟨error, hbody, -, -⟩ := hcase
      · rw [hread] at hbody
        cases hbody
        rcases runs_bind.mp hlast with ⟨shown, last, hsummary, rfl, rfl⟩ | ⟨failure, hsummary, -⟩
        · obtain ⟨state'', hend, hshown, houtcome⟩ := summary_runs hbefore hholds' hsummary
          have hsettled := Workflows.GraphState.settled_of_terminal hsucceeded.terminal
          obtain rfl := (hholds'.frozen hbefore hsettled hend).1.unique hshown
          refine ⟨hsaw.evolves.trans hend, Or.inr ⟨before, state'', hsaw, hend, ?_⟩⟩
          rw [hpublished, Except.ok.inj houtcome]
          rfl
        · obtain ⟨_, -, -, houtcome⟩ := summary_runs hbefore hholds' hsummary
          cases houtcome
      · rw [hread] at hbody
        cases hbody
    · obtain ⟨found, next, hbody, -⟩ | ⟨error, hbody, houtcome, rfl⟩ := hcase
      · rw [hread] at hbody
        cases hbody
      · rw [hread] at hbody
        cases hbody
        refine ⟨hsaw.evolves, Or.inr ⟨final, state', hsaw, Machine.Reachable.refl final, ?_⟩⟩
        rw [houtcome, hpublished]
        rfl

/-! ### Settled graphs -/

/-- What every request about a settled graph is answered. -/
structure Settled (platform : Platform) (tenant graphId : String) (summary : Summary)
    (served : Except ApiError Served) (tables : GraphTables) : Prop where
  status : ∀ outcome final, (status tenant graphId).Runs (GraphsEvolve platform) tables outcome
    final → outcome = .ok summary
  cancel : ∀ outcome final, (cancel tenant graphId).Runs (GraphsEvolve platform) tables outcome
    final → outcome = .ok summary
  result : ∀ outcome final, (result platform tenant graphId).Runs (GraphsEvolve platform) tables
    outcome final → outcome = served
  others : ∀ other, other ≠ tenant →
    (∀ outcome final, (GraphRoutes.status other graphId).Runs (GraphsEvolve platform) tables outcome
      final → outcome = .error (.control notFound)) ∧
    (∀ outcome final, (GraphRoutes.cancel other graphId).Runs (GraphsEvolve platform) tables outcome
      final → outcome = .error (.control notFound)) ∧
    (∀ outcome final, (GraphRoutes.result platform other graphId).Runs (GraphsEvolve platform) tables
      outcome final → outcome = .error (.control notFound))

/-- A graph that is shown in a settled state is settled in every later store. -/
theorem settled_of_holds {state : GraphState} {binding : Json} (h : tables.Stored platform)
    (hshows : tables.Shows tenant graphId binding) (hholds : tables.Holds tenant graphId state)
    (hsettled : state.Settled) (hlater : GraphsEvolve platform tables later) :
    Settled platform tenant graphId (summaryOf graphId state)
      (servedOf platform tables tenant graphId state) later := by
  have hstored := h.evolves hlater
  have hthere := hshows.evolves h hlater
  -- whatever a request sees later is what is there now
  have hsame : ∀ {middle other state'}, Saw platform later middle other graphId state' →
      other = tenant ∧ (other = tenant → state' = state) := by
    intro middle other state' hsaw
    obtain ⟨_, hforeign⟩ := hsaw.shows
    refine ⟨(hthere.evolves hstored hsaw.evolves).own hforeign, ?_⟩
    rintro rfl
    exact (hholds.frozen h hsettled (hlater.trans hsaw.evolves)).1.unique hsaw.holds
  refine ⟨?_, ?_, ?_, ?_⟩
  · intro outcome final hruns
    obtain ⟨-, ⟨-, habsent⟩ | ⟨state', hsaw, houtcome⟩⟩ := status_runs hstored hruns
    · exact absurd hthere (habsent binding)
    · rw [houtcome, (hsame hsaw).2 rfl]
  · intro outcome final hruns
    obtain ⟨-, ⟨-, habsent⟩ | ⟨state', hsaw, -, houtcome⟩⟩ := cancel_runs hstored hruns
    · exact absurd hthere (habsent binding)
    · rw [houtcome, (hsame hsaw).2 rfl]
  · intro outcome final hruns
    obtain ⟨-, ⟨-, habsent⟩ | ⟨middle, state', hsaw, -, houtcome⟩⟩ := result_runs hstored hruns
    · exact absurd hthere (habsent binding)
    · obtain rfl := (hsame hsaw).2 rfl
      have hfrozen := Workflows.published_frozen h hholds hsettled (hlater.trans hsaw.evolves)
      have hpublished : middle.published platform tenant graphId =
          tables.published platform tenant graphId := by
        show (Workflows.acceptedGraphResults platform tenant graphId middle).map Prod.fst = _
        rw [hfrozen]
        cases tables.published platform tenant graphId with
        | ok results => rfl
        | error error => rfl
      rw [houtcome]
      unfold servedOf
      rw [hpublished]
  · intro other hother
    refine ⟨?_, ?_, ?_⟩
    · intro outcome final hruns
      obtain ⟨-, ⟨houtcome, -⟩ | ⟨state', hsaw, -⟩⟩ := status_runs hstored hruns
      · exact houtcome
      · exact absurd (hsame hsaw).1 hother
    · intro outcome final hruns
      obtain ⟨-, ⟨houtcome, -⟩ | ⟨state', hsaw, -⟩⟩ := cancel_runs hstored hruns
      · exact houtcome
      · exact absurd (hsame hsaw).1 hother
    · intro outcome final hruns
      obtain ⟨-, ⟨houtcome, -⟩ | ⟨middle, state', hsaw, -⟩⟩ := result_runs hstored hruns
      · exact houtcome
      · exact absurd (hsame hsaw).1 hother

/-- The aggregate of a graph is success exactly when all its nodes have succeeded. -/
theorem summaryOf_succeeded {state : GraphState} :
    (summaryOf graphId state).state = .succeeded ↔ state.Succeeded := by
  unfold summaryOf
  constructor
  · intro hstate pair hpair
    dsimp only at hstate
    split_ifs at hstate with hterminal hall
    exact of_decide_eq_true (List.all_eq_true.mp hall pair hpair)
  · intro hsucceeded
    have hall : (state.nodeStates.all fun pair => decide (pair.2 = .succeeded)) = true :=
      List.all_eq_true.mpr fun pair hpair => decide_eq_true (hsucceeded pair hpair)
    show (if state.terminal then if state.nodeStates.all fun pair => decide (pair.2 = .succeeded)
      then Aggregate.succeeded else .completedWithFailures else .active) = .succeeded
    rw [if_pos hsucceeded.terminal, if_pos hall]

/-- What is served of a graph in one of its states: its summary, and for each sink of the graph,
in their order, the artifact that was accepted for it, with its report. -/
structure Serves (platform : Platform) (tables : GraphTables) (tenant graphId : String)
    (state : GraphState) (value : Served) : Prop where
  summary : value.summary = summaryOf graphId state
  sinks : value.results.map Prod.fst = state.graph.sinks
  accepted : ∀ entry ∈ value.results, ∃ artifact stored report,
    Workflows.GraphEvidence platform tables tenant (graphId, entry.1) artifact stored report ∧
      entry = (entry.1, stored.payload, report) ∧
      report.get? "decision" = some (.str "accepted")

/-- What is served of a graph: the results of its sinks when it has succeeded. -/
theorem servedOf_cases {state : GraphState} (h : tables.Stored platform)
    (hholds : tables.Holds tenant graphId state) :
    ((servedOf platform tables tenant graphId state).isOk = true ↔ state.Succeeded) ∧
      ∀ value, servedOf platform tables tenant graphId state = .ok value →
        Serves platform tables tenant graphId state value := by
  unfold servedOf
  rcases published_cases h hholds with ⟨hsucceeded, results, hpublished, -, hkeys, hevidence⟩ |
    ⟨hopen, hpublished, -⟩
  · rw [hpublished]
    refine ⟨⟨fun _ => hsucceeded, fun _ => rfl⟩, ?_⟩
    intro value hvalue
    rw [← Except.ok.inj hvalue]
    refine ⟨rfl, ?_, ?_⟩
    · rw [← hkeys]
      show (results.map (entryOf platform)).map Prod.fst = results.map Prod.fst
      rw [List.map_map]
      rfl
    · intro entry hentry
      obtain ⟨result, hresult, rfl⟩ := List.mem_map.mp hentry
      obtain ⟨artifact, hfound⟩ := hevidence result hresult
      exact ⟨artifact, result.2.1, result.2.2, hfound, rfl, hfound.accepts⟩
  · rw [hpublished]
    refine ⟨⟨fun hok => ?_, fun hsucceeded => absurd hsucceeded hopen⟩, ?_⟩
    · cases hok
    · intro value hvalue
      cases hvalue

/-- A request was told of a graph with nothing left to cancel, and perhaps its results. -/
inductive ToldLast (platform : Platform) (tenant graphId : String) (tables final : GraphTables) :
    Summary → Option Served → Prop
  | status {summary : Summary}
      (hruns : (status tenant graphId).Runs (GraphsEvolve platform) tables (.ok summary) final)
      (hsettled : ∀ pair ∈ summary.nodes, pair.2.isCancellable = false) :
      ToldLast platform tenant graphId tables final summary none
  | cancelled {summary : Summary}
      (hruns : (cancel tenant graphId).Runs (GraphsEvolve platform) tables (.ok summary) final) :
      ToldLast platform tenant graphId tables final summary none
  | served {served : Served}
      (hruns : (result platform tenant graphId).Runs (GraphsEvolve platform) tables (.ok served)
        final) : ToldLast platform tenant graphId tables final served.summary (some served)

/-- **The last word.**  Once a cancellation was answered, or a result, or a status in which no
node is ready, running or waiting for validation, every later request about the graph is
answered alike, whatever happens in between: status and cancellation by the same summary, even
while nodes are uncertain or blocked for ever, and the result by one answer.  The summary is that
of a state the graph had during the request, and the answer serves the accepted results of
exactly the sinks of that graph if all nodes have succeeded, and is a failure otherwise. -/
def LastWords (platform : Platform) : Prop :=
  ∀ tables, GraphsEvolve platform GraphTables.empty tables →
    ∀ tenant graphId final summary told,
      ToldLast platform tenant graphId tables final summary told →
      ∃ middle state, GraphsEvolve platform tables middle ∧ GraphsEvolve platform middle final ∧
        middle.Holds tenant graphId state ∧ summary = summaryOf graphId state ∧
        ∃ served : Except ApiError Served, (∀ value ∈ told, served = .ok value) ∧
          (served.isOk = true ↔ summary.state = .succeeded) ∧
          (∀ value, served = .ok value → Serves platform middle tenant graphId state value ∧
            ∀ nodeId ∈ value.results.map Prod.fst, (nodeId, .succeeded) ∈ summary.nodes) ∧
          ∀ later, GraphsEvolve platform final later →
            Settled platform tenant graphId summary served later

/-- What a request was told was in the store, settled. -/
theorem ToldLast.seen {summary : Summary} {told : Option Served} (h : tables.Stored platform)
    (htold : ToldLast platform tenant graphId tables final summary told) :
    ∃ middle state, Saw platform tables middle tenant graphId state ∧ state.Settled ∧
      GraphsEvolve platform middle final ∧ summary = summaryOf graphId state ∧
      ∀ value ∈ told, servedOf platform middle tenant graphId state = .ok value := by
  cases htold with
  | status hruns hsettled =>
      obtain ⟨-, ⟨hfailed, -⟩ | ⟨state, hsaw, houtcome⟩⟩ := status_runs h hruns
      · cases hfailed
      · have hsummary := Except.ok.inj houtcome
        rw [hsummary] at hsettled
        exact ⟨final, state, hsaw, hsettled, Machine.Reachable.refl final, hsummary, nofun⟩
  | cancelled hruns =>
      obtain ⟨-, ⟨hfailed, -⟩ | ⟨state, hsaw, hsettled, houtcome⟩⟩ := cancel_runs h hruns
      · cases hfailed
      · exact ⟨final, state, hsaw, hsettled, Machine.Reachable.refl final, Except.ok.inj houtcome,
          nofun⟩
  | @served told hruns =>
      obtain ⟨-, ⟨hfailed, -⟩ | ⟨middle, state, hsaw, hend, houtcome⟩⟩ := result_runs h hruns
      · cases hfailed
      · obtain ⟨hok, hvalue⟩ := servedOf_cases (h.evolves hsaw.evolves) hsaw.holds
        have hsucceeded : state.Succeeded := by
          rw [← hok, ← houtcome]
          rfl
        refine ⟨middle, state, hsaw, ?_, hend, (hvalue told houtcome.symm).summary, ?_⟩
        · exact Workflows.GraphState.settled_of_terminal hsucceeded.terminal
        · intro value hmem
          rw [← Option.some.inj hmem]
          exact houtcome.symm

theorem last_words (platform : Platform) : LastWords platform := by
  intro tables hreachable tenant graphId final summary told htold
  have hstored := Workflows.graphReachable_stored hreachable
  obtain ⟨middle, state, hsaw, hsettled, hend, rfl, hserved⟩ := htold.seen hstored
  have hmiddle := hstored.evolves hsaw.evolves
  obtain ⟨binding, hshows⟩ := hsaw.shows
  obtain ⟨hok, hvalue⟩ := servedOf_cases hmiddle hsaw.holds
  refine ⟨middle, state, hsaw.evolves, hend, hsaw.holds, rfl,
    servedOf platform middle tenant graphId state, hserved, ?_, ?_, ?_⟩
  · rw [hok, summaryOf_succeeded]
  · intro value hmade
    have hserves := hvalue value hmade
    refine ⟨hserves, fun nodeId hmem => ?_⟩
    rw [hserves.sinks] at hmem
    have hsucceeded := hok.mp (by rw [hmade]; rfl)
    exact state.statesOf_iff.mp (hsucceeded.statesOf (Workflows.mem_sinks.mp hmem).1)
  · intro later hlater
    exact settled_of_holds hmiddle hshows hsaw.holds hsettled (hend.trans hlater)

end GraphRoutes
end Api
end Ryuk
