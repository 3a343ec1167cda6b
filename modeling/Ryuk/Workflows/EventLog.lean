import Ryuk.Workflows.Invariants

/-!
# The event log of a workflow

The operations of the store append events by hand next to their updates.  `LogMatches` says
what an auditor reads off the log: without the markers it is a path through the states that
ends in the state and at the fence of the row, fences never decrease, and the two markers of
a dispatch stand in order between the running state and the next one.

The markers are tied to the journal: while a workflow runs, its log ends with the markers its
journal row accounts for (`Logged`).  Every transition keeps this, so it holds of every
reachable store.
-/

namespace Ryuk
namespace Workflows

open Foundation Foundation.Transaction Relation

/-! ### What a log says -/

/-- Which state may follow which in the log of a workflow. -/
def WorkflowState.Follows : WorkflowState → WorkflowState → Prop
  | .ready, next => next = .running ∨ next = .cancelled
  | .running, next =>
      next = .awaitingValidation ∨ next = .failed ∨ next = .uncertain ∨ next = .cancelled
  | .uncertain, next => next = .awaitingValidation ∨ next = .failed
  | .awaitingValidation, next => next = .succeeded ∨ next = .rejected ∨ next = .cancelled
  | .failed, _ | .succeeded, _ | .rejected, _ | .cancelled, _ => False

/-- Whether an event records a state. -/
def EventRow.isState (event : EventRow) : Bool :=
  match event.label with
  | .state _ => true
  | .dispatchStarted | .outcomeRecorded => false

/-- The log with the markers removed. -/
def stateEvents (log : List EventRow) : List EventRow := log.filter EventRow.isState

/-- One event records a state that the state of the other may follow. -/
def EventRow.Precedes (first second : EventRow) : Prop :=
  ∃ state next, first.label = .state state ∧ second.label = .state next ∧ state.Follows next

/-- The markers of a dispatch, in the order in which they are written. -/
def dispatchMarkers : List EventLabel := [.dispatchStarted, .outcomeRecorded]

/-- The log of a workflow matches its row. -/
structure LogMatches (log : List EventRow) (row : Option WorkflowRow) : Prop where
  absent : row = none → log = []
  first : ∀ event ∈ (stateEvents log).head?, event.label = .state .ready
  path : (stateEvents log).IsChain EventRow.Precedes
  last : ∀ found ∈ row, ∃ event, (stateEvents log).getLast? = some event ∧
    event.label = .state found.state ∧ event.fence = found.fence
  fences : log.Pairwise fun earlier later => earlier.fence ≤ later.fence
  markers : ∃ before marked after, log = before ++ marked ++ after ∧
    (∀ event ∈ before ++ after, event.isState = true) ∧
    marked.map EventRow.label <+: dispatchMarkers ∧
    (marked ≠ [] → ∃ event, before.getLast? = some event ∧ event.label = .state .running)

/-! ### The invariant of a view -/

/-- The markers a journal row accounts for. -/
def journalMarkers : Option DispatchRow → List EventLabel
  | none => []
  | some journal =>
      if journal.outcomeJson.isSome then dispatchMarkers else [.dispatchStarted]

/-- The log matches the row, and the markers of a run match the journal. -/
structure Logged (view : View) : Prop where
  log : LogMatches view.events view.row
  bounded : ∀ row ∈ view.row, ∀ event ∈ view.events, event.fence ≤ row.fence
  running : ∀ row ∈ view.row, row.state = .running →
    ∃ before marked, view.events = before ++ marked ∧ (∀ event ∈ before, event.isState = true) ∧
      marked.map EventRow.label = journalMarkers view.dispatch ∧
      ∃ event, before.getLast? = some event ∧ event.label = .state .running
  ready : ∀ row ∈ view.row, row.state = .ready → ∀ event ∈ view.events, event.isState = true

/-! ### Appending one event -/

/-- The event that goes with a row. -/
def WorkflowRow.event (row : WorkflowRow) (label : EventLabel) : EventRow :=
  ⟨row.id, row.tenant, label, row.fence⟩

section Append

variable {log : List EventRow} {row later : WorkflowRow} {view : View}

theorem stateEvents_state {event : EventRow} (h : event.isState = true) (log : List EventRow) :
    stateEvents (log ++ [event]) = stateEvents log ++ [event] := by
  simp [stateEvents, h]

theorem stateEvents_marker {event : EventRow} (h : event.isState = false) (log : List EventRow) :
    stateEvents (log ++ [event]) = stateEvents log := by
  simp [stateEvents, h]

/-- An event at a fence that bounds the log keeps the fences in order. -/
theorem fences_append {event : EventRow}
    (h : log.Pairwise fun earlier later => earlier.fence ≤ later.fence)
    (hbound : ∀ earlier ∈ log, earlier.fence ≤ event.fence) :
    (log ++ [event]).Pairwise fun earlier later => earlier.fence ≤ later.fence := by
  rw [List.pairwise_append]
  refine ⟨h, List.pairwise_singleton .., fun earlier hearlier found hfound => ?_⟩
  rw [List.mem_singleton.mp hfound]
  exact hbound earlier hearlier

/-- Recording the next state keeps the log and the row together. -/
theorem LogMatches.state (h : LogMatches log (some row))
    (hbound : ∀ event ∈ log, event.fence ≤ row.fence) (hfollows : row.state.Follows later.state)
    (hfence : row.fence ≤ later.fence) :
    LogMatches (log ++ [later.event (.state later.state)])
      (some later) := by
  obtain ⟨event, hlast, hlabel, -⟩ := h.last row rfl
  have hstates : stateEvents (log ++ [later.event (.state later.state)]) =
      stateEvents log ++ [later.event (.state later.state)] := stateEvents_state rfl log
  refine ⟨nofun, ?_, ?_, ?_, ?_, ?_⟩
  · -- the log has a state already, so its first one stays
    intro found hfound
    rw [hstates, List.head?_append_of_ne_nil] at hfound
    · exact h.first found hfound
    · intro hnil
      rw [hnil] at hlast
      cases hlast
  · rw [hstates, List.isChain_append]
    refine ⟨h.path, List.isChain_singleton _, fun found hfound next hnext => ?_⟩
    rw [hlast, Option.mem_some_iff] at hfound
    obtain rfl := hfound
    cases hnext
    exact ⟨row.state, later.state, hlabel, rfl, hfollows⟩
  · rintro found ⟨⟩
    rw [hstates]
    exact ⟨_, List.getLast?_concat, rfl, rfl⟩
  · exact fences_append h.fences fun event hevent => (hbound event hevent).trans hfence
  · obtain ⟨before, marked, after, hlog, hplain, hmarked, hrunning⟩ := h.markers
    refine ⟨before, marked, after ++ [later.event (.state later.state)], ?_, ?_, hmarked, hrunning⟩
    · simp only [hlog, List.append_assoc]
    · intro found hfound
      rw [← List.append_assoc, List.mem_append, List.mem_singleton] at hfound
      rcases hfound with hfound | rfl
      · exact hplain found hfound
      · rfl

/-- A transition to a state that is neither ready nor running. -/
theorem Logged.state (h : Logged view) (hrow : view.row = some row)
    (hfollows : row.state.Follows later.state) (hfence : row.fence ≤ later.fence)
    (hready : later.state ≠ .ready) (hrunning : later.state ≠ .running) {moved : View}
    (hmoved : moved.row = some later) (hevents : moved.events =
      view.events ++ [later.event (.state later.state)]) :
    Logged moved := by
  have hlog := h.log
  rw [hrow] at hlog
  refine ⟨?_, ?_, ?_, ?_⟩
  · rw [hmoved, hevents]
    exact hlog.state (h.bounded row hrow) hfollows hfence
  · intro found hfound event hevent
    rw [hmoved, Option.mem_some_iff] at hfound
    obtain rfl := hfound
    rw [hevents, List.mem_append, List.mem_singleton] at hevent
    rcases hevent with hevent | rfl
    · exact (h.bounded row hrow event hevent).trans hfence
    · exact le_refl _
  · intro found hfound hstate
    rw [hmoved, Option.mem_some_iff] at hfound
    obtain rfl := hfound
    exact absurd hstate hrunning
  · intro found hfound hstate
    rw [hmoved, Option.mem_some_iff] at hfound
    obtain rfl := hfound
    exact absurd hstate hready

/-- Recording a marker while the workflow runs. -/
theorem Logged.marker (h : Logged view) (hrow : view.row = some row)
    (hstate : row.state = .running) {label : EventLabel} {moved : View}
    (hmoved : moved.row = some row)
    (hevents : moved.events = view.events ++ [row.event label])
    (hlabel : (row.event label).isState = false)
    (hjournal : journalMarkers moved.dispatch = journalMarkers view.dispatch ++ [label])
    (hmarkers : journalMarkers moved.dispatch <+: dispatchMarkers) : Logged moved := by
  have hlog := h.log
  rw [hrow] at hlog
  obtain ⟨before, marked, hsplit, hplain, hmarked, hlast⟩ := h.running row hrow hstate
  have hnext : (marked ++ [row.event label]).map EventRow.label =
      journalMarkers moved.dispatch := by
    rw [List.map_append, hmarked, hjournal]
    rfl
  have hstates := stateEvents_marker hlabel view.events
  refine ⟨⟨?_, ?_, ?_, ?_, ?_, ?_⟩, ?_, ?_, ?_⟩
  · intro hnone
    rw [hmoved] at hnone
    cases hnone
  · rw [hevents, hstates]
    exact hlog.first
  · rw [hevents, hstates]
    exact hlog.path
  · rw [hmoved, hevents, hstates]
    exact hlog.last
  · rw [hevents]
    exact fences_append hlog.fences (h.bounded row hrow)
  · refine ⟨before, marked ++ [row.event label], [], ?_, ?_, hnext ▸ hmarkers, fun _ => hlast⟩
    · rw [hevents, hsplit, List.append_nil, List.append_assoc]
    · rw [List.append_nil]
      exact hplain
  · intro found hfound event hevent
    rw [hmoved, Option.mem_some_iff] at hfound
    obtain rfl := hfound
    rw [hevents, List.mem_append, List.mem_singleton] at hevent
    rcases hevent with hevent | rfl
    · exact h.bounded _ hrow event hevent
    · exact le_refl _
  · intro found hfound _
    refine ⟨before, marked ++ [row.event label], ?_, hplain, hnext, hlast⟩
    rw [hevents, hsplit, List.append_assoc]
  · intro found hfound hready
    rw [hmoved, Option.mem_some_iff] at hfound
    obtain rfl := hfound
    rw [hstate] at hready
    cases hready

end Append

/-! ### Every transition keeps the log -/

section Runs

variable {platform : Platform} {workflowId : String} {view : View} {tables : Tables}

theorem Logged.of_absent : Logged View.absent := by
  have hnone : ∀ row, row ∉ View.absent.row := by
    intro row hrow
    cases hrow
  refine ⟨⟨fun _ => rfl, ?_, List.isChain_nil, ?_, List.Pairwise.nil, ?_⟩, ?_, ?_, ?_⟩
  · intro event hevent
    cases hevent
  · intro row hrow
    exact absurd hrow (hnone row)
  · refine ⟨[], [], [], rfl, ?_, List.nil_prefix, fun h => absurd rfl h⟩
    intro event hevent
    cases hevent
  · intro row hrow
    exact absurd hrow (hnone row)
  · intro row hrow
    exact absurd hrow (hnone row)
  · intro row hrow
    exact absurd hrow (hnone row)

/-- The log of a workflow that was just created. -/
theorem Logged.created {row : WorkflowRow} {moved : View} (hstate : row.state = .ready)
    (hmoved : moved.row = some row) (hevents : moved.events = [row.event (.state .ready)]) :
    Logged moved := by
  have hplain : ∀ event ∈ moved.events, event.isState = true := by
    intro event hevent
    rw [hevents, List.mem_singleton] at hevent
    rw [hevent]
    rfl
  have hstates : stateEvents moved.events = [row.event (.state .ready)] := by
    rw [hevents]
    rfl
  refine ⟨⟨?_, ?_, ?_, ?_, ?_, ?_⟩, ?_, ?_, ?_⟩
  · intro hnone
    rw [hmoved] at hnone
    cases hnone
  · rw [hstates]
    rintro event ⟨⟩
    rfl
  · rw [hstates]
    exact List.isChain_singleton _
  · intro found hfound
    rw [hmoved, Option.mem_some_iff] at hfound
    obtain rfl := hfound
    rw [hstates]
    refine ⟨_, rfl, ?_, rfl⟩
    rw [hstate]
    rfl
  · rw [hevents]
    exact List.pairwise_singleton ..
  · refine ⟨moved.events, [], [], ?_, ?_, List.nil_prefix, fun h => absurd rfl h⟩
    · simp
    · rw [List.append_nil]
      exact hplain
  · intro found hfound event hevent
    rw [hmoved, Option.mem_some_iff] at hfound
    obtain rfl := hfound
    rw [hevents, List.mem_singleton] at hevent
    rw [hevent]
    exact le_refl _
  · intro found hfound hrunning
    rw [hmoved, Option.mem_some_iff] at hfound
    obtain rfl := hfound
    rw [hstate] at hrunning
    cases hrunning
  · intro found _ _
    exact hplain

/-- The log of a workflow that was just claimed: it has no marker yet. -/
theorem Logged.claimed {row later : WorkflowRow} {moved : View} (h : Logged view)
    (hrow : view.row = some row) (hstate : row.state = .ready)
    (hlater : later.state = .running) (hfence : row.fence ≤ later.fence)
    (hmoved : moved.row = some later) (hdispatch : moved.dispatch = none)
    (hevents : moved.events = view.events ++ [later.event (.state .running)]) :
    Logged moved := by
  have hlog := h.log
  rw [hrow] at hlog
  have hplain : ∀ event ∈ moved.events, event.isState = true := by
    intro event hevent
    rw [hevents, List.mem_append, List.mem_singleton] at hevent
    rcases hevent with hevent | rfl
    · exact h.ready row hrow hstate event hevent
    · rfl
  refine ⟨?_, ?_, ?_, ?_⟩
  · rw [hmoved, hevents, ← hlater]
    refine hlog.state (h.bounded row hrow) ?_ hfence
    rw [hstate, hlater]
    exact Or.inl rfl
  · intro found hfound event hevent
    rw [hmoved, Option.mem_some_iff] at hfound
    obtain rfl := hfound
    rw [hevents, List.mem_append, List.mem_singleton] at hevent
    rcases hevent with hevent | rfl
    · exact (h.bounded row hrow event hevent).trans hfence
    · exact le_refl _
  · intro found _ _
    refine ⟨moved.events, [], (List.append_nil _).symm, hplain, ?_, ?_⟩
    · rw [hdispatch]
      rfl
    · rw [hevents]
      exact ⟨_, List.getLast?_concat, rfl⟩
  · intro found _ _
    exact hplain

/-- **Step lemma.**  Every transition keeps the log and the row together. -/
theorem Step.logged {later : View} (hstep : Step platform workflowId view later)
    (hvalid : Valid platform workflowId view) (h : Logged view) : Logged later := by
  cases hstep with
  | create row binding habsent hid hstate hfence howner hlease hresult hartifact hbinding =>
      have hview := hvalid.absent habsent
      subst hview
      exact Logged.created hstate rfl rfl
  | @claim row owner expiry hrow hstate =>
      obtain ⟨-, -, hnone, -⟩ := hvalid.stage_of hrow hstate
      refine h.claimed hrow hstate rfl ?_ rfl hnone rfl
      change row.fence ≤ row.fence + 1
      omega
  | @beginDispatch row budget hrow hstate hnone =>
      refine h.marker hrow hstate rfl rfl rfl ?_ ⟨[.outcomeRecorded], rfl⟩
      rw [hnone]
      rfl
  | @recordOutcome row journal encoded succeeded hrow hstate hjournal hopen hobject =>
      refine h.marker hrow hstate rfl rfl rfl ?_ (List.prefix_refl _)
      have hstarted : journalMarkers view.dispatch = [.dispatchStarted] := by
        rw [hjournal, journalMarkers, hopen]
        rfl
      rw [hstarted]
      rfl
  | @complete row encoded succeeded artifactId hrow hstate hjournal hobject =>
      have hfence : row.fence ≤ (row.committed encoded succeeded artifactId).fence := le_refl _
      refine h.state hrow ?_ hfence ?_ ?_ rfl rfl
      · rw [hstate]
        change resultState succeeded = _ ∨ resultState succeeded = _ ∨ _
        cases succeeded <;> simp [resultState]
      · change resultState succeeded ≠ .ready
        cases succeeded <;> decide
      · change resultState succeeded ≠ .running
        cases succeeded <;> decide
  | @reconcile row journal encoded succeeded artifactId hrow hstate hjournal hholds hobject =>
      have hfence : row.fence ≤ (row.committed encoded succeeded artifactId).fence := le_refl _
      refine h.state hrow ?_ hfence ?_ ?_ rfl rfl
      · rw [hstate]
        change resultState succeeded = _ ∨ resultState succeeded = _
        cases succeeded <;> simp [resultState]
      · change resultState succeeded ≠ .ready
        cases succeeded <;> decide
      · change resultState succeeded ≠ .running
        cases succeeded <;> decide
  | @validate row artifact snapshot findings reportJson hrow hstate hmem hnamed hsource hbound
      hreport =>
      have hfence : row.fence ≤ (row.decided findings.isEmpty).fence := le_refl _
      refine h.state hrow ?_ hfence ?_ ?_ rfl rfl
      · rw [hstate]
        unfold WorkflowRow.decided
        cases findings.isEmpty with
        | true => exact Or.inl rfl
        | false => exact Or.inr (Or.inl rfl)
      · unfold WorkflowRow.decided
        cases findings.isEmpty <;> simp
      · unfold WorkflowRow.decided
        cases findings.isEmpty <;> simp
  | @cancel row hrow hstate =>
      refine h.state hrow ?_ ?_ ?_ ?_ rfl rfl
      · rcases hstate with hstate | hstate | hstate
        · rw [hstate]
          exact Or.inr rfl
        · rw [hstate]
          exact Or.inr (Or.inr (Or.inr rfl))
        · rw [hstate]
          exact Or.inr (Or.inr rfl)
      · change row.fence ≤ row.fence + 1
        omega
      · change WorkflowState.cancelled ≠ .ready
        decide
      · change WorkflowState.cancelled ≠ .running
        decide
  | @expire row hrow hstate =>
      refine h.state hrow ?_ ?_ ?_ ?_ rfl rfl
      · rw [hstate]
        exact Or.inr (Or.inr (Or.inl rfl))
      · change row.fence ≤ row.fence + 1
        omega
      · change WorkflowState.uncertain ≠ .ready
        decide
      · change WorkflowState.uncertain ≠ .running
        decide

/-- Every view of the tables matches its log. -/
def AllLogged (tables : Tables) : Prop := ∀ workflowId, Logged (tables.view workflowId)

theorem chain_logged {later : View}
    (hchain : ReflTransGen (Step platform workflowId) view later)
    (hvalid : Valid platform workflowId view) (h : Logged view) : Logged later := by
  induction hchain with
  | refl => exact h
  | tail hprior hstep ih => exact hstep.logged (chain_valid hprior hvalid) ih

theorem next_logged (call : Call) (hvalid : AllValid platform tables) (h : AllLogged tables) :
    AllLogged ((store platform).next tables call) :=
  fun workflowId => chain_logged (next_refines tables call workflowId) (hvalid workflowId)
    (h workflowId)

/-- **Run lemma.**  Along every run the logs match the rows. -/
theorem after_logged (calls : List Call) :
    AllLogged ((store platform).after Tables.empty calls) := by
  have hstep : ∀ tables call, AllValid platform tables ∧ AllLogged tables →
      AllValid platform ((store platform).next tables call) ∧
        AllLogged ((store platform).next tables call) :=
    fun tables call h => ⟨next_valid tables call h.1, next_logged call h.1 h.2⟩
  have hempty : AllValid platform Tables.empty ∧ AllLogged Tables.empty :=
    ⟨empty_valid, fun _ => Logged.of_absent⟩
  exact (Machine.after_invariant hstep hempty calls).2

/-- A call that raises adds no event. -/
def FailuresAreSilent (platform : Platform) (tables : Tables) : Prop :=
  ∀ call error, (store platform).answer tables call = .error error →
    ((store platform).next tables call).events = tables.events

/-- **The log is evidence.**  After any run of the store, the events of each workflow match
its row, and a call that raises adds no event to any log. -/
theorem event_log_matches_row (platform : Platform) (calls : List Call) :
    (∀ workflowId,
      LogMatches (((store platform).after Tables.empty calls).view workflowId).events
        (((store platform).after Tables.empty calls).view workflowId).row) ∧
    FailuresAreSilent platform ((store platform).after Tables.empty calls) := by
  constructor
  · intro workflowId
    exact (after_logged calls workflowId).log
  · intro call error h
    rw [next_of_error h]

end Runs

end Workflows
end Ryuk
