import Ryuk.Workflows.Executor
import Ryuk.Workflows.Invariants

/-!
# Crash consistency of the executor

Over every interleaving of executions, crashes, recoveries and other store calls:
an execution that is about to call the router is the only one that ever journaled
the dispatch of its workflow, and what was recorded in the journal decides how the
workflow ends.
-/

namespace Ryuk
namespace Workflows

open Foundation Foundation.Json Foundation.Datetime Foundation.Transaction

variable {platform : Platform} {tables final : Tables} {system : System} {workflowId : String}
  {view : View}

/-! ### What a store call leaves alone -/

/-- Whether a call records an outcome of a workflow. -/
def Call.records (workflowId : String) : Call → Bool
  | .recordOutcome _ target _ _ _ _ _ => decide (target = workflowId)
  | _ => false

/-- Whether a call validates a workflow. -/
def Call.validates (workflowId : String) : Call → Bool
  | .validate _ target _ => decide (target = workflowId)
  | _ => false

/-- A part of the views that the new view of the moved workflow keeps is kept for
every workflow. -/
theorem Moves.frame {α : Type} {moved : String} {view : View} (h : Moves tables final moved view)
    (field : View → α) (hfield : field view = field (tables.view moved)) (workflowId : String) :
    field (final.view workflowId) = field (tables.view workflowId) := by
  by_cases hself : workflowId = moved
  · rw [hself, h.self, hfield]
  · rw [h.others workflowId hself]

theorem lapsed_kept (selected : WorkflowRow → Bool) (view : View) :
    (view.lapsed selected).dispatch = view.dispatch ∧
      (view.lapsed selected).validation = view.validation := by
  unfold View.lapsed
  cases view.row with
  | none => exact ⟨rfl, rfl⟩
  | some row =>
      by_cases hselected : selected row = true
      · simp only [hselected, if_true, View.moved, and_self]
      · simp only [hselected, Bool.false_eq_true, if_false, and_self]

theorem resolved_kept (platform : Platform) (uuid4 : String) (view : View) :
    (view.resolved platform uuid4).dispatch = view.dispatch ∧
      (view.resolved platform uuid4).validation = view.validation := by
  unfold View.resolved
  cases view.row with
  | none => exact ⟨rfl, rfl⟩
  | some row =>
      by_cases hstate : row.state = .uncertain
      · simp only [hstate, if_true]
        unfold View.settled
        cases view.verdict platform row with
        | inl outcome => exact ⟨rfl, rfl⟩
        | inr reason => exact ⟨rfl, rfl⟩
      · simp only [hstate, if_false, and_self]

/-- Only recording an outcome changes a journal row that exists, and only
validating adds a report. -/
theorem call_frame {call : Call} {answer : Answer}
    (h : call.body platform tables = .ok (answer, final)) (workflowId : String) :
    (call.records workflowId = false → ∀ journal, (tables.view workflowId).dispatch = some journal →
        (final.view workflowId).dispatch = some journal) ∧
      (call.validates workflowId = false →
        (final.view workflowId).validation = (tables.view workflowId).validation) := by
  cases call with
  | create tenant key packet binding uuid4 =>
      obtain ⟨id, hcreate, -⟩ := map_ok.mp h
      rcases create_ok hcreate with rfl | ⟨digest, encoded, bound, -, -, -, hmoves⟩
      · exact ⟨fun _ _ hjournal => hjournal, fun _ => rfl⟩
      · exact ⟨fun _ _ hjournal => (hmoves.frame View.dispatch rfl workflowId).trans hjournal,
          fun _ => hmoves.frame View.validation rfl workflowId⟩
  | claim tenant target owner leaseSeconds now =>
      obtain ⟨fence, hclaim, -⟩ := map_ok.mp h
      obtain ⟨row, expiry, -, -, -, -, hmoves⟩ := claim_ok hclaim
      exact ⟨fun _ _ hjournal => (hmoves.frame View.dispatch rfl workflowId).trans hjournal,
        fun _ => hmoves.frame View.validation rfl workflowId⟩
  | beginDispatch tenant target owner fence budget now =>
      obtain ⟨_, hbegin, -⟩ := map_ok.mp h
      obtain ⟨row, encoded, -, -, -, -, -, hnone, hmoves⟩ := beginDispatch_ok hbegin
      refine ⟨fun _ journal hjournal => ?_, fun _ => hmoves.frame View.validation rfl workflowId⟩
      have hother : workflowId ≠ target := by
        rintro rfl
        rw [hnone] at hjournal
        cases hjournal
      rw [hmoves.others workflowId hother, hjournal]
  | recordOutcome tenant target owner fence result succeeded now =>
      obtain ⟨_, hrecord, -⟩ := map_ok.mp h
      obtain ⟨row, journal, encoded, -, -, -, -, -, -, -, -, hcase⟩ := recordOutcome_ok hrecord
      rcases hcase with ⟨-, rfl⟩ | ⟨-, hmoves⟩
      · exact ⟨fun _ _ hjournal => hjournal, fun _ => rfl⟩
      · refine ⟨fun hrecords found hfound => ?_,
          fun _ => hmoves.frame View.validation rfl workflowId⟩
        have hother : workflowId ≠ target := by
          rintro rfl
          simp [Call.records] at hrecords
        rw [hmoves.others workflowId hother, hfound]
  | complete tenant target owner fence result succeeded now uuid4 =>
      obtain ⟨ref, hcomplete, -⟩ := map_ok.mp h
      obtain ⟨row, encoded, -, -, -, -, -, -, -, -, hmoves⟩ := complete_ok hcomplete
      exact ⟨fun _ _ hjournal => (hmoves.frame View.dispatch rfl workflowId).trans hjournal,
        fun _ => hmoves.frame View.validation rfl workflowId⟩
  | reconcileUncertain tenant target uuid4 =>
      obtain ⟨state, hreconcile, -⟩ := map_ok.mp h
      obtain ⟨row, -, -, hcase⟩ := reconcileUncertain_ok hreconcile
      rcases hcase with ⟨rfl, -⟩ | ⟨journal, encoded, -, -, -, -, -, hmoves⟩
      · exact ⟨fun _ _ hjournal => hjournal, fun _ => rfl⟩
      · exact ⟨fun _ _ hjournal => (hmoves.frame View.dispatch rfl workflowId).trans hjournal,
          fun _ => hmoves.frame View.validation rfl workflowId⟩
  | validate tenant target policy =>
      obtain ⟨report, hvalidate, -⟩ := map_ok.mp h
      rcases validate_ok hvalidate with ⟨rfl, -⟩ | ⟨row, artifact, snapshot, findings, reportJson,
        -, -, -, -, -, -, -, -, -, hmoves⟩
      · exact ⟨fun _ _ hjournal => hjournal, fun _ => rfl⟩
      · refine ⟨fun _ _ hjournal => (hmoves.frame View.dispatch rfl workflowId).trans hjournal,
          fun hvalidates => ?_⟩
        have hother : workflowId ≠ target := by
          rintro rfl
          simp [Call.validates] at hvalidates
        rw [hmoves.others workflowId hother]
  | cancel tenant target =>
      obtain ⟨_, hcancel, -⟩ := map_ok.mp h
      rcases cancel_ok hcancel with rfl | ⟨row, -, -, -, hmoves⟩
      · exact ⟨fun _ _ hjournal => hjournal, fun _ => rfl⟩
      · exact ⟨fun _ _ hjournal => (hmoves.frame View.dispatch rfl workflowId).trans hjournal,
          fun _ => hmoves.frame View.validation rfl workflowId⟩
  | recoverExpired tenant now =>
      obtain ⟨count, hrecover, -⟩ := map_ok.mp h
      obtain ⟨current, hviews⟩ := recoverExpired_ok hrecover
      rw [hviews workflowId]
      obtain ⟨hdispatch, hvalidation⟩ := lapsed_kept (fun row =>
        decide (row.tenant = tenant) && expiredAt current.isoformat row) (tables.view workflowId)
      exact ⟨fun _ _ hjournal => hdispatch.trans hjournal, fun _ => hvalidation⟩
  | recoverStartup limit now uuid4 =>
      obtain ⟨report, hrecover, -⟩ := map_ok.mp h
      obtain ⟨current, -, -, -, -, -, hviews, -⟩ := recoverStartup_ok hrecover
      rw [hviews workflowId]
      unfold View.recovered
      obtain ⟨hdispatch, hvalidation⟩ := lapsed_kept (expiredAt current.isoformat)
        (tables.view workflowId)
      obtain ⟨hdispatch', hvalidation'⟩ := resolved_kept platform (uuid4 workflowId)
        ((tables.view workflowId).lapsed (expiredAt current.isoformat))
      exact ⟨fun _ _ hjournal => (hdispatch'.trans hdispatch).trans hjournal,
        fun _ => hvalidation'.trans hvalidation⟩

/-! ### Steps of an execution -/

theorem Worker.proceed_arguments (worker : Worker) (action : Action) :
    (worker.proceed action).workflowId = worker.workflowId := by
  unfold Worker.proceed
  split
  · rfl
  · rfl
  · rfl

/-- Whether an execution has journaled its dispatch and not yet called the router. -/
def Progress.isDispatched : Progress → Bool
  | .dispatched _ => true
  | _ => false

/-- No step that leaves the store alone leads to the router call. -/
theorem Worker.dispatched_of_proceed (worker : Worker) {action : Action}
    (h : (worker.proceed action).progress.isDispatched = true) :
    worker.progress.isDispatched = true := by
  unfold Worker.proceed at h
  split at h
  · next fence outcome use hprogress =>
      rw [hprogress]
      rfl
  · cases h
  · exact h

/-- A store call that leads to the router call is the first dispatch of the
workflow. -/
theorem Worker.dispatched_of_resume (worker : Worker) {action : Action} {call : Call}
    (hcall : worker.call action = some call)
    (h : (worker.resume ((store platform).answer tables call)).progress.isDispatched = true) :
    (tables.view worker.workflowId).dispatch = none ∧
      ∃ journal, (((store platform).next tables call).view worker.workflowId).dispatch =
        some journal := by
  unfold Worker.call at hcall
  unfold Worker.resume at h
  split at hcall
  · next hprogress =>
      simp only [hprogress] at h
      split at h <;> simp_all [Progress.isDispatched]
  · next fence budget now hprogress =>
      obtain rfl := Option.some.inj hcall
      cases hanswer : (store platform).answer tables (.beginDispatch worker.tenant
          worker.workflowId worker.owner fence budget.toDict now) with
      | error error => simp [hprogress, hanswer, Progress.isDispatched] at h
      | ok answer =>
          obtain ⟨_, hbegin, -⟩ := map_ok.mp (body_of_answer hanswer)
          obtain ⟨row, encoded, -, -, -, -, -, hnone, hmoves⟩ := beginDispatch_ok hbegin
          refine ⟨hnone, ?_⟩
          rw [hmoves.self]
          exact ⟨_, rfl⟩
  · next fence payload succeeded now hprogress =>
      simp only [hprogress] at h
      split at h <;> simp_all [Progress.isDispatched]
  · next fence payload succeeded now uuid4 hprogress =>
      simp only [hprogress] at h
      split at h <;> simp_all [Progress.isDispatched]
  · cases hcall

/-! ### Steps of the system -/

theorem executions_tables (system : System) (event : Event) :
    ((executions platform).next system event).tables =
      match system.call event with
      | none => system.tables
      | some call => (store platform).next system.tables call := by
  unfold Machine.next executions
  cases hcall : system.call event with
  | none => simp only [hcall]
  | some call =>
      simp only [hcall]
      rfl

theorem executions_tables_call {event : Event} {call : Call}
    (hcall : system.call event = some call) :
    ((executions platform).next system event).tables =
      (store platform).next system.tables call := by
  rw [executions_tables, hcall]

theorem executions_workers (system : System) (event : Event) :
    ((executions platform).next system event).workers = system.moved platform event := by
  unfold Machine.next executions
  cases hcall : system.call event with
  | none => simp only [hcall]
  | some call => simp only [hcall]

theorem executions_valid (system : System) (event : Event)
    (h : AllValid platform system.tables) :
    AllValid platform ((executions platform).next system event).tables := by
  rw [executions_tables]
  cases system.call event with
  | none => exact h
  | some call => exact next_valid _ call h

theorem executions_advances (system : System) (event : Event)
    (h : AllValid platform system.tables) :
    AllAdvance system.tables ((executions platform).next system event).tables := by
  rw [executions_tables]
  cases system.call event with
  | none => exact AllAdvance.refl _
  | some call => exact next_advances _ call h

theorem executions_after_valid (h : AllValid platform system.tables) (events : List Event) :
    AllValid platform ((executions platform).after system events).tables :=
  Machine.after_invariant executions_valid h events

theorem executions_after_advances (h : AllValid platform system.tables) (events : List Event) :
    AllAdvance system.tables ((executions platform).after system events).tables :=
  @Machine.after_related _ _ _ (executions platform)
    (fun system => AllValid platform system.tables)
    (fun first second => AllAdvance first.tables second.tables) executions_valid
    (fun system => AllAdvance.refl system.tables) (fun _ _ _ => AllAdvance.trans)
    executions_advances system h events

/-- An execution that is about to call the router for a workflow. -/
def Dispatched (system : System) (workflowId : String) (id : Nat) : Prop :=
  ∃ worker, system.workers id = some worker ∧ worker.workflowId = workflowId ∧
    worker.progress.isDispatched = true

/-- An execution about to call the router after an event already was, unless the
event is its own dispatch, journaled now. -/
theorem dispatched_next {event : Event} {id : Nat}
    (h : Dispatched ((executions platform).next system event) workflowId id) :
    Dispatched system workflowId id ∨
      ((∃ action, event = .act id action) ∧ (system.tables.view workflowId).dispatch = none ∧
        ∃ journal, (((executions platform).next system event).tables.view workflowId).dispatch =
          some journal) := by
  rw [executions_tables]
  obtain ⟨worker', hworker', hid, hdispatched⟩ := h
  rw [executions_workers] at hworker'
  cases event with
  | execute other tenant target owner leaseSeconds =>
      simp only [System.moved] at hworker'
      cases hother : system.workers other with
      | some worker =>
          simp only [hother] at hworker'
          exact Or.inl ⟨worker', hworker', hid, hdispatched⟩
      | none =>
          simp only [hother, Function.update_apply] at hworker'
          by_cases hsame : id = other
          · simp only [hsame, if_true, Option.some.injEq] at hworker'
            subst hworker'
            cases hdispatched
          · simp only [hsame, if_false] at hworker'
            exact Or.inl ⟨worker', hworker', hid, hdispatched⟩
  | call call => exact Or.inl ⟨worker', hworker', hid, hdispatched⟩
  | act other action =>
      simp only [System.moved] at hworker'
      cases hother : system.workers other with
      | none =>
          simp only [hother] at hworker'
          exact Or.inl ⟨worker', hworker', hid, hdispatched⟩
      | some worker =>
          simp only [hother] at hworker'
          by_cases hsame : id = other
          · subst hsame
            cases hcall : worker.call action with
            | none =>
                simp only [hcall, Function.update_self, Option.some.injEq] at hworker'
                subst hworker'
                refine Or.inl ⟨worker, hother, ?_, ?_⟩
                · rw [← hid]
                  exact (worker.proceed_arguments action).symm
                · exact worker.dispatched_of_proceed hdispatched
            | some call =>
                simp only [hcall, Function.update_self, Option.some.injEq] at hworker'
                subst hworker'
                have hsystem : system.call (.act id action) = some call := by
                  simp only [System.call, hother, Option.bind_some, hcall]
                refine Or.inr ⟨⟨action, rfl⟩, ?_⟩
                rw [← hid, hsystem]
                exact worker.dispatched_of_resume hcall hdispatched
          · cases hcall : worker.call action with
            | none =>
                simp only [hcall, Function.update_apply, hsame, if_false] at hworker'
                exact Or.inl ⟨worker', hworker', hid, hdispatched⟩
            | some call =>
                simp only [hcall, Function.update_apply, hsame, if_false] at hworker'
                exact Or.inl ⟨worker', hworker', hid, hdispatched⟩

/-! ### The router is called at most once -/

/-- The invariant of the system: an execution that is about to call the router has
its dispatch in the journal, and no other execution of the workflow is. -/
structure Sound (platform : Platform) (system : System) : Prop where
  valid : AllValid platform system.tables
  journaled : ∀ workflowId id, Dispatched system workflowId id →
    ∃ journal, (system.tables.view workflowId).dispatch = some journal
  single : ∀ workflowId first second, Dispatched system workflowId first →
    Dispatched system workflowId second → first = second

theorem start_sound : Sound platform System.start where
  valid := empty_valid
  journaled := by
    rintro workflowId id ⟨worker, hworker, -⟩
    cases hworker
  single := by
    rintro workflowId first second ⟨worker, hworker, -⟩
    cases hworker

/-- **Step lemma.** -/
theorem executions_sound (system : System) (event : Event) (h : Sound platform system) :
    Sound platform ((executions platform).next system event) where
  valid := executions_valid system event h.valid
  journaled := by
    intro workflowId id hnext
    rcases dispatched_next hnext with hold | ⟨-, -, hjournaled⟩
    · obtain ⟨journal, hjournal⟩ := h.journaled workflowId id hold
      obtain ⟨journal', hjournal', -⟩ :=
        (executions_advances system event h.valid workflowId).journal journal hjournal
      exact ⟨journal', hjournal'⟩
    · exact hjournaled
  single := by
    intro workflowId first second hfirst hsecond
    rcases dispatched_next hfirst with hold | ⟨⟨action, hevent⟩, hnone, -⟩
    · rcases dispatched_next hsecond with hold' | ⟨-, hnone, -⟩
      · exact h.single workflowId first second hold hold'
      · obtain ⟨journal, hjournal⟩ := h.journaled workflowId first hold
        rw [hnone] at hjournal
        cases hjournal
    · rcases dispatched_next hsecond with hold' | ⟨⟨action', hevent'⟩, -⟩
      · obtain ⟨journal, hjournal⟩ := h.journaled workflowId second hold'
        rw [hnone] at hjournal
        cases hjournal
      · -- both were dispatched by this very event
        rw [hevent] at hevent'
        injection hevent'

/-- A step in which an execution of a workflow calls the router. -/
def routes (workflowId : String) (system : System) : Event → Bool
  | .act id (.route _ _) =>
      (system.workers id).any fun worker =>
        decide (worker.workflowId = workflowId) && worker.progress.isDispatched
  | _ => false

/-- A workflow whose dispatch is in the journal, with no execution about to call
the router for it. -/
def Routed (workflowId : String) (system : System) : Prop :=
  (∃ journal, (system.tables.view workflowId).dispatch = some journal) ∧
    ∀ id, ¬ Dispatched system workflowId id

theorem routed_next (system : System) (event : Event) (h : Sound platform system)
    (hrouted : Routed workflowId system) :
    Routed workflowId ((executions platform).next system event) := by
  obtain ⟨⟨journal, hjournal⟩, hnone⟩ := hrouted
  obtain ⟨journal', hjournal', -⟩ :=
    (executions_advances system event h.valid workflowId).journal journal hjournal
  refine ⟨⟨journal', hjournal'⟩, fun id hdispatched => ?_⟩
  rcases dispatched_next hdispatched with hold | ⟨-, hfirst, -⟩
  · exact hnone id hold
  · rw [hjournal] at hfirst
    cases hfirst

/-- The step of a router call. -/
theorem routes_event {event : Event} (h : routes workflowId system event = true) :
    ∃ id worker outcome use, event = .act id (.route outcome use) ∧
      system.workers id = some worker ∧ worker.workflowId = workflowId ∧
      worker.progress.isDispatched = true := by
  cases event with
  | execute _ _ _ _ _ | call _ => cases h
  | act id action =>
      cases action with
      | claim _ | beginDispatch _ _ | recordOutcome _ | complete _ _ | stop => cases h
      | route outcome use =>
          cases hworker : system.workers id with
          | none => simp [routes, hworker] at h
          | some worker =>
              simp only [routes, hworker, Option.any_some, Bool.and_eq_true,
                decide_eq_true_eq] at h
              exact ⟨id, worker, outcome, use, rfl, hworker, h.1, h.2⟩

/-- An execution that called the router has gone on. -/
theorem Worker.routed (worker : Worker) {outcome : RouterOutcome} {use : BudgetUse} :
    (worker.proceed (.route outcome use)).progress.isDispatched = false := by
  unfold Worker.proceed
  cases hprogress : worker.progress with
  | dispatched fence =>
      simp only
      cases outcome.payload use with
      | none => rfl
      | some pair => rfl
  | entered | claimed _ | answered _ _ _ | recorded _ _ _ | returned _ | stopped =>
      simp only [hprogress, Progress.isDispatched]

theorem routes_routed {event : Event} (hsound : Sound platform system)
    (h : routes workflowId system event = true) :
    Routed workflowId ((executions platform).next system event) := by
  obtain ⟨id, worker, outcome, use, rfl, hworker, hid, hdispatched⟩ := routes_event h
  have hself : Dispatched system workflowId id := ⟨worker, hworker, hid, hdispatched⟩
  obtain ⟨journal, hjournal⟩ := hsound.journaled workflowId id hself
  obtain ⟨journal', hjournal', -⟩ := (executions_advances system (.act id (.route outcome use))
    hsound.valid workflowId).journal journal hjournal
  refine ⟨⟨journal', hjournal'⟩, fun other hother => ?_⟩
  rcases dispatched_next hother with hold | ⟨-, hfirst, -⟩
  · obtain rfl := hsound.single workflowId id other hself hold
    obtain ⟨worker', hworker', -, hdispatched'⟩ := hother
    have hcall : worker.call (.route outcome use) = none := by
      unfold Worker.call
      cases worker.progress <;> rfl
    rw [executions_workers] at hworker'
    simp only [System.moved, hworker, hcall, Function.update_self, Option.some.injEq] at hworker'
    subst hworker'
    rw [worker.routed] at hdispatched'
    cases hdispatched'
  · rw [hjournal] at hfirst
    cases hfirst

/-- **Run lemma.**  The router is called at most once for a workflow. -/
theorem routes_le_one (workflowId : String) (events : List Event) :
    (executions platform).count (routes workflowId) System.start events ≤ 1 := by
  have hspent : ∀ system event, Sound platform system → Routed workflowId system →
      Routed workflowId ((executions platform).next system event) := routed_next
  refine Machine.count_le_one executions_sound hspent ?_ ?_ start_sound events
  · intro system event _ hrouted
    by_contra hroutes
    obtain ⟨id, worker, _, _, -, hworker, hid, hdispatched⟩ :=
      routes_event (by simpa using hroutes)
    exact hrouted.2 id ⟨worker, hworker, hid, hdispatched⟩
  · intro system event hsound hroutes
    exact routes_routed hsound hroutes

/-! ### A recorded outcome decides -/

/-- The state of a workflow. -/
def stateOf (tables : Tables) (workflowId : String) : Option WorkflowState :=
  (tables.workflows.find workflowId).map WorkflowRow.state

/-- A workflow that runs, or whose outcome is uncertain. -/
def Pending (tables : Tables) (workflowId : String) : Prop :=
  stateOf tables workflowId = some .running ∨ stateOf tables workflowId = some .uncertain

/-- A journal row with an outcome stays as it is. -/
theorem Advances.held {later : View} (h : Advances view later) {journal : DispatchRow}
    {encoded : String} {succeeded : Bool} (hjournal : view.dispatch = some journal)
    (hholds : journal.Holds encoded succeeded) : later.dispatch = some journal := by
  obtain ⟨journal', hjournal', hkeep⟩ := h.journal journal hjournal
  rw [hkeep (by rw [hholds.1]; rfl)] at hjournal'
  exact hjournal'

theorem DispatchRow.Holds.unique {journal : DispatchRow} {encoded encoded' : String}
    {succeeded succeeded' : Bool} (h : journal.Holds encoded succeeded)
    (h' : journal.Holds encoded' succeeded') : encoded' = encoded ∧ succeeded' = succeeded := by
  refine ⟨Option.some.inj (h'.1.symm.trans h.1), ?_⟩
  have hflag := h'.2.symm.trans h.2
  cases succeeded <;> cases succeeded' <;> simp [intOfBool] at hflag <;> rfl

/-- Every artifact of a workflow with a recorded outcome has the recorded payload. -/
theorem Valid.recorded_content (h : Valid platform workflowId view) {journal : DispatchRow}
    {encoded : String} {succeeded : Bool} (hjournal : view.dispatch = some journal)
    (hholds : journal.Holds encoded succeeded) :
    ∀ artifact ∈ view.artifacts, artifact.contentJson = encoded := by
  intro artifact hmem
  cases hrow : view.row with
  | none =>
      rw [h.absent hrow] at hjournal
      cases hjournal
  | some row =>
      rcases h.bare_or_committed hrow with hbare | ⟨flag, stored, hcommitted⟩
      · rw [hbare.1] at hmem
        cases hmem
      · rw [hcommitted.only, List.mem_singleton] at hmem
        subst hmem
        exact (hholds.unique (hcommitted.journal journal hjournal)).1

/-- A committed workflow with a recorded outcome is in the state its flag names. -/
theorem Valid.recorded_state (h : Valid platform workflowId view) {row : WorkflowRow}
    {journal : DispatchRow} {encoded : String} {succeeded : Bool} (hrow : view.row = some row)
    (hjournal : view.dispatch = some journal) (hholds : journal.Holds encoded succeeded)
    (hstate : row.state = .awaitingValidation ∨ row.state = .failed) :
    row.state = resultState succeeded := by
  rcases hstate with hstate | hstate
  · obtain ⟨-, -, -, artifact, hcommitted⟩ := h.stage_of hrow hstate
    obtain ⟨-, rfl⟩ := hholds.unique (hcommitted.journal journal hjournal)
    exact hstate
  · obtain ⟨-, -, -, artifact, hcommitted⟩ := h.stage_of hrow hstate
    obtain ⟨-, rfl⟩ := hholds.unique (hcommitted.journal journal hjournal)
    exact hstate

/-- A workflow with an open journal row runs, is uncertain or was cancelled. -/
theorem Valid.open_state (h : Valid platform workflowId view) {journal : DispatchRow}
    (hjournal : view.dispatch = some journal) (hopen : journal.outcomeJson = none) :
    ∃ row, view.row = some row ∧
      (row.state = .running ∨ row.state = .uncertain ∨ row.state = .cancelled) := by
  have hclosed : ∀ {row : WorkflowRow} {succeeded : Bool} {artifact : ArtifactRow},
      ¬ Committed platform view row succeeded artifact := by
    intro row succeeded artifact hcommitted
    have hholds := hcommitted.journal journal hjournal
    rw [hholds.1] at hopen
    cases hopen
  cases hrow : view.row with
  | none =>
      rw [h.absent hrow] at hjournal
      cases hjournal
  | some row =>
      refine ⟨row, rfl, ?_⟩
      cases hstate : row.state with
      | running => exact Or.inl rfl
      | uncertain => exact Or.inr (Or.inl rfl)
      | cancelled => exact Or.inr (Or.inr rfl)
      | ready =>
          obtain ⟨-, -, hnone, -⟩ := h.stage_of hrow hstate
          change view.dispatch = none at hnone
          rw [hjournal] at hnone
          cases hnone
      | awaitingValidation | failed =>
          obtain ⟨-, -, -, artifact, hcommitted⟩ := h.stage_of hrow hstate
          exact absurd hcommitted hclosed
      | succeeded | rejected =>
          obtain ⟨-, -, artifact, _, _, _, hcommitted, -⟩ := h.stage_of hrow hstate
          exact absurd hcommitted hclosed

/-- A pending workflow has no report, and one call does not decide it. -/
theorem pending_next (h : AllValid platform tables) (hpending : Pending tables workflowId)
    (call : Call) :
    ∃ row, ((store platform).next tables call).workflows.find workflowId = some row ∧
      (row.state = .running ∨ row.state = .uncertain ∨ row.state = .cancelled ∨
        row.state = .awaitingValidation ∨ row.state = .failed) := by
  have hrunning : ∃ row, (tables.view workflowId).row = some row ∧
      (row.state = .running ∨ row.state = .uncertain) := by
    rcases hpending with hstate | hstate
    · obtain ⟨row, hrow, hstate⟩ := Option.map_eq_some_iff.mp hstate
      exact ⟨row, hrow, Or.inl hstate⟩
    · obtain ⟨row, hrow, hstate⟩ := Option.map_eq_some_iff.mp hstate
      exact ⟨row, hrow, Or.inr hstate⟩
  obtain ⟨row, hrow, hstate⟩ := hrunning
  have hunreported : (tables.view workflowId).validation = none := by
    rcases hstate with hstate | hstate
    · exact (h workflowId).stage_of hrow hstate |>.2.2.2.2.1
    · exact (h workflowId).stage_of hrow hstate |>.2.2.2.1
  obtain ⟨row', hrow', hadvance⟩ := (next_advances tables call h workflowId).row row hrow
  refine ⟨row', hrow', ?_⟩
  have hvalid := next_valid tables call h workflowId
  have hstarted : row'.state ≠ .ready := hadvance.started (by
    rcases hstate with hstate | hstate <;> rw [hstate] <;> decide)
  -- a decision needs a report, which only the validation of an awaiting workflow adds
  have hundecided : (((store platform).next tables call).view workflowId).validation = none := by
    cases hanswer : (store platform).answer tables call with
    | error error =>
        rw [next_of_error hanswer]
        exact hunreported
    | ok answer =>
        have hbody := body_of_answer hanswer
        by_cases hvalidates : call.validates workflowId = true
        · cases call with
          | validate tenant target policy =>
              obtain ⟨report, hvalidate, -⟩ := map_ok.mp hbody
              obtain rfl : target = workflowId := by simpa [Call.validates] using hvalidates
              rcases validate_ok hvalidate with ⟨hsame, -⟩ | ⟨found, artifact, snapshot, findings,
                reportJson, hfound, -, hawaiting, -⟩
              · rw [hsame]
                exact hunreported
              · rw [hrow, Option.some.injEq] at hfound
                subst hfound
                rw [hawaiting] at hstate
                rcases hstate with hstate | hstate <;> cases hstate
          | create _ _ _ _ _ | claim _ _ _ _ _ | beginDispatch _ _ _ _ _ _
          | recordOutcome _ _ _ _ _ _ _ | complete _ _ _ _ _ _ _ _ | reconcileUncertain _ _ _
          | cancel _ _ | recoverExpired _ _ | recoverStartup _ _ _ => cases hvalidates
        · rw [(call_frame hbody workflowId).2 (by simpa using hvalidates)]
          exact hunreported
  cases hstate' : row'.state with
  | ready => exact absurd hstate' hstarted
  | running | uncertain | cancelled | awaitingValidation | failed => simp
  | succeeded | rejected =>
      obtain ⟨-, -, artifact, _, _, _, -, hdecided⟩ := hvalid.stage_of hrow' hstate'
      have hreport := hdecided.report
      change (((store platform).next tables call).view workflowId).validation = _ at hreport
      rw [hundecided] at hreport
      cases hreport

/-- A pending workflow with a recorded outcome stays pending, is cancelled or moves
to the state the flag names. -/
theorem recorded_next {journal : DispatchRow} {encoded : String} {succeeded : Bool}
    (h : AllValid platform system.tables) (event : Event)
    (hpending : Pending system.tables workflowId)
    (hjournal : (system.tables.view workflowId).dispatch = some journal)
    (hholds : journal.Holds encoded succeeded) :
    let next := (executions platform).next system event
    Pending next.tables workflowId ∨ stateOf next.tables workflowId = some .cancelled ∨
      stateOf next.tables workflowId = some (resultState succeeded) := by
  intro next
  have hkept := (executions_advances system event h workflowId).held hjournal hholds
  have hvalid := executions_valid system event h workflowId
  change (next.tables.view workflowId).dispatch = some journal at hkept
  change Valid platform workflowId (next.tables.view workflowId) at hvalid
  cases hcall : system.call event with
  | none =>
      left
      change Pending ((executions platform).next system event).tables workflowId
      rw [executions_tables, hcall]
      exact hpending
  | some call =>
      obtain ⟨row, hrow, hstate⟩ := pending_next h hpending call
      rw [← executions_tables_call hcall] at hrow
      have hstateOf : stateOf next.tables workflowId = some row.state :=
        Option.map_eq_some_iff.mpr ⟨row, hrow, rfl⟩
      rcases hstate with hstate | hstate | hstate | hstate
      · exact Or.inl (Or.inl (by rw [hstateOf, hstate]))
      · exact Or.inl (Or.inr (by rw [hstateOf, hstate]))
      · exact Or.inr (Or.inl (by rw [hstateOf, hstate]))
      · exact Or.inr (Or.inr (by rw [hstateOf, hvalid.recorded_state hrow hkept hholds hstate]))

/-! ### Crash consistency -/

/-- An event that recorded a payload and a flag for a workflow. -/
def Recorded (platform : Platform) (system : System) (event : Event) (workflowId : String)
    (payload : List (String × Json)) (succeeded : Bool) : Prop :=
  ∃ tenant owner fence now call,
    call = .recordOutcome tenant workflowId owner fence payload succeeded now ∧
    system.call event = some call ∧ (store platform).answer system.tables call = .ok .done

/-- An event that journaled the dispatch of a workflow. -/
def Begun (platform : Platform) (system : System) (event : Event) (workflowId : String) : Prop :=
  ∃ tenant owner fence budget now call,
    call = .beginDispatch tenant workflowId owner fence budget now ∧
    system.call event = some call ∧ (store platform).answer system.tables call = .ok .done

/-- Whether an event records an outcome of a workflow. -/
def recordsOutcome (platform : Platform) (workflowId : String) (system : System)
    (event : Event) : Bool :=
  (system.call event).any fun call =>
    call.records workflowId && ((store platform).answer system.tables call).isOk

theorem recorded_journal {event : Event} {payload : List (String × Json)} {succeeded : Bool}
    (h : Recorded platform system event workflowId payload succeeded) :
    ∃ encoded journal, canonicalJson (.obj payload) = .ok encoded ∧
      (((executions platform).next system event).tables.view workflowId).dispatch =
        some journal ∧ journal.Holds encoded succeeded ∧
      Pending ((executions platform).next system event).tables workflowId := by
  obtain ⟨tenant, owner, fence, now, call, rfl, hcall, hanswer⟩ := h
  obtain ⟨_, hrecord, -⟩ := map_ok.mp (body_of_answer hanswer)
  obtain ⟨row, journal, encoded, hrow, -, hstate, -, -, hjournal, -, hencoded, hcase⟩ :=
    recordOutcome_ok hrecord
  rw [executions_tables_call hcall]
  rcases hcase with ⟨hholds, hsame⟩ | ⟨-, hmoves⟩
  · refine ⟨encoded, journal, hencoded, ?_, hholds, Or.inl ?_⟩
    · rw [hsame]
      exact hjournal
    · rw [hsame]
      exact Option.map_eq_some_iff.mpr ⟨row, hrow, hstate⟩
  · refine ⟨encoded, journal.recorded platform encoded succeeded, hencoded, ?_, ⟨rfl, rfl⟩,
      Or.inl ?_⟩
    · exact congrArg View.dispatch hmoves.self
    · refine Option.map_eq_some_iff.mpr ⟨row, ?_, hstate⟩
      exact congrArg View.row hmoves.self

theorem begun_journal {event : Event} (h : Begun platform system event workflowId) :
    ∃ journal, (((executions platform).next system event).tables.view workflowId).dispatch =
      some journal ∧ journal.outcomeJson = none := by
  obtain ⟨tenant, owner, fence, budget, now, call, rfl, hcall, hanswer⟩ := h
  obtain ⟨_, hbegin, -⟩ := map_ok.mp (body_of_answer hanswer)
  obtain ⟨row, encoded, -, -, -, -, -, -, hmoves⟩ := beginDispatch_ok hbegin
  rw [executions_tables_call hcall]
  exact ⟨_, congrArg View.dispatch hmoves.self, rfl⟩

/-- An open journal row stays open until an outcome is recorded. -/
theorem open_kept {journal : DispatchRow} (event : Event)
    (hjournal : (system.tables.view workflowId).dispatch = some journal)
    (hevent : recordsOutcome platform workflowId system event = false) :
    (((executions platform).next system event).tables.view workflowId).dispatch =
      some journal := by
  rw [executions_tables]
  cases hcall : system.call event with
  | none => exact hjournal
  | some call =>
      simp only [recordsOutcome, hcall, Option.any_some, Bool.and_eq_false_iff] at hevent
      cases hanswer : (store platform).answer system.tables call with
      | error error =>
          simp only [next_of_error hanswer]
          exact hjournal
      | ok answer =>
          have hrecords : call.records workflowId = false := by
            simpa [hanswer, Except.isOk, Except.toBool] using hevent
          exact (call_frame (body_of_answer hanswer) workflowId).1 hrecords journal hjournal

/-- **Run lemma.**  An open journal row stays open in a run that records no outcome. -/
theorem open_after {journal : DispatchRow}
    (hjournal : (system.tables.view workflowId).dispatch = some journal) (events : List Event)
    (hcount : (executions platform).count (recordsOutcome platform workflowId) system events = 0) :
    (((executions platform).after system events).tables.view workflowId).dispatch =
      some journal :=
  @Machine.after_of_count_eq_zero _ _ _ (executions platform)
    (fun system => (system.tables.view workflowId).dispatch = some journal)
    (recordsOutcome platform workflowId)
    (fun _ event hjournal hevent => open_kept event hjournal hevent) system hjournal events hcount

/-- **Crash consistency.**  Whatever executions, crashes, recoveries and other
store calls happen in whatever order: the router is called at most once for a
workflow.  Once an outcome is recorded, every artifact the workflow ever has is
the recorded payload, and the workflow stays pending until it is cancelled or
moves to the state the flag names.  While a journaled dispatch has no recorded
outcome, the workflow stays pending or is cancelled. -/
theorem execute_crash_consistent (platform : Platform) (workflowId : String)
    (events : List Event) :
    let system := (executions platform).after System.start events
    (executions platform).count (routes workflowId) System.start events ≤ 1 ∧
    (∀ event payload succeeded, Recorded platform system event workflowId payload succeeded →
      ∃ encoded, canonicalJson (.obj payload) = .ok encoded ∧
        let recorded := (executions platform).next system event
        Pending recorded.tables workflowId ∧ ∀ later,
          let final := (executions platform).after recorded later
          (∀ artifact ∈ final.tables.artifacts.rows, artifact.workflowId = workflowId →
            artifact.contentJson = encoded) ∧
          (Pending final.tables workflowId → ∀ event,
            let next := (executions platform).next final event
            Pending next.tables workflowId ∨
              stateOf next.tables workflowId = some .cancelled ∨
              stateOf next.tables workflowId = some (resultState succeeded))) ∧
    (∀ event, Begun platform system event workflowId → ∀ later,
      let begun := (executions platform).next system event
      let final := (executions platform).after begun later
      (executions platform).count (recordsOutcome platform workflowId) begun later = 0 →
        Pending final.tables workflowId ∨
          stateOf final.tables workflowId = some .cancelled) := by
  intro system
  have hvalid : AllValid platform system.tables := executions_after_valid empty_valid events
  refine ⟨routes_le_one workflowId events, ?_, ?_⟩
  · intro event payload succeeded hrecorded
    obtain ⟨encoded, journal, hencoded, hjournal, hholds, hpending⟩ :=
      recorded_journal hrecorded
    refine ⟨encoded, hencoded, hpending, fun later => ?_⟩
    have hrecordedValid := executions_valid system event hvalid
    have hfinalValid := executions_after_valid hrecordedValid later
    have hkept := (executions_after_advances hrecordedValid later workflowId).held hjournal hholds
    refine ⟨?_, fun hwaiting next => ?_⟩
    · intro artifact hmem hid
      refine (hfinalValid workflowId).recorded_content hkept hholds artifact ?_
      exact List.mem_filter.mpr ⟨hmem, by simpa using hid⟩
    · exact recorded_next hfinalValid next hwaiting hkept hholds
  · intro event hbegun later begun final hcount
    obtain ⟨journal, hjournal, hopen⟩ := begun_journal hbegun
    have hkept : (final.tables.view workflowId).dispatch = some journal :=
      open_after hjournal later hcount
    have hfinalValid := executions_after_valid (executions_valid system event hvalid) later
    obtain ⟨row, hrow, hstate⟩ := (hfinalValid workflowId).open_state hkept hopen
    have hstateOf : stateOf final.tables workflowId = some row.state :=
      Option.map_eq_some_iff.mpr ⟨row, hrow, rfl⟩
    rcases hstate with hstate | hstate | hstate
    · exact Or.inl (Or.inl (by rw [hstateOf, hstate]))
    · exact Or.inl (Or.inr (by rw [hstateOf, hstate]))
    · exact Or.inr (by rw [hstateOf, hstate])

end Workflows
end Ryuk
