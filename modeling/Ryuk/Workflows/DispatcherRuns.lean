import Ryuk.Foundation.Simulation
import Ryuk.Workflows.Dispatcher

/-!
# Runs of a dispatcher

What holds at every await: the tasks that are not done are among the active ones,
there are never more of them than the concurrency allows, and every dispatched
task is counted once.  After `stop` no task is created, and a dispatcher that
`stop` has returned for stays stopped.
-/

namespace Ryuk
namespace Workflows

open Foundation

/-- What is kept of a list that is cut to its last elements after every step. -/
theorem rtake_append_rtake {α : Type} (count : Nat) (kept added : List α) :
    (kept.rtake count ++ added).rtake count = (kept ++ added).rtake count := by
  rw [List.rtake_eq_reverse_take_reverse, List.rtake_eq_reverse_take_reverse,
    List.rtake_eq_reverse_take_reverse]
  apply congrArg List.reverse
  rw [List.reverse_append, List.reverse_reverse, List.reverse_append, List.take_append,
    List.take_append, List.take_take, Nat.min_eq_left (Nat.sub_le ..)]

section Runs

variable {σ ι : Type} {kind : DispatcherKind σ ι} {settings : DispatcherSettings} {store : σ}
  {dispatcher : Dispatcher ι}

/-! ### Tasks -/

/-- The tasks of a dispatcher: those that are not done are active, numbers tell
them apart, and every dispatched one is counted. -/
structure Dispatcher.Tracks (dispatcher : Dispatcher ι) : Prop where
  tracked : dispatcher.unfinished.Sublist dispatcher.active
  distinct : (dispatcher.active.map ExecutionTask.number).Nodup
  numbered : ∀ task ∈ dispatcher.active, task.number ≤ dispatcher.sequence
  balanced : dispatcher.dispatched = dispatcher.completed + dispatcher.workflowConflicts +
    dispatcher.executionFailures + dispatcher.unfinished.length

theorem isUnfinished_of_mem {task : ExecutionTask ι} (h : task ∈ dispatcher.unfinished) :
    dispatcher.isUnfinished task = true :=
  decide_eq_true (List.mem_map_of_mem h)

/-- A reaped dispatcher has exactly the unfinished tasks active. -/
theorem Dispatcher.Tracks.reap_active (h : dispatcher.Tracks) :
    dispatcher.reap.active = dispatcher.unfinished := by
  have hkept : dispatcher.unfinished.Sublist dispatcher.reap.active := by
    have hfiltered := h.tracked.filter dispatcher.isUnfinished
    rw [List.filter_eq_self.mpr fun task => isUnfinished_of_mem] at hfiltered
    exact hfiltered
  have hfew : dispatcher.reap.active.length ≤ dispatcher.unfinished.length := by
    have hsublist : (dispatcher.reap.active.map ExecutionTask.number).Sublist
        (dispatcher.active.map ExecutionTask.number) := List.Sublist.map _ List.filter_sublist
    have hsubset : dispatcher.reap.active.map ExecutionTask.number ⊆
        dispatcher.unfinished.map ExecutionTask.number := by
      intro number hnumber
      obtain ⟨task, htask, rfl⟩ := List.mem_map.mp hnumber
      exact of_decide_eq_true (List.mem_filter.mp htask).2
    have hlength := ((h.distinct.sublist hsublist).subperm hsubset).length_le
    rw [List.length_map, List.length_map] at hlength
    exact hlength
  exact (hkept.eq_of_length_le hfew).symm

theorem Dispatcher.Tracks.reap (h : dispatcher.Tracks) : dispatcher.reap.Tracks where
  tracked := by
    rw [h.reap_active]
    exact List.Sublist.refl _
  distinct := h.distinct.sublist (List.Sublist.map _ List.filter_sublist)
  numbered task htask := h.numbered task (List.mem_filter.mp htask).1
  balanced := h.balanced

/-- How many failures a dispatcher has counted. -/
def Dispatcher.failures (dispatcher : Dispatcher ι) : Nat :=
  dispatcher.workflowConflicts + dispatcher.executionFailures

/-- The fields an intake leaves alone. -/
structure Dispatcher.SameRun (before after : Dispatcher ι) : Prop where
  state : after.state = before.state
  stop : after.stop = before.stop
  coordinator : after.coordinator = before.coordinator
  recentFailures : after.recentFailures = before.recentFailures
  failures : after.failures = before.failures

theorem intake_same (items : List ι) :
    dispatcher.SameRun (dispatcher.intake kind settings items) := by
  induction items generalizing dispatcher with
  | nil => exact ⟨rfl, rfl, rfl, rfl, rfl⟩
  | cons item rest ih =>
      unfold Dispatcher.intake
      split_ifs
      · exact ⟨rfl, rfl, rfl, rfl, rfl⟩
      · obtain ⟨hstate, hstop, hcoordinator, hrecent, hfailures⟩ := @ih
          { dispatcher with
            sequence := dispatcher.sequence + 1
            active := dispatcher.active ++ [dispatcher.nextTask settings item]
            unfinished := dispatcher.unfinished ++ [dispatcher.nextTask settings item]
            dispatched := dispatcher.dispatched + 1
            changed := kind.announces || dispatcher.changed }
        exact ⟨hstate, hstop, hcoordinator, hrecent, hfailures⟩

theorem Dispatcher.Tracks.intake (items : List ι) (h : dispatcher.Tracks) :
    (dispatcher.intake kind settings items).Tracks := by
  induction items generalizing dispatcher with
  | nil => exact h
  | cons item rest ih =>
      unfold Dispatcher.intake
      split_ifs
      · exact h
      · apply ih
        refine ⟨h.tracked.append (List.Sublist.refl _), ?_, ?_, ?_⟩
        · -- the new number is larger than all others
          rw [List.map_append, List.nodup_append]
          refine ⟨h.distinct, List.nodup_singleton _, fun number hnumber other hother heq => ?_⟩
          obtain ⟨task, htask, rfl⟩ := List.mem_map.mp hnumber
          have hle := h.numbered task htask
          rw [List.map_singleton, List.mem_singleton] at hother
          change other = dispatcher.sequence + 1 at hother
          omega
        · intro task htask
          show task.number ≤ dispatcher.sequence + 1
          rcases List.mem_append.mp htask with hold | hnew
          · have hle := h.numbered task hold
            omega
          · rw [List.mem_singleton.mp hnew]
            exact Nat.le_refl _
        · have hbalanced := h.balanced
          show dispatcher.dispatched + 1 = dispatcher.completed + dispatcher.workflowConflicts +
            dispatcher.executionFailures + (dispatcher.unfinished ++ [_]).length
          rw [List.length_append, List.length_singleton]
          omega

theorem intake_unfinished (items : List ι) :
    (dispatcher.intake kind settings items).unfinished.length ≤
      dispatcher.unfinished.length + items.length := by
  induction items generalizing dispatcher with
  | nil => exact Nat.le_refl _
  | cons item rest ih =>
      unfold Dispatcher.intake
      split_ifs
      · omega
      · refine Nat.le_trans ih ?_
        simp only [List.length_append, List.length_cons, List.length_nil]
        omega

/-- A task that ends is counted, and is unfinished no more. -/
theorem Dispatcher.Tracks.execute {task : ExecutionTask ι} (outcome : ExecutionOutcome)
    (h : dispatcher.Tracks) (htask : task ∈ dispatcher.unfinished) :
    (dispatcher.execute kind task outcome).Tracks := by
  have hlength : (dispatcher.unfinished.eraseP fun other =>
      decide (other.number = task.number)).length = dispatcher.unfinished.length - 1 :=
    List.length_eraseP_of_mem htask (decide_eq_true rfl)
  have hpositive : 0 < dispatcher.unfinished.length := List.length_pos_of_mem htask
  have hsublist : (dispatcher.unfinished.eraseP fun other =>
      decide (other.number = task.number)).Sublist dispatcher.active :=
    List.eraseP_sublist.trans h.tracked
  have hbalanced := h.balanced
  cases outcome with
  | completed =>
      refine ⟨hsublist, h.distinct, h.numbered, ?_⟩
      show dispatcher.dispatched = dispatcher.completed + 1 + dispatcher.workflowConflicts +
        dispatcher.executionFailures + (dispatcher.unfinished.eraseP _).length
      rw [hlength]
      omega
  | workflowConflict =>
      refine ⟨hsublist, h.distinct, h.numbered, ?_⟩
      show dispatcher.dispatched = dispatcher.completed + (dispatcher.workflowConflicts + 1) +
        dispatcher.executionFailures + (dispatcher.unfinished.eraseP _).length
      rw [hlength]
      omega
  | failed =>
      refine ⟨hsublist, h.distinct, h.numbered, ?_⟩
      show dispatcher.dispatched = dispatcher.completed + dispatcher.workflowConflicts +
        (dispatcher.executionFailures + 1) + (dispatcher.unfinished.eraseP _).length
      rw [hlength]
      omega

/-! ### Phases -/

/-- Running, or stopping with the flag set. -/
def Dispatcher.Open (dispatcher : Dispatcher ι) : Prop :=
  (dispatcher.state = .running ∧ dispatcher.stop = false) ∨
    (dispatcher.state = .stopping ∧ dispatcher.stop = true)

/-- What the place of the coordinator says about the dispatcher. -/
def Dispatcher.InPhase (dispatcher : Dispatcher ι) : Prop :=
  match dispatcher.coordinator with
  | .absent => dispatcher.unfinished = [] ∧
      ((dispatcher.state = .new ∧ dispatcher.stop = false) ∨ dispatcher.state = .stopped)
  | .created | .waiting | .idle => dispatcher.Open
  | .draining tasks _ => dispatcher.Open ∧ ∀ task ∈ dispatcher.unfinished, task ∈ tasks
  | .ended _ => dispatcher.unfinished = [] ∧ dispatcher.state = .stopped

/-- **Invariant.** -/
structure Dispatcher.Sound (settings : DispatcherSettings) (dispatcher : Dispatcher ι) : Prop where
  tracks : dispatcher.Tracks
  bounded : (dispatcher.unfinished.length : Int) ≤ settings.concurrency
  phase : dispatcher.InPhase

theorem initial_sound : (Dispatcher.initial : Dispatcher ι).Sound settings where
  tracks := ⟨List.Sublist.refl _, List.nodup_nil, fun _ h => (List.not_mem_nil h).elim, rfl⟩
  bounded := by
    have hpositive := settings.allowed.1
    show (0 : Int) ≤ settings.concurrency
    omega
  phase := ⟨rfl, Or.inl ⟨rfl, rfl⟩⟩

theorem Dispatcher.Sound.reap (h : dispatcher.Sound settings) : dispatcher.reap.Sound settings where
  tracks := h.tracks.reap
  bounded := h.bounded
  phase := h.phase

/-- The end of the coordinator. -/
theorem Dispatcher.Tracks.finish {error : Option PyError} (h : dispatcher.Tracks)
    (hdone : dispatcher.unfinished = []) : (dispatcher.finish error).Sound settings where
  tracks := ⟨h.reap.tracked, h.reap.distinct, h.reap.numbered, h.balanced⟩
  bounded := by
    show (dispatcher.unfinished.length : Int) ≤ settings.concurrency
    have hpositive := settings.allowed.1
    rw [hdone]
    show (0 : Int) ≤ settings.concurrency
    omega
  phase := ⟨hdone, rfl⟩

theorem Dispatcher.Tracks.drain {error : Option PyError} (h : dispatcher.Tracks)
    (hbounded : (dispatcher.unfinished.length : Int) ≤ settings.concurrency)
    (hopen : dispatcher.Open) : (dispatcher.drain error).Sound settings := by
  unfold Dispatcher.drain
  split_ifs with hempty
  · apply h.finish
    have htracked := h.tracked
    rw [List.isEmpty_iff.mp hempty] at htracked
    exact List.sublist_nil.mp htracked
  · exact ⟨⟨h.tracked, h.distinct, h.numbered, h.balanced⟩, hbounded,
      hopen, fun task htask => h.tracked.subset htask⟩

theorem Dispatcher.Tracks.pause (h : dispatcher.Tracks)
    (hbounded : (dispatcher.unfinished.length : Int) ≤ settings.concurrency)
    (hopen : dispatcher.Open) : dispatcher.pause.Sound settings := by
  unfold Dispatcher.pause
  split_ifs
  · exact ⟨⟨h.tracked, h.distinct, h.numbered, h.balanced⟩, hbounded, hopen⟩
  · exact ⟨⟨h.tracked, h.distinct, h.numbered, h.balanced⟩, hbounded, hopen⟩

/-- A turn of the loop fills at most the free slots. -/
theorem Dispatcher.Sound.turn (h : dispatcher.Sound settings) (hopen : dispatcher.Open) :
    (dispatcher.turn kind settings store).Sound settings := by
  unfold Dispatcher.turn
  split_ifs with hstop
  · exact h.tracks.drain h.bounded hopen
  · simp only
    split_ifs with hslots
    · exact h.reap.tracks.pause h.bounded hopen
    · split
      · exact h.reap.tracks.drain h.bounded hopen
      · rename_i items hitems
        have hsame := @intake_same _ _ kind settings dispatcher.reap items
        apply (h.reap.tracks.intake items).pause
        · have hfew := kind.bounded _ _ _ hitems
          have htaken := @intake_unfinished _ _ kind settings dispatcher.reap items
          unfold Dispatcher.slots at hfew
          rw [h.tracks.reap_active] at hfew
          change _ ≤ dispatcher.unfinished.length + items.length at htaken
          omega
        · unfold Dispatcher.Open
          rw [hsame.state, hsame.stop]
          exact hopen

theorem Dispatcher.Sound.coordinate (h : dispatcher.Sound settings) :
    (dispatcher.coordinate kind settings store).Sound settings := by
  have hphase := h.phase
  unfold Dispatcher.InPhase at hphase
  unfold Dispatcher.coordinate
  cases hcoordinator : dispatcher.coordinator with
  | absent => exact h
  | ended error => exact h
  | created =>
      rw [hcoordinator] at hphase
      exact h.turn hphase
  | waiting =>
      rw [hcoordinator] at hphase
      exact h.turn hphase
  | idle =>
      rw [hcoordinator] at hphase
      exact h.turn hphase
  | draining tasks error =>
      rw [hcoordinator] at hphase
      simp only
      split_ifs with hdraining
      · exact h
      · -- all gathered tasks are done, and no other task is unfinished
        apply h.tracks.finish
        rw [List.eq_nil_iff_forall_not_mem]
        intro task htask
        exact hdraining (List.any_eq_true.mpr
          ⟨task, hphase.2 task htask, isUnfinished_of_mem htask⟩)

theorem execute_fields (task : ExecutionTask ι) (outcome : ExecutionOutcome) :
    (dispatcher.execute kind task outcome).state = dispatcher.state ∧
      (dispatcher.execute kind task outcome).stop = dispatcher.stop ∧
      (dispatcher.execute kind task outcome).coordinator = dispatcher.coordinator ∧
      (dispatcher.execute kind task outcome).dispatched = dispatcher.dispatched ∧
      (dispatcher.execute kind task outcome).unfinished.Sublist dispatcher.unfinished := by
  cases outcome with
  | completed => exact ⟨rfl, rfl, rfl, rfl, List.eraseP_sublist⟩
  | workflowConflict => exact ⟨rfl, rfl, rfl, rfl, List.eraseP_sublist⟩
  | failed => exact ⟨rfl, rfl, rfl, rfl, List.eraseP_sublist⟩

theorem Dispatcher.Sound.execute {task : ExecutionTask ι} (outcome : ExecutionOutcome)
    (h : dispatcher.Sound settings) (htask : task ∈ dispatcher.unfinished) :
    (dispatcher.execute kind task outcome).Sound settings := by
  obtain ⟨hstate, hstop, hcoordinator, -, hsublist⟩ :=
    @execute_fields _ _ kind dispatcher task outcome
  refine ⟨h.tracks.execute outcome htask, ?_, ?_⟩
  · have hlength := hsublist.length_le
    have hbounded := h.bounded
    omega
  · have hphase := h.phase
    unfold Dispatcher.InPhase Dispatcher.Open at hphase ⊢
    rw [hstate, hstop, hcoordinator]
    cases hplace : dispatcher.coordinator with
    | absent =>
        rw [hplace] at hphase
        rw [hphase.1] at htask
        cases htask
    | ended error =>
        rw [hplace] at hphase
        rw [hphase.1] at htask
        cases htask
    | created =>
        rw [hplace] at hphase
        exact hphase
    | waiting =>
        rw [hplace] at hphase
        exact hphase
    | idle =>
        rw [hplace] at hphase
        exact hphase
    | draining tasks error =>
        rw [hplace] at hphase
        exact ⟨hphase.1, fun other hother => hphase.2 other (hsublist.subset hother)⟩

/-- The coordinator is at work, was never created, or has ended. -/
theorem Dispatcher.InPhase.cases (h : dispatcher.InPhase) :
    (dispatcher.Open ∧ dispatcher.coordinator ≠ .absent) ∨
      (dispatcher.unfinished = [] ∧ dispatcher.coordinator = .absent ∧
        ((dispatcher.state = .new ∧ dispatcher.stop = false) ∨ dispatcher.state = .stopped)) ∨
      (dispatcher.unfinished = [] ∧ (∃ error, dispatcher.coordinator = .ended error) ∧
        dispatcher.state = .stopped) := by
  unfold Dispatcher.InPhase at h
  cases hcoordinator : dispatcher.coordinator with
  | absent =>
      rw [hcoordinator] at h
      exact Or.inr (Or.inl ⟨h.1, rfl, h.2⟩)
  | ended error =>
      rw [hcoordinator] at h
      exact Or.inr (Or.inr ⟨h.1, ⟨error, rfl⟩, h.2⟩)
  | created =>
      rw [hcoordinator] at h
      exact Or.inl ⟨h, nofun⟩
  | waiting =>
      rw [hcoordinator] at h
      exact Or.inl ⟨h, nofun⟩
  | idle =>
      rw [hcoordinator] at h
      exact Or.inl ⟨h, nofun⟩
  | draining tasks error =>
      rw [hcoordinator] at h
      exact Or.inl ⟨h.1, nofun⟩

theorem Dispatcher.Open.not_new (h : dispatcher.Open) : dispatcher.state ≠ .new := by
  intro hnew
  rcases h with ⟨hstate, -⟩ | ⟨hstate, -⟩
  · rw [hnew] at hstate
    cases hstate
  · rw [hnew] at hstate
    cases hstate

theorem Dispatcher.Open.not_stopped (h : dispatcher.Open) : dispatcher.state ≠ .stopped := by
  intro hstopped
  rcases h with ⟨hstate, -⟩ | ⟨hstate, -⟩
  · rw [hstopped] at hstate
    cases hstate
  · rw [hstopped] at hstate
    cases hstate

/-! ### Calls -/

/-- Other fields than those of the tasks and the phase may change. -/
theorem Dispatcher.Sound.same {next : Dispatcher ι} (h : dispatcher.Sound settings)
    (htracks : next.Tracks) (hunfinished : next.unfinished = dispatcher.unfinished)
    (hstate : next.state = dispatcher.state) (hstop : next.stop = dispatcher.stop)
    (hcoordinator : next.coordinator = dispatcher.coordinator) : next.Sound settings := by
  refine ⟨htracks, ?_, ?_⟩
  · rw [hunfinished]
    exact h.bounded
  · have hphase := h.phase
    unfold Dispatcher.InPhase Dispatcher.Open at hphase ⊢
    rw [hunfinished, hstate, hstop, hcoordinator]
    exact hphase

theorem Dispatcher.Sound.start {next : Dispatcher ι} (h : dispatcher.Sound settings)
    (hstart : dispatcher.start = .ok next) : next.Sound settings := by
  unfold Dispatcher.start at hstart
  split_ifs at hstart with hnew
  · obtain rfl := Except.ok.inj hstart
    refine ⟨⟨h.tracks.tracked, h.tracks.distinct, h.tracks.numbered, h.tracks.balanced⟩, h.bounded,
      Or.inl ⟨rfl, ?_⟩⟩
    -- the flag of a new dispatcher is not set
    rcases h.phase.cases with ⟨hopen, -⟩ | ⟨-, -, hcases⟩ | ⟨-, -, hstopped⟩
    · exact absurd hnew hopen.not_new
    · rcases hcases with ⟨-, hstop⟩ | hstopped
      · exact hstop
      · rw [hnew] at hstopped
        cases hstopped
    · rw [hnew] at hstopped
      cases hstopped

/-- A dispatcher that has stopped for good: nobody works, and nobody will. -/
structure Dispatcher.Halted (dispatcher : Dispatcher ι) : Prop where
  state : dispatcher.state = .stopped
  unfinished : dispatcher.unfinished = []
  coordinator : dispatcher.coordinator = .absent ∨ ∃ error, dispatcher.coordinator = .ended error

/-- A dispatcher in the state `stopped` has halted. -/
theorem Dispatcher.Sound.halted (h : dispatcher.Sound settings)
    (hstopped : dispatcher.state = .stopped) : dispatcher.Halted := by
  rcases h.phase.cases with ⟨hopen, -⟩ | ⟨hdone, habsent, -⟩ | ⟨hdone, hended, -⟩
  · exact absurd hstopped hopen.not_stopped
  · exact ⟨hstopped, hdone, Or.inl habsent⟩
  · exact ⟨hstopped, hdone, Or.inr hended⟩

/-- With a coordinator at work, `stop` sets the flag and waits. -/
theorem stopCall_open (hopen : dispatcher.Open) (hpresent : dispatcher.coordinator ≠ .absent) :
    dispatcher.stopCall = (false, { dispatcher with
      state := .stopping, stop := true, changed := true, stoppers := dispatcher.stoppers + 1 }) := by
  unfold Dispatcher.stopCall
  rcases hopen with ⟨hstate, -⟩ | ⟨hstate, -⟩
  · rw [hstate]
    cases hcoordinator : dispatcher.coordinator with
    | absent => exact absurd hcoordinator hpresent
    | created => rfl
    | waiting => rfl
    | idle => rfl
    | draining tasks error => rfl
    | ended error => rfl
  · rw [hstate]
    cases hcoordinator : dispatcher.coordinator with
    | absent => exact absurd hcoordinator hpresent
    | created => rfl
    | waiting => rfl
    | idle => rfl
    | draining tasks error => rfl
    | ended error => rfl

/-- A call of `stop` that returns at once leaves a halted dispatcher; another one
leaves the flag set. -/
theorem Dispatcher.Sound.stopCall (h : dispatcher.Sound settings) :
    dispatcher.stopCall.2.Sound settings ∧
      (dispatcher.stopCall.1 = true → dispatcher.stopCall.2.Halted) := by
  rcases h.phase.cases with ⟨hopen, hpresent⟩ | ⟨hdone, habsent, hcases⟩ | ⟨hdone, hended, hstopped⟩
  · rw [stopCall_open hopen hpresent]
    refine ⟨⟨⟨h.tracks.tracked, h.tracks.distinct, h.tracks.numbered, h.tracks.balanced⟩,
      h.bounded, ?_⟩, fun hreturned => by cases hreturned⟩
    have hphase := h.phase
    unfold Dispatcher.InPhase at hphase ⊢
    simp only
    cases hcoordinator : dispatcher.coordinator with
    | absent => exact absurd hcoordinator hpresent
    | ended error =>
        rw [hcoordinator] at hphase
        exact absurd hphase.2 hopen.not_stopped
    | created => exact Or.inr ⟨rfl, rfl⟩
    | waiting => exact Or.inr ⟨rfl, rfl⟩
    | idle => exact Or.inr ⟨rfl, rfl⟩
    | draining tasks error =>
        rw [hcoordinator] at hphase
        exact ⟨Or.inr ⟨rfl, rfl⟩, hphase.2⟩
  · rcases hcases with ⟨hnew, -⟩ | hstopped
    · have heq : dispatcher.stopCall = (true, { dispatcher with state := .stopped }) := by
        unfold Dispatcher.stopCall
        rw [hnew]
      have hphase : Dispatcher.InPhase { dispatcher with state := .stopped } := by
        unfold Dispatcher.InPhase
        simp only [habsent]
        exact ⟨hdone, Or.inr trivial⟩
      rw [heq]
      exact ⟨⟨⟨h.tracks.tracked, h.tracks.distinct, h.tracks.numbered, h.tracks.balanced⟩,
        h.bounded, hphase⟩, fun _ => ⟨rfl, hdone, Or.inl habsent⟩⟩
    · have heq : dispatcher.stopCall = (true, dispatcher) := by
        unfold Dispatcher.stopCall
        rw [hstopped]
      rw [heq]
      exact ⟨h, fun _ => h.halted hstopped⟩
  · have heq : dispatcher.stopCall = (true, dispatcher) := by
      unfold Dispatcher.stopCall
      rw [hstopped]
    rw [heq]
    exact ⟨h, fun _ => h.halted hstopped⟩

theorem Dispatcher.Sound.awaitIdle (h : dispatcher.Sound settings) :
    (dispatcher.awaitIdle kind store).2.Sound settings := by
  have hreap := h.reap
  have hwaiting : Dispatcher.Sound settings
      { dispatcher.reap with changed := false, idlers := dispatcher.reap.idlers + 1 } :=
    hreap.same ⟨hreap.tracks.tracked, hreap.tracks.distinct, hreap.tracks.numbered,
      hreap.tracks.balanced⟩ rfl rfl rfl rfl
  unfold Dispatcher.awaitIdle
  simp only
  split_ifs
  · split
    · exact hreap
    · exact hreap
    · exact hwaiting
  · exact hwaiting

theorem Dispatcher.Sound.waitIdle (h : dispatcher.Sound settings) :
    (dispatcher.waitIdle kind store).2.Sound settings := by
  have hnext := @Dispatcher.Sound.awaitIdle _ _ kind settings store dispatcher h
  unfold Dispatcher.waitIdle
  generalize dispatcher.awaitIdle kind store = result at hnext ⊢
  obtain ⟨answer, next⟩ := result
  cases answer with
  | error error => exact hnext
  | ok returned =>
      cases returned with
      | false => exact hnext
      | true => exact hnext

/-- **Step lemma.** -/
theorem Dispatcher.Sound.step (input : DispatcherInput σ) (h : dispatcher.Sound settings) :
    (dispatcher.step kind settings store input).2.Sound settings := by
  cases input with
  | start =>
      unfold Dispatcher.step
      simp only
      cases hstart : dispatcher.start with
      | error error => exact h
      | ok next => exact h.start hstart
  | stop =>
      have hnext := h.stopCall.1
      unfold Dispatcher.step
      simp only
      split
      · rename_i next hcall
        rw [hcall] at hnext
        exact hnext
      · rename_i next hcall
        rw [hcall] at hnext
        exact hnext
  | stopResumes =>
      show dispatcher.stopResumes.2.Sound settings
      unfold Dispatcher.stopResumes
      split
      · exact h.same ⟨h.tracks.tracked, h.tracks.distinct, h.tracks.numbered, h.tracks.balanced⟩
          rfl rfl rfl rfl
      · exact h
  | waitIdle =>
      unfold Dispatcher.step
      simp only
      split_ifs
      · exact h.waitIdle
      · exact h
  | waitIdleResumes =>
      unfold Dispatcher.step
      simp only
      split
      · exact h
      · apply Dispatcher.Sound.waitIdle
        exact h.same ⟨h.tracks.tracked, h.tracks.distinct, h.tracks.numbered, h.tracks.balanced⟩
          rfl rfl rfl rfl
  | coordinate => exact h.coordinate
  | taskEnds number outcome =>
      unfold Dispatcher.step
      simp only
      split
      · exact h
      · rename_i task htask
        exact h.execute outcome (List.mem_of_find?_eq_some htask)
  | storeBecomes store => exact h

/-! ### After a stop -/

/-- No task was created in between. -/
structure Dispatcher.Closed (before after : Dispatcher ι) : Prop where
  stop : after.stop = true
  dispatched : after.dispatched = before.dispatched
  unfinished : after.unfinished.Sublist before.unfinished

theorem Dispatcher.Closed.refl (hstop : dispatcher.stop = true) : dispatcher.Closed dispatcher :=
  ⟨hstop, rfl, List.Sublist.refl _⟩

theorem Dispatcher.Closed.trans {first second third : Dispatcher ι} (h : first.Closed second)
    (h' : second.Closed third) : first.Closed third :=
  ⟨h'.stop, h'.dispatched.trans h.dispatched, h'.unfinished.trans h.unfinished⟩

theorem waitIdle_fields : (dispatcher.waitIdle kind store).2.state = dispatcher.state ∧
    (dispatcher.waitIdle kind store).2.stop = dispatcher.stop ∧
    (dispatcher.waitIdle kind store).2.coordinator = dispatcher.coordinator ∧
    (dispatcher.waitIdle kind store).2.dispatched = dispatcher.dispatched ∧
    (dispatcher.waitIdle kind store).2.unfinished = dispatcher.unfinished := by
  unfold Dispatcher.waitIdle Dispatcher.awaitIdle
  simp only
  split_ifs
  · cases kind.listReady 1 store with
    | error error => exact ⟨rfl, rfl, rfl, rfl, rfl⟩
    | ok items =>
        cases items with
        | nil => exact ⟨rfl, rfl, rfl, rfl, rfl⟩
        | cons item rest => exact ⟨rfl, rfl, rfl, rfl, rfl⟩
  · exact ⟨rfl, rfl, rfl, rfl, rfl⟩

theorem drain_closed {error : Option PyError} (hstop : dispatcher.stop = true) :
    dispatcher.Closed (dispatcher.drain error) := by
  unfold Dispatcher.drain
  split_ifs
  · exact ⟨hstop, rfl, List.Sublist.refl _⟩
  · exact ⟨hstop, rfl, List.Sublist.refl _⟩

/-- With the flag set, a turn of the loop only drains. -/
theorem turn_closed (hstop : dispatcher.stop = true) :
    dispatcher.Closed (dispatcher.turn kind settings store) := by
  unfold Dispatcher.turn
  rw [if_pos hstop]
  exact drain_closed hstop

/-- **Step lemma.** -/
theorem step_closed (input : DispatcherInput σ) (hstop : dispatcher.stop = true) :
    dispatcher.Closed (dispatcher.step kind settings store input).2 := by
  have hsame : dispatcher.Closed dispatcher := Dispatcher.Closed.refl hstop
  cases input with
  | start =>
      unfold Dispatcher.step Dispatcher.start
      simp only
      split_ifs
      · exact ⟨hstop, rfl, List.Sublist.refl _⟩
      · exact hsame
  | stop =>
      unfold Dispatcher.step Dispatcher.stopCall
      cases dispatcher.state with
      | new => exact ⟨hstop, rfl, List.Sublist.refl _⟩
      | stopped => exact hsame
      | running =>
          cases dispatcher.coordinator <;> exact ⟨rfl, rfl, List.Sublist.refl _⟩
      | stopping =>
          cases dispatcher.coordinator <;> exact ⟨rfl, rfl, List.Sublist.refl _⟩
  | stopResumes =>
      show dispatcher.Closed dispatcher.stopResumes.2
      unfold Dispatcher.stopResumes
      split
      · exact ⟨hstop, rfl, List.Sublist.refl _⟩
      · exact hsame
  | waitIdle =>
      obtain ⟨-, hstop', -, hdispatched, hunfinished⟩ := @waitIdle_fields _ _ kind store dispatcher
      unfold Dispatcher.step
      simp only
      split_ifs
      · exact ⟨hstop'.trans hstop, hdispatched, by rw [hunfinished]⟩
      · exact hsame
  | waitIdleResumes =>
      unfold Dispatcher.step
      simp only
      split
      · exact hsame
      · rename_i waiting _
        obtain ⟨-, hstop', -, hdispatched, hunfinished⟩ :=
          @waitIdle_fields _ _ kind store { dispatcher with idlers := waiting }
        exact ⟨hstop'.trans hstop, hdispatched, by rw [hunfinished]⟩
  | coordinate =>
      show dispatcher.Closed (dispatcher.coordinate kind settings store)
      unfold Dispatcher.coordinate
      cases dispatcher.coordinator with
      | absent => exact hsame
      | ended error => exact hsame
      | created => exact turn_closed hstop
      | waiting => exact turn_closed hstop
      | idle => exact turn_closed hstop
      | draining tasks error =>
          simp only
          split_ifs
          · exact hsame
          · exact ⟨hstop, rfl, List.Sublist.refl _⟩
  | taskEnds number outcome =>
      unfold Dispatcher.step
      simp only
      split
      · exact hsame
      · rename_i task htask
        obtain ⟨-, hstop', -, hdispatched, hunfinished⟩ :=
          @execute_fields _ _ kind dispatcher task outcome
        exact ⟨hstop'.trans hstop, hdispatched, hunfinished⟩
  | storeBecomes store => exact hsame

/-- **Step lemma.** -/
theorem Dispatcher.Halted.step (input : DispatcherInput σ) (h : dispatcher.Halted) :
    (dispatcher.step kind settings store input).2.Halted := by
  obtain ⟨hstate, hdone, hcoordinator⟩ := h
  cases input with
  | start =>
      unfold Dispatcher.step Dispatcher.start
      rw [if_neg (by rw [hstate]; decide)]
      exact ⟨hstate, hdone, hcoordinator⟩
  | stop =>
      unfold Dispatcher.step Dispatcher.stopCall
      rw [hstate]
      exact ⟨hstate, hdone, hcoordinator⟩
  | stopResumes =>
      show dispatcher.stopResumes.2.Halted
      unfold Dispatcher.stopResumes
      split
      · exact ⟨hstate, hdone, hcoordinator⟩
      · exact ⟨hstate, hdone, hcoordinator⟩
  | waitIdle =>
      unfold Dispatcher.step
      simp only
      rw [if_neg (by rw [hstate]; decide)]
      exact ⟨hstate, hdone, hcoordinator⟩
  | waitIdleResumes =>
      unfold Dispatcher.step
      simp only
      split
      · exact ⟨hstate, hdone, hcoordinator⟩
      · rename_i waiting _
        obtain ⟨hstate', -, hcoordinator', -, hunfinished⟩ :=
          @waitIdle_fields _ _ kind store { dispatcher with idlers := waiting }
        refine ⟨hstate'.trans hstate, hunfinished.trans hdone, ?_⟩
        rw [hcoordinator']
        exact hcoordinator
  | coordinate =>
      show (dispatcher.coordinate kind settings store).Halted
      unfold Dispatcher.coordinate
      rcases hcoordinator with hplace | ⟨error, hplace⟩
      · rw [hplace]
        exact ⟨hstate, hdone, Or.inl hplace⟩
      · rw [hplace]
        exact ⟨hstate, hdone, Or.inr ⟨error, hplace⟩⟩
  | taskEnds number outcome =>
      unfold Dispatcher.step
      simp only [hdone, List.find?_nil]
      exact ⟨hstate, hdone, hcoordinator⟩
  | storeBecomes store => exact ⟨hstate, hdone, hcoordinator⟩

/-- When `stop` returns, the dispatcher has halted. -/
theorem halted_of_stopped {input : DispatcherInput σ} (h : dispatcher.Sound settings)
    (hanswer : (dispatcher.step kind settings store input).1 = .stopped) :
    (dispatcher.step kind settings store input).2.Halted := by
  cases input with
  | start =>
      unfold Dispatcher.step at hanswer
      simp only at hanswer
      split at hanswer <;> cases hanswer
  | stop =>
      have hhalted := h.stopCall.2
      unfold Dispatcher.step at hanswer ⊢
      simp only at hanswer ⊢
      generalize dispatcher.stopCall = result at hhalted hanswer ⊢
      obtain ⟨returned, next⟩ := result
      cases returned with
      | true => exact hhalted rfl
      | false => cases hanswer
  | stopResumes =>
      change dispatcher.stopResumes.1 = .stopped at hanswer
      show dispatcher.stopResumes.2.Halted
      unfold Dispatcher.stopResumes at hanswer ⊢
      split at hanswer
      · rename_i error waiting hcoordinator _
        have hphase := h.phase
        unfold Dispatcher.InPhase at hphase
        rw [hcoordinator] at hphase
        exact ⟨hphase.2, hphase.1, Or.inr ⟨error, hcoordinator⟩⟩
      · cases hanswer
  | waitIdle =>
      unfold Dispatcher.step Dispatcher.waitIdle at hanswer
      simp only at hanswer
      split_ifs at hanswer
      split at hanswer <;> cases hanswer
  | waitIdleResumes =>
      unfold Dispatcher.step Dispatcher.waitIdle at hanswer
      simp only at hanswer
      split at hanswer
      · cases hanswer
      · split at hanswer <;> cases hanswer
  | coordinate => cases hanswer
  | taskEnds number outcome =>
      unfold Dispatcher.step at hanswer
      simp only at hanswer
      split at hanswer
      · cases hanswer
      · cases outcome <;> cases hanswer
  | storeBecomes store => cases hanswer

/-! ### Failures -/

/-- The failure an answer reports. -/
def DispatcherAnswer.failure : DispatcherAnswer → Option DispatcherFailure
  | .recorded failure => some failure
  | .nothing | .started | .stopped | .idle | .raised _ => none

/-- What a step that reports this failure, or none, does to the failures. -/
def Dispatcher.Reports (before after : Dispatcher ι) : Option DispatcherFailure → Prop
  | none => after.recentFailures = before.recentFailures ∧ after.failures = before.failures
  | some failure => after.recentFailures = (before.recentFailures ++ [failure]).rtake 100 ∧
      after.failures = before.failures + 1

theorem turn_reports : dispatcher.Reports (dispatcher.turn kind settings store) none := by
  have hdrain : ∀ (other : Dispatcher ι) error, other.Reports (other.drain error) none := by
    intro other error
    unfold Dispatcher.drain
    split_ifs <;> exact ⟨rfl, rfl⟩
  have hpause : ∀ other : Dispatcher ι, other.Reports other.pause none := by
    intro other
    unfold Dispatcher.pause
    split_ifs <;> exact ⟨rfl, rfl⟩
  unfold Dispatcher.turn
  split_ifs
  · exact hdrain dispatcher none
  · simp only
    split_ifs
    · exact hpause dispatcher.reap
    · split
      · exact hdrain dispatcher.reap _
      · rename_i items _
        have hsame := @intake_same _ _ kind settings dispatcher.reap items
        have hpaused := hpause (dispatcher.reap.intake kind settings items)
        exact ⟨hpaused.1.trans hsame.recentFailures, hpaused.2.trans hsame.failures⟩

theorem execute_reports (task : ExecutionTask ι) (outcome : ExecutionOutcome) :
    dispatcher.Reports (dispatcher.execute kind task outcome)
      (Dispatcher.failureOf kind task.item outcome) := by
  cases outcome with
  | completed => exact ⟨rfl, rfl⟩
  | workflowConflict =>
      refine ⟨rfl, ?_⟩
      show dispatcher.workflowConflicts + 1 + dispatcher.executionFailures =
        dispatcher.workflowConflicts + dispatcher.executionFailures + 1
      omega
  | failed => exact ⟨rfl, rfl⟩

theorem waitIdle_reports : dispatcher.Reports (dispatcher.waitIdle kind store).2
    (dispatcher.waitIdle kind store).1.failure := by
  unfold Dispatcher.waitIdle Dispatcher.awaitIdle
  simp only
  split_ifs
  · cases kind.listReady 1 store with
    | error error => exact ⟨rfl, rfl⟩
    | ok items =>
        cases items with
        | nil => exact ⟨rfl, rfl⟩
        | cons item rest => exact ⟨rfl, rfl⟩
  · exact ⟨rfl, rfl⟩

/-- **Step lemma.** -/
theorem step_reports (input : DispatcherInput σ) :
    dispatcher.Reports (dispatcher.step kind settings store input).2
      (dispatcher.step kind settings store input).1.failure := by
  cases input with
  | start =>
      unfold Dispatcher.step Dispatcher.start
      simp only
      split_ifs <;> exact ⟨rfl, rfl⟩
  | stop =>
      unfold Dispatcher.step Dispatcher.stopCall
      cases dispatcher.state with
      | new => exact ⟨rfl, rfl⟩
      | stopped => exact ⟨rfl, rfl⟩
      | running => cases dispatcher.coordinator <;> exact ⟨rfl, rfl⟩
      | stopping => cases dispatcher.coordinator <;> exact ⟨rfl, rfl⟩
  | stopResumes =>
      show dispatcher.Reports dispatcher.stopResumes.2 dispatcher.stopResumes.1.failure
      unfold Dispatcher.stopResumes
      split
      · rename_i error _ _ _
        cases error <;> exact ⟨rfl, rfl⟩
      · exact ⟨rfl, rfl⟩
  | waitIdle =>
      unfold Dispatcher.step
      simp only
      split_ifs
      · exact waitIdle_reports
      · exact ⟨rfl, rfl⟩
  | waitIdleResumes =>
      unfold Dispatcher.step
      simp only
      split
      · exact ⟨rfl, rfl⟩
      · rename_i waiting _
        exact @waitIdle_reports _ _ kind store { dispatcher with idlers := waiting }
  | coordinate =>
      show dispatcher.Reports (dispatcher.coordinate kind settings store) none
      unfold Dispatcher.coordinate
      cases dispatcher.coordinator with
      | absent => exact ⟨rfl, rfl⟩
      | ended error => exact ⟨rfl, rfl⟩
      | created => exact turn_reports
      | waiting => exact turn_reports
      | idle => exact turn_reports
      | draining tasks error =>
          simp only
          split_ifs <;> exact ⟨rfl, rfl⟩
  | taskEnds number outcome =>
      unfold Dispatcher.step
      simp only
      split
      · exact ⟨rfl, rfl⟩
      · rename_i task _
        have hreports := @execute_reports _ _ kind dispatcher task outcome
        cases outcome with
        | completed => exact hreports
        | workflowConflict => exact hreports
        | failed => exact hreports
  | storeBecomes store => exact ⟨rfl, rfl⟩

/-! ### Whole runs -/

/-- The failures recorded in a run, in their order. -/
def recordedFailures (kind : DispatcherKind σ ι) (settings : DispatcherSettings)
    (system : DispatcherSystem σ ι) (inputs : List (DispatcherInput σ)) : List DispatcherFailure :=
  ((dispatching kind settings).answers system inputs).filterMap fun pair => pair.2.failure

/-- What a run leaves of the failures: the last hundred of them, and their number. -/
theorem after_failures {system : DispatcherSystem σ ι} {earlier : List DispatcherFailure}
    (inputs : List (DispatcherInput σ))
    (hrecent : system.dispatcher.recentFailures = earlier.rtake 100)
    (hcounted : system.dispatcher.failures = earlier.length) :
    ((dispatching kind settings).after system inputs).dispatcher.recentFailures =
        (earlier ++ recordedFailures kind settings system inputs).rtake 100 ∧
      ((dispatching kind settings).after system inputs).dispatcher.failures =
        (earlier ++ recordedFailures kind settings system inputs).length := by
  induction inputs generalizing system earlier with
  | nil =>
      show system.dispatcher.recentFailures = (earlier ++ []).rtake 100 ∧
        system.dispatcher.failures = (earlier ++ []).length
      rw [List.append_nil]
      exact ⟨hrecent, hcounted⟩
  | cons input rest ih =>
      have hreports := @step_reports _ _ kind settings system.store system.dispatcher input
      change system.dispatcher.Reports ((dispatching kind settings).next system input).dispatcher
        ((dispatching kind settings).answer system input).failure at hreports
      rw [Machine.after_cons]
      unfold recordedFailures
      rw [Machine.answers_cons, List.filterMap_cons]
      cases hfailure : ((dispatching kind settings).answer system input).failure with
      | none =>
          rw [hfailure] at hreports
          simp only
          exact ih (hreports.1.trans hrecent) (hreports.2.trans hcounted)
      | some failure =>
          rw [hfailure] at hreports
          simp only
          have hlonger := @ih ((dispatching kind settings).next system input) (earlier ++ [failure])
            (by rw [hreports.1, hrecent, rtake_append_rtake])
            (by rw [hreports.2, hcounted, List.length_append, List.length_singleton])
          rw [List.append_assoc, List.singleton_append] at hlonger
          exact hlonger

/-- **Run lemma.** -/
theorem after_sound (store : σ) (inputs : List (DispatcherInput σ)) :
    ((dispatching kind settings).after ⟨Dispatcher.initial, store⟩ inputs).dispatcher.Sound
      settings :=
  @Machine.after_invariant _ _ _ (dispatching kind settings)
    (fun system => system.dispatcher.Sound settings) (fun _ input h => h.step input) _
    initial_sound inputs

/-- Every dispatched task that a snapshot does not count as ended is among its active ones. -/
theorem snapshot_covers (store : σ) (inputs : List (DispatcherInput σ)) (shown : DispatcherSnapshot)
    (h : shown = ((dispatching kind settings).after ⟨Dispatcher.initial, store⟩
      inputs).dispatcher.snapshot) :
    shown.dispatched ≤
      shown.completed + shown.workflowConflicts + shown.executionFailures + shown.active := by
  subst h
  have htracks := (@after_sound _ _ kind settings store inputs).tracks
  have hbalanced := htracks.balanced
  have hactive := htracks.tracked.length_le
  unfold Dispatcher.snapshot
  dsimp only
  omega

/-- What holds in every run of a dispatcher. -/
structure DispatcherKept (kind : DispatcherKind σ ι) (settings : DispatcherSettings) : Prop where
  bounded : ∀ store inputs,
    (((dispatching kind settings).after ⟨Dispatcher.initial, store⟩
      inputs).dispatcher.unfinished.length : Int) ≤ settings.concurrency
  balanced : ∀ store inputs final,
    ((dispatching kind settings).after ⟨Dispatcher.initial, store⟩ inputs).dispatcher = final →
    final.dispatched = final.completed + final.workflowConflicts + final.executionFailures +
      final.unfinished.length
  closed : ∀ store inputs later,
    ((dispatching kind settings).after ⟨Dispatcher.initial, store⟩ inputs).dispatcher.stop = true →
    ((dispatching kind settings).after ⟨Dispatcher.initial, store⟩ inputs).dispatcher.Closed
      ((dispatching kind settings).after ⟨Dispatcher.initial, store⟩ (inputs ++ later)).dispatcher
  stopped : ∀ store inputs input later,
    (dispatching kind settings).answer ((dispatching kind settings).after
      ⟨Dispatcher.initial, store⟩ inputs) input = .stopped →
    ((dispatching kind settings).after ⟨Dispatcher.initial, store⟩
      (inputs ++ input :: later)).dispatcher.Halted
  recent : ∀ store inputs,
    ((dispatching kind settings).after ⟨Dispatcher.initial, store⟩
        inputs).dispatcher.recentFailures =
      (recordedFailures kind settings ⟨Dispatcher.initial, store⟩ inputs).rtake 100 ∧
    ((dispatching kind settings).after ⟨Dispatcher.initial, store⟩ inputs).dispatcher.failures =
      (recordedFailures kind settings ⟨Dispatcher.initial, store⟩ inputs).length

theorem dispatcher_kept (kind : DispatcherKind σ ι) (settings : DispatcherSettings) :
    DispatcherKept kind settings where
  bounded store inputs := (after_sound store inputs).bounded
  balanced store inputs final hfinal := hfinal ▸ (after_sound store inputs).tracks.balanced
  closed store inputs later hstop := by
    rw [Machine.after_append]
    generalize (dispatching kind settings).after ⟨Dispatcher.initial, store⟩ inputs = system at hstop ⊢
    exact @Machine.after_invariant _ _ _ (dispatching kind settings)
      (fun final => system.dispatcher.Closed final.dispatcher)
      (fun _ input h => h.trans (step_closed input h.stop)) _ (Dispatcher.Closed.refl hstop) later
  stopped store inputs input later hanswer := by
    rw [Machine.after_append, Machine.after_cons]
    exact @Machine.after_invariant _ _ _ (dispatching kind settings)
      (fun system => system.dispatcher.Halted) (fun _ other h => h.step other) _
      (halted_of_stopped (after_sound store inputs) hanswer) later
  recent store inputs := @after_failures _ _ kind settings ⟨Dispatcher.initial, store⟩ [] inputs rfl rfl

end Runs

/-- **Dispatchers.**  In every run of either dispatcher there are never more
unfinished tasks than the concurrency allows, every dispatched task is counted
once, no task is created after the stop flag is set, nobody works once `stop` has
returned, and the recent failures are the last hundred recorded ones. -/
theorem dispatchers_kept (settings : DispatcherSettings) :
    DispatcherKept LocalWorkflowDispatcher.kind settings ∧
      DispatcherKept LocalGraphDispatcher.kind settings :=
  ⟨dispatcher_kept _ settings, dispatcher_kept _ settings⟩

end Workflows
end Ryuk
