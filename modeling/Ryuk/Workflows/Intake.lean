import Ryuk.Workflows.DispatcherRuns
import Ryuk.Workflows.DurableBudget
import Ryuk.Workflows.Progress

/-!
# What an intake takes

An intake reads as many of the oldest ready items as there are free slots, and
starts a task for each.  Items that cannot be executed fail before they are
claimed and stay ready, in their places: an item that can be executed is reached
exactly when fewer of them are older than there are slots.
-/

namespace Ryuk
namespace Workflows

open Foundation Foundation.Json Foundation.Datetime Foundation.Transaction

/-- Among the first elements there is one of a kind exactly when fewer others
stand before the first one of all. -/
theorem exists_take_iff {α : Type} {kind : α → Bool} {count : Nat} {items : List α}
    (hexists : ∃ item ∈ items, kind item = true) :
    (∃ item ∈ items.take count, kind item = true) ↔
      (items.takeWhile fun item => !kind item).length < count := by
  induction items generalizing count with
  | nil =>
      obtain ⟨item, hitem, -⟩ := hexists
      cases hitem
  | cons first rest ih =>
      cases count with
      | zero =>
          rw [List.take_zero]
          constructor
          · rintro ⟨item, hitem, -⟩
            cases hitem
          · intro h
            omega
      | succ count =>
          rw [List.take_succ_cons, List.takeWhile_cons]
          cases hfirst : kind first with
          | true =>
              constructor
              · intro _
                exact Nat.succ_pos count
              · intro _
                exact ⟨first, List.mem_cons_self .., hfirst⟩
          | false =>
              have hrest : ∃ item ∈ rest, kind item = true := by
                obtain ⟨item, hitem, hkind⟩ := hexists
                rcases List.mem_cons.mp hitem with rfl | hitem
                · rw [hfirst] at hkind
                  cases hkind
                · exact ⟨item, hitem, hkind⟩
              show _ ↔ (first :: rest.takeWhile fun item => !kind item).length < count + 1
              rw [List.length_cons, Nat.succ_lt_succ_iff, ← ih hrest]
              constructor
              · rintro ⟨item, hitem, hkind⟩
                rcases List.mem_cons.mp hitem with rfl | hitem
                · rw [hfirst] at hkind
                  cases hkind
                · exact ⟨item, hitem, hkind⟩
              · rintro ⟨item, hitem, hkind⟩
                exact ⟨item, List.mem_cons_of_mem _ hitem, hkind⟩

/-! ### Work that can be executed -/

/-- `TaskPacket.from_dict(json.loads(text))` returns. -/
def packetIsValid (text : String) : Bool :=
  match loadsJson text with
  | .ok value => (TaskPacket.fromDict value).isOk
  | .error _ => false

/-- The workflow has a stored binding and a valid packet. -/
def workflowExecutable (tables : Tables) (item : String × String) : Bool :=
  (tables.bindings.fetchone fun row =>
      decide (row.tenant = item.1) && decide (row.workflowId = item.2)).isSome &&
    (tables.workflows.fetchone (ownedBy item.1 item.2)).any fun row => packetIsValid row.packet

/-- The graph of the node has a bound policy and a budget that has not expired. -/
def graphNodeExecutable (now : Instant) (tables : GraphTables)
    (item : String × String × String) : Bool :=
  ((tables.graphs.fetchone fun row =>
      decide (row.tenant = item.1) && decide (row.id = item.2.1)).any fun row =>
        row.bindingJson.isSome) &&
    (tables.budgets.fetchone (budgetOf item.1 item.2.1)).any fun row =>
      match deadlineReached row.deadlineAt now with
      | .ok reached => !reached
      | .error _ => false

/-- A dispatcher whose queue reads the ready items of some tables, and which of
these can be executed at a time. -/
structure ReadyWork (τ ι : Type) where
  kind : DispatcherKind (Opened τ) ι
  ready : τ → List ι
  executable : Instant → τ → ι → Bool
  reads : ∀ limit tables, 1 ≤ limit → limit ≤ 1000 →
    kind.listReady limit (.ok tables) = .ok ((ready tables).take limit.toNat)

def LocalWorkflowDispatcher.work : ReadyWork Tables (String × String) where
  kind := LocalWorkflowDispatcher.kind
  ready := readyWorkflows
  executable _ := workflowExecutable
  reads _ tables hlow hhigh := readReady_ok.mpr ⟨⟨hlow, hhigh⟩, tables, rfl, rfl⟩

def LocalGraphDispatcher.work : ReadyWork GraphTables (String × String × String) where
  kind := LocalGraphDispatcher.kind
  ready := readyGraphNodes
  executable := graphNodeExecutable
  reads _ tables hlow hhigh := readReady_ok.mpr ⟨⟨hlow, hhigh⟩, tables, rfl, rfl⟩

/-! ### One intake -/

section Intake

variable {σ ι : Type} {kind : DispatcherKind σ ι} {settings : DispatcherSettings} {store : σ}
  {dispatcher : Dispatcher ι}

/-- An intake starts a task with a new number for every item. -/
theorem intake_tasks (items : List ι) (hopen : dispatcher.stop = false) :
    ∃ tasks : List (ExecutionTask ι),
      (dispatcher.intake kind settings items).unfinished = dispatcher.unfinished ++ tasks ∧
      tasks.map ExecutionTask.item = items ∧
      ∀ task ∈ tasks, dispatcher.sequence < task.number := by
  induction items generalizing dispatcher with
  | nil => exact ⟨[], (List.append_nil _).symm, rfl, fun _ h => (List.not_mem_nil h).elim⟩
  | cons item rest ih =>
      unfold Dispatcher.intake
      rw [if_neg (by rw [hopen]; decide)]
      obtain ⟨tasks, hunfinished, hitems, hnumbers⟩ := @ih
        { dispatcher with
          sequence := dispatcher.sequence + 1
          active := dispatcher.active ++ [dispatcher.nextTask settings item]
          unfinished := dispatcher.unfinished ++ [dispatcher.nextTask settings item]
          dispatched := dispatcher.dispatched + 1
          changed := kind.announces || dispatcher.changed } hopen
      refine ⟨dispatcher.nextTask settings item :: tasks, ?_, ?_, fun task htask => ?_⟩
      · rw [hunfinished, List.append_assoc, List.singleton_append]
      · rw [List.map_cons, hitems]
        rfl
      · rcases List.mem_cons.mp htask with rfl | htask
        · exact Nat.lt_succ_self _
        · exact Nat.lt_of_succ_lt (hnumbers task htask)

/-- The coordinator is about to take in work, with at least one free slot. -/
structure Dispatcher.AtIntake (settings : DispatcherSettings) (dispatcher : Dispatcher ι) : Prop where
  resumed : dispatcher.coordinator = .created ∨ dispatcher.coordinator = .waiting ∨
    dispatcher.coordinator = .idle
  running : dispatcher.stop = false
  free : 0 < dispatcher.reap.slots settings

theorem pause_unfinished : dispatcher.pause.unfinished = dispatcher.unfinished := by
  unfold Dispatcher.pause
  split_ifs <;> rfl

/-- A turn at an intake. -/
theorem coordinate_intake {items : List ι} (hintake : dispatcher.AtIntake settings)
    (hitems : kind.listReady (dispatcher.reap.slots settings) store = .ok items) :
    dispatcher.coordinate kind settings store = (dispatcher.reap.intake kind settings items).pause := by
  have hturn : dispatcher.turn kind settings store =
      (dispatcher.reap.intake kind settings items).pause := by
    have hfree := hintake.free
    unfold Dispatcher.turn
    rw [if_neg (by rw [hintake.running]; decide)]
    simp only
    rw [if_neg (by omega), hitems]
  unfold Dispatcher.coordinate
  rcases hintake.resumed with h | h | h
  · rw [h]
    exact hturn
  · rw [h]
    exact hturn
  · rw [h]
    exact hturn

end Intake

/-! ### Intakes of whole runs -/

section Service

variable {τ ι : Type} (work : ReadyWork τ ι) (now : Instant) (settings : DispatcherSettings)

/-- A ready item that can be executed waits for a task. -/
def Waits (tables : τ) (dispatcher : Dispatcher ι) : Prop :=
  ∃ item ∈ work.ready tables, work.executable now tables item = true ∧
    ∀ task ∈ dispatcher.unfinished, task.item ≠ item

/-- If such an item waits, the intake starts a task for an item that can be
executed. -/
def IntakeServes (system : DispatcherSystem (Opened τ) ι) : Prop :=
  ∀ tables, system.store = .ok tables → system.dispatcher.AtIntake settings →
    Waits work now tables system.dispatcher →
    ∃ task ∈ ((dispatching work.kind settings).next system .coordinate).dispatcher.unfinished,
      task ∉ system.dispatcher.unfinished ∧ work.executable now tables task.item = true

/-- If such an item waits, fewer ready items that cannot be executed are older than
all that can than there are free slots. -/
def IntakeUnblocked (system : DispatcherSystem (Opened τ) ι) : Prop :=
  ∀ tables, system.store = .ok tables → system.dispatcher.AtIntake settings →
    Waits work now tables system.dispatcher →
    (((work.ready tables).takeWhile fun item => !work.executable now tables item).length : Int) <
      system.dispatcher.reap.slots settings

variable {work} {now} {settings}

theorem slots_le {dispatcher : Dispatcher ι} : dispatcher.slots settings ≤ 64 := by
  have hhigh := settings.allowed.2
  unfold Dispatcher.slots
  omega

theorem intakeServes_iff {system : DispatcherSystem (Opened τ) ι}
    (hsound : system.dispatcher.Sound settings) :
    IntakeServes work now settings system ↔ IntakeUnblocked work now settings system := by
  unfold IntakeServes IntakeUnblocked
  refine forall_congr' fun tables => forall_congr' fun hstore => forall_congr' fun hintake =>
    forall_congr' fun hwaits => ?_
  obtain ⟨item, hitem, hexecutable, -⟩ := hwaits
  have hfree := hintake.free
  have hslots : system.dispatcher.reap.slots settings ≤ 64 := slots_le
  have hitems := work.reads (system.dispatcher.reap.slots settings) tables (by omega) (by omega)
  rw [← hstore] at hitems
  -- the tasks the intake starts
  obtain ⟨tasks, hunfinished, htaken, hnumbers⟩ := @intake_tasks _ _ work.kind settings
    system.dispatcher.reap ((work.ready tables).take (system.dispatcher.reap.slots settings).toNat)
    hintake.running
  have hnext : ((dispatching work.kind settings).next system .coordinate).dispatcher.unfinished =
      system.dispatcher.unfinished ++ tasks := by
    show (system.dispatcher.coordinate work.kind settings system.store).unfinished = _
    rw [coordinate_intake hintake hitems, pause_unfinished, hunfinished]
    rfl
  have hstarts : (∃ task ∈ ((dispatching work.kind settings).next system .coordinate).dispatcher.unfinished,
      task ∉ system.dispatcher.unfinished ∧ work.executable now tables task.item = true) ↔
        ∃ item ∈ (work.ready tables).take (system.dispatcher.reap.slots settings).toNat,
          work.executable now tables item = true := by
    rw [hnext, ← htaken]
    constructor
    · rintro ⟨task, htask, hnew, hkind⟩
      rcases List.mem_append.mp htask with hold | hstarted
      · exact absurd hold hnew
      · exact ⟨task.item, List.mem_map_of_mem hstarted, hkind⟩
    · rintro ⟨other, hother, hkind⟩
      obtain ⟨task, htask, rfl⟩ := List.mem_map.mp hother
      refine ⟨task, List.mem_append_right _ htask, fun hold => ?_, hkind⟩
      -- an unfinished task has an older number
      have hle := hsound.tracks.numbered task (hsound.tracks.tracked.subset hold)
      have hlt : system.dispatcher.sequence < task.number := hnumbers task htask
      omega
  rw [hstarts, exists_take_iff ⟨item, hitem, hexecutable⟩]
  omega

end Service

/-- **Intakes.**  In every run of either dispatcher, an intake serves the work that
waits exactly when fewer unexecutable items are ahead of it than there are free
slots. -/
theorem intakes_serve_iff (settings : DispatcherSettings) (now : Instant) :
    (∀ store inputs, IntakeServes LocalWorkflowDispatcher.work now settings
        ((dispatching LocalWorkflowDispatcher.kind settings).after ⟨Dispatcher.initial, store⟩
          inputs) ↔
      IntakeUnblocked LocalWorkflowDispatcher.work now settings
        ((dispatching LocalWorkflowDispatcher.kind settings).after ⟨Dispatcher.initial, store⟩
          inputs)) ∧
    ∀ store inputs, IntakeServes LocalGraphDispatcher.work now settings
        ((dispatching LocalGraphDispatcher.kind settings).after ⟨Dispatcher.initial, store⟩
          inputs) ↔
      IntakeUnblocked LocalGraphDispatcher.work now settings
        ((dispatching LocalGraphDispatcher.kind settings).after ⟨Dispatcher.initial, store⟩
          inputs) :=
  ⟨fun store inputs => intakeServes_iff (after_sound store inputs),
    fun store inputs => intakeServes_iff (after_sound store inputs)⟩

/-! ### A workflow that is never reached -/

/-- One slot. -/
def DispatcherSettings.single : DispatcherSettings := ⟨"local", 1, by decide⟩

/-- A workflow without a binding that was created first keeps the only slot from a
bound one. -/
theorem intake_blocked :
    ¬ ∀ (platform : Platform) (tables : Tables) (settings : DispatcherSettings) (now : Instant)
        (inputs : List (DispatcherInput (Opened Tables))),
      (store platform).Reachable Tables.empty tables →
      IntakeServes LocalWorkflowDispatcher.work now settings
        ((dispatching LocalWorkflowDispatcher.kind settings).after
          ⟨Dispatcher.initial, .ok tables⟩ inputs) := by
  intro h
  obtain ⟨platform⟩ : Nonempty Platform := ⟨⟨id, id, fun _ => true⟩⟩
  obtain ⟨packet, hpacket⟩ : ∃ packet : TaskPacket, packet.Storable :=
    ⟨TaskPacket.short, TaskPacket.short_storable⟩
  obtain ⟨now⟩ : Nonempty Instant := ⟨⟨0, by decide⟩⟩
  -- one workflow without a binding, then one with a binding
  obtain ⟨first, created, hcreate, hrows, hid, htenant, hkey, hready, -, hbound⟩ :=
    @create_fresh platform "t" "k" "a" packet none Tables.empty (by decide) (by decide) hpacket
      (fun _ hnone => by cases hnone) (fun row hrow => by cases hrow) rfl rfl
  have hrows' : created.workflows.rows = [first] := hrows
  have hfresh : created.workflows.find "b" = none := by
    rw [Table.find_eq_none_iff, hrows', List.map_singleton, List.mem_singleton, hid]
    decide
  obtain ⟨second, tables, hcreate', hadded, hid', htenant', -, hready', ⟨value, hvalue, hdecode⟩,
    hbound'⟩ := @create_fresh platform "t" "l" "b" packet (some []) created (by decide) (by decide)
      hpacket (fun fields hfields => by rw [← Option.some.inj hfields]; rfl)
      (fun row hrow => by
        rw [hrows', List.mem_singleton] at hrow
        rw [hrow, hkey]
        rintro ⟨-, hsame⟩
        exact absurd hsame (by decide)) hfresh (by rw [hbound]; rfl)
  have hfirst : (store platform).next Tables.empty (.create "t" "k" packet none "a") = created := by
    apply Machine.next_of_step
    apply step_of_body
    exact map_ok.mpr ⟨_, hcreate, rfl⟩
  have hsecond : (store platform).next created (.create "t" "l" packet (some []) "b") = tables := by
    apply Machine.next_of_step
    apply step_of_body
    exact map_ok.mpr ⟨_, hcreate', rfl⟩
  have hreach : (store platform).Reachable Tables.empty tables := by
    rw [← hsecond, ← hfirst]
    exact ((Machine.Reachable.refl _).next _).next _
  have hall : tables.workflows.rows = [first, second] := by
    rw [hadded, hrows']
    rfl
  have hlist : readyWorkflows tables = [("t", "a"), ("t", "b")] := by
    unfold readyWorkflows Table.select
    rw [hall]
    simp only [List.filter_cons, hready, hready', decide_true, if_true, List.filter_nil,
      List.map_cons, List.map_nil, hid, hid', htenant, htenant']
  have hbindings : ∀ id, tables.bindings.fetchone (fun row =>
      decide (row.tenant = "t") && decide (row.workflowId = id)) =
        (tables.bindings.find id).filter fun row =>
          decide (row.tenant = "t") && decide (row.workflowId = id) := by
    intro id
    apply Table.fetchone_of_key
    intro row hrow
    rw [Bool.and_eq_true, decide_eq_true_eq, decide_eq_true_eq] at hrow
    exact hrow.2
  -- only the second one can be executed
  have hblocker : workflowExecutable tables ("t", "a") = false := by
    unfold workflowExecutable
    simp only
    rw [hbindings, hbound', if_neg (by decide), hbound, if_pos rfl]
    rfl
  have hexecutable : workflowExecutable tables ("t", "b") = true := by
    have howned : ∀ row, ownedBy "t" "b" row = true ↔ row.tenant = "t" ∧ row.id = "b" := by
      intro row
      unfold ownedBy
      rw [Bool.and_eq_true, decide_eq_true_eq, decide_eq_true_eq]
    have hsecond : tables.workflows.fetchone (ownedBy "t" "b") = some second := by
      have hmem : second ∈ tables.workflows.rows := by
        rw [hall]
        exact List.mem_cons_of_mem _ (List.mem_singleton_self _)
      have hfind := Table.find_of_mem hmem
      rw [hid'] at hfind
      rw [Table.fetchone_of_key (fun row hrow => ((howned row).mp hrow).2), hfind]
      exact Option.filter_eq_some_iff.mpr ⟨rfl, (howned second).mpr ⟨htenant', hid'⟩⟩
    unfold workflowExecutable
    simp only
    rw [hbindings, hbound', if_pos rfl, hsecond]
    unfold packetIsValid
    simp only [Option.any_some, hvalue, hdecode]
    rfl
  have hserves := h platform tables DispatcherSettings.single now [.start] hreach
  have hunblocked := (intakeServes_iff (after_sound _ _)).mp hserves tables rfl
    ⟨Or.inl rfl, rfl, Int.zero_lt_one⟩
    ⟨("t", "b"), by
      show ("t", "b") ∈ readyWorkflows tables
      rw [hlist]
      exact List.mem_cons_of_mem _ (List.mem_singleton_self _), hexecutable,
      fun _ hnone => (List.not_mem_nil hnone).elim⟩
  change (((readyWorkflows tables).takeWhile fun item =>
    !workflowExecutable tables item).length : Int) < 1 at hunblocked
  rw [hlist, List.takeWhile_cons_of_pos (by rw [hblocker]; rfl), List.length_cons] at hunblocked
  omega

end Workflows
end Ryuk
