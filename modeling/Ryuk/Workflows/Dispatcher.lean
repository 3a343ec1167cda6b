import Mathlib.Data.List.DropRight
import Ryuk.Workflows.GraphStore

/-!
# The local dispatchers

`LocalWorkflowDispatcher` and `LocalGraphDispatcher` run the same event loop over
different queues.  One input of the machine below is what the loop runs between
two awaits: a call of `start`, `stop` or `wait_idle`, the resumption of one of
these calls, of the coordinator, or the end of an execution.  Every wait has a
timeout, so a waiting call or coordinator may be resumed at any time; only the
drain and the calls of `stop` wait for what they name.

The store is whatever the loop finds it to be: executions and other callers may
change it between any two inputs, and it may raise.
-/

namespace Ryuk
namespace Workflows

open Foundation Foundation.Decimal Foundation.Text

/-! ### Ready work -/

/-- A store as a reader finds it: its tables, or what any statement raises. -/
abbrev Opened (τ : Type) := Except PyError τ

/-- `ORDER BY rowid LIMIT ?` over the ready rows, after the check of the limit. -/
def readReady {τ ι : Type} (message : String) (ready : τ → List ι) (limit : Int)
    (store : Opened τ) : Except PyError (List ι) := do
  ensure (decide (1 ≤ limit) && decide (limit ≤ 1000)) (.valueError message)
  let tables ← store
  pure ((ready tables).take limit.toNat)

/-- `SELECT tenant, id FROM workflows WHERE state='ready' ORDER BY rowid`. -/
def readyWorkflows (tables : Tables) : List (String × String) :=
  (tables.workflows.select fun row => decide (row.state = .ready)).map fun row =>
    (row.tenant, row.id)

/-- `SELECT tenant, graph_id, node_id FROM workflow_graph_nodes WHERE state=? ORDER BY rowid`. -/
def readyGraphNodes (tables : GraphTables) : List (String × String × String) :=
  (tables.nodes.select fun row => decide (row.state = .ready)).map fun row =>
    (row.tenant, row.graphId, row.nodeId)

/-- `list_ready`. -/
def listReady : Int → Opened Tables → Except PyError (List (String × String)) :=
  readReady "Ready workflow limit must be between 1 and 1000" readyWorkflows

/-- `list_ready_graph_nodes`. -/
def listReadyGraphNodes :
    Int → Opened GraphTables → Except PyError (List (String × String × String)) :=
  readReady "Ready graph-node limit must be between 1 and 1000" readyGraphNodes

theorem readReady_ok {τ ι : Type} {message : String} {ready : τ → List ι} {limit : Int}
    {store : Opened τ} {items : List ι} :
    readReady message ready limit store = .ok items ↔
      (1 ≤ limit ∧ limit ≤ 1000) ∧ ∃ tables, store = .ok tables ∧
        (ready tables).take limit.toNat = items := by
  unfold readReady
  rw [ensure_bind_ok, Bool.and_eq_true, decide_eq_true_eq, decide_eq_true_eq]
  simp only [except_bind_ok]
  constructor
  · rintro ⟨hlimit, tables, hstore, hitems⟩
    exact ⟨hlimit, tables, hstore, Except.ok.inj hitems⟩
  · rintro ⟨hlimit, tables, hstore, rfl⟩
    exact ⟨hlimit, tables, hstore, rfl⟩

theorem readReady_bounded {τ ι : Type} {message : String} {ready : τ → List ι} {limit : Int}
    {store : Opened τ} {items : List ι} (h : readReady message ready limit store = .ok items) :
    (items.length : Int) ≤ limit := by
  obtain ⟨⟨hlow, -⟩, tables, -, rfl⟩ := readReady_ok.mp h
  rw [List.length_take]
  omega

/-- What tells the two dispatchers apart: the queue they read, whose work an item
is, and whether an intake sets the `_changed` event. -/
structure DispatcherKind (σ ι : Type) where
  listReady : Int → σ → Except PyError (List ι)
  tenant : ι → String
  workflowId : ι → String
  announces : Bool
  bounded : ∀ limit store items, listReady limit store = .ok items → (items.length : Int) ≤ limit

def LocalWorkflowDispatcher.kind : DispatcherKind (Opened Tables) (String × String) where
  listReady := listReady
  tenant := fun item => item.1
  workflowId := fun item => item.2
  announces := true
  bounded _ _ _ := readReady_bounded

def LocalGraphDispatcher.kind : DispatcherKind (Opened GraphTables) (String × String × String) where
  listReady := listReadyGraphNodes
  tenant := fun item => item.1
  workflowId := fun item => item.2.1
  announces := false
  bounded _ _ _ := readReady_bounded

/-! ### Construction -/

/-- What a dispatcher was made with, as far as its loop reads it. -/
structure DispatcherSettings where
  ownerPrefix : String
  concurrency : Int
  allowed : 1 ≤ concurrency ∧ concurrency ≤ 64

/-- The checks that both constructors make of the poll interval and the lease. -/
def checkTimes (pollIntervalSeconds : Number) (leaseSeconds : Int) : Except PyError Unit := do
  ensure (pollIntervalSeconds.toRat?.any fun seconds =>
      decide (1 / 1000 ≤ seconds) && decide (seconds ≤ 60))
    (.valueError "Poll interval must be between 0.001 and 60 seconds")
  ensure (decide (1 ≤ leaseSeconds) && decide (leaseSeconds ≤ 3600))
    (.valueError "Lease must be between 1 and 3600 seconds")

/-- `LocalWorkflowDispatcher(executor, ...)`. -/
def LocalWorkflowDispatcher.new (ownerPrefix : String) (concurrency : Int)
    (pollIntervalSeconds : Number) (leaseSeconds : Int) (preferredEngine : Option String) :
    Except PyError DispatcherSettings := do
  ensure (isCanonicalId ownerPrefix)
    (.valueError "Owner prefix must be nonempty without outer whitespace")
  if allowed : 1 ≤ concurrency ∧ concurrency ≤ 64 then
    checkTimes pollIntervalSeconds leaseSeconds
    ensure (preferredEngine.all fun engine => decide (strip engine ≠ ""))
      (.valueError "Preferred engine must be a nonblank string")
    pure ⟨ownerPrefix, concurrency, allowed⟩
  else throw (.valueError "Concurrency must be between 1 and 64")

/-- `LocalGraphDispatcher(executor, ...)`. -/
def LocalGraphDispatcher.new (ownerPrefix : String) (concurrency : Int)
    (pollIntervalSeconds : Number) (leaseSeconds : Int) : Except PyError DispatcherSettings := do
  ensure (isCanonicalId ownerPrefix)
    (.valueError "Owner prefix must be canonical nonblank text")
  if allowed : 1 ≤ concurrency ∧ concurrency ≤ 64 then
    checkTimes pollIntervalSeconds leaseSeconds
    pure ⟨ownerPrefix, concurrency, allowed⟩
  else throw (.valueError "Concurrency must be between 1 and 64")

/-! ### The state of a dispatcher -/

inductive DispatcherState where
  | new
  | running
  | stopping
  | stopped
  deriving DecidableEq

structure DispatcherFailure where
  tenant : String
  workflowId : String
  code : String
  deriving DecidableEq

/-- A task that runs `_execute` on an item; tasks are told apart by their number. -/
structure ExecutionTask (ι : Type) where
  number : Nat
  owner : String
  item : ι

/-- Where the coordinator is: created but not yet run, waiting for one of the
active tasks, waiting for a change, gathering the tasks in the end, or done. -/
inductive Coordinator (ι : Type) where
  | absent
  | created
  | waiting
  | idle
  | draining (tasks : List (ExecutionTask ι)) (error : Option PyError)
  | ended (error : Option PyError)

/-- The fields of a dispatcher, with the tasks of the loop that are not done and
the calls of `stop` and `wait_idle` that have not returned. -/
structure Dispatcher (ι : Type) where
  state : DispatcherState
  sequence : Nat
  dispatched : Nat
  completed : Nat
  workflowConflicts : Nat
  executionFailures : Nat
  recentFailures : List DispatcherFailure
  active : List (ExecutionTask ι)
  stop : Bool
  changed : Bool
  coordinator : Coordinator ι
  unfinished : List (ExecutionTask ι)
  stoppers : Nat
  idlers : Nat

/-- A dispatcher that was just made. -/
def Dispatcher.initial {ι : Type} : Dispatcher ι where
  state := .new
  sequence := 0
  dispatched := 0
  completed := 0
  workflowConflicts := 0
  executionFailures := 0
  recentFailures := []
  active := []
  stop := false
  changed := false
  coordinator := .absent
  unfinished := []
  stoppers := 0
  idlers := 0

/-- `DispatcherSnapshot`. -/
structure DispatcherSnapshot where
  state : DispatcherState
  active : Nat
  dispatched : Nat
  completed : Nat
  workflowConflicts : Nat
  executionFailures : Nat
  recentFailures : List DispatcherFailure

/-- What a dispatcher raises itself, or lets through from the store. -/
inductive DispatcherError where
  | runtimeError (message : String)
  | store (error : PyError)

/-- How an execution ends. -/
inductive ExecutionOutcome where
  | completed
  | workflowConflict
  | failed
  deriving DecidableEq

namespace Dispatcher

variable {σ ι : Type}

def snapshot (dispatcher : Dispatcher ι) : DispatcherSnapshot where
  state := dispatcher.state
  active := dispatcher.active.length
  dispatched := dispatcher.dispatched
  completed := dispatcher.completed
  workflowConflicts := dispatcher.workflowConflicts
  executionFailures := dispatcher.executionFailures
  recentFailures := dispatcher.recentFailures

/-! ### Intake -/

/-- `not task.done()`. -/
def isUnfinished (dispatcher : Dispatcher ι) (task : ExecutionTask ι) : Bool :=
  decide (task.number ∈ dispatcher.unfinished.map ExecutionTask.number)

/-- `_reap`. -/
def reap (dispatcher : Dispatcher ι) : Dispatcher ι :=
  { dispatcher with active := dispatcher.active.filter dispatcher.isUnfinished }

/-- The task of the next item. -/
def nextTask (settings : DispatcherSettings) (dispatcher : Dispatcher ι) (item : ι) :
    ExecutionTask ι :=
  ⟨dispatcher.sequence + 1, settings.ownerPrefix ++ ":" ++ toString (dispatcher.sequence + 1), item⟩

/-- The loop over the ready items. -/
def intake (kind : DispatcherKind σ ι) (settings : DispatcherSettings) :
    List ι → Dispatcher ι → Dispatcher ι
  | [], dispatcher => dispatcher
  | item :: rest, dispatcher =>
      if dispatcher.stop then dispatcher
      else intake kind settings rest
        { dispatcher with
          sequence := dispatcher.sequence + 1
          active := dispatcher.active ++ [dispatcher.nextTask settings item]
          unfinished := dispatcher.unfinished ++ [dispatcher.nextTask settings item]
          dispatched := dispatcher.dispatched + 1
          changed := kind.announces || dispatcher.changed }

/-! ### The coordinator -/

/-- The last lines of `_run`, after the tasks were gathered. -/
def finish (dispatcher : Dispatcher ι) (error : Option PyError) : Dispatcher ι :=
  { dispatcher.reap with state := .stopped, changed := true, coordinator := .ended error }

/-- The `finally` block of `_run`, up to its await. -/
def drain (dispatcher : Dispatcher ι) (error : Option PyError) : Dispatcher ι :=
  if dispatcher.active.isEmpty then dispatcher.finish error
  else { dispatcher with coordinator := .draining dispatcher.active error }

/-- The end of a turn of the loop, up to its await. -/
def pause (dispatcher : Dispatcher ι) : Dispatcher ι :=
  if dispatcher.active.isEmpty then { dispatcher with changed := false, coordinator := .idle }
  else { dispatcher with coordinator := .waiting }

/-- The free slots of a turn: `self._concurrency - len(self._active)`. -/
def slots (settings : DispatcherSettings) (dispatcher : Dispatcher ι) : Int :=
  settings.concurrency - dispatcher.active.length

/-- `_run`, from the test of its loop to the next await. -/
def turn (kind : DispatcherKind σ ι) (settings : DispatcherSettings) (store : σ)
    (dispatcher : Dispatcher ι) : Dispatcher ι :=
  if dispatcher.stop then dispatcher.drain none
  else
    let reaped := dispatcher.reap
    let slots := reaped.slots settings
    if slots = 0 then reaped.pause
    else
      match kind.listReady slots store with
      | .error error => reaped.drain (some error)
      | .ok items => (reaped.intake kind settings items).pause

/-- The coordinator is resumed; a drain goes on when all its tasks are done. -/
def coordinate (kind : DispatcherKind σ ι) (settings : DispatcherSettings) (store : σ)
    (dispatcher : Dispatcher ι) : Dispatcher ι :=
  match dispatcher.coordinator with
  | .created | .waiting | .idle => dispatcher.turn kind settings store
  | .draining tasks error =>
      if tasks.any dispatcher.isUnfinished then dispatcher else dispatcher.finish error
  | .absent | .ended _ => dispatcher

/-! ### Executions -/

/-- `_record_failure`. -/
def recordFailure (dispatcher : Dispatcher ι) (failure : DispatcherFailure) : Dispatcher ι :=
  { dispatcher with recentFailures := (dispatcher.recentFailures ++ [failure]).rtake 100 }

/-- The failure an outcome records. -/
def failureOf (kind : DispatcherKind σ ι) (item : ι) : ExecutionOutcome → Option DispatcherFailure
  | .completed => none
  | .workflowConflict => some ⟨kind.tenant item, kind.workflowId item, "workflow_conflict"⟩
  | .failed => some ⟨kind.tenant item, kind.workflowId item, "unexpected_execution_failure"⟩

/-- The handlers of `_execute`. -/
def settle (dispatcher : Dispatcher ι) : ExecutionOutcome → Dispatcher ι
  | .completed => { dispatcher with completed := dispatcher.completed + 1 }
  | .workflowConflict =>
      { dispatcher with workflowConflicts := dispatcher.workflowConflicts + 1 }
  | .failed => { dispatcher with executionFailures := dispatcher.executionFailures + 1 }

/-- The end of `_execute`: the task is done. -/
def execute (kind : DispatcherKind σ ι) (dispatcher : Dispatcher ι) (task : ExecutionTask ι)
    (outcome : ExecutionOutcome) : Dispatcher ι :=
  let settled := dispatcher.settle outcome
  let recorded := (failureOf kind task.item outcome).elim settled settled.recordFailure
  { recorded with
    changed := true
    unfinished := dispatcher.unfinished.eraseP fun other => decide (other.number = task.number) }

/-! ### Calls -/

/-- `start`. -/
def start (dispatcher : Dispatcher ι) : Except DispatcherError (Dispatcher ι) :=
  if dispatcher.state = .new then
    .ok { dispatcher with state := .running, coordinator := .created }
  else .error (.runtimeError "Dispatcher can only be started once")

/-- `stop`, up to its await; it returns at once when there is nothing to wait for. -/
def stopCall (dispatcher : Dispatcher ι) : Bool × Dispatcher ι :=
  match dispatcher.state with
  | .new => (true, { dispatcher with state := .stopped })
  | .stopped => (true, dispatcher)
  | .running | .stopping =>
      let stopping := { dispatcher with state := .stopping, stop := true, changed := true }
      match dispatcher.coordinator with
      | .absent => (true, stopping)
      | _ => (false, { stopping with stoppers := stopping.stoppers + 1 })

/-- The loop of `wait_idle`, up to its await; it returns when there is no work. -/
def awaitIdle (kind : DispatcherKind σ ι) (store : σ) (dispatcher : Dispatcher ι) :
    Except DispatcherError Bool × Dispatcher ι :=
  let reaped := dispatcher.reap
  let waiting := { reaped with changed := false, idlers := reaped.idlers + 1 }
  if reaped.active.isEmpty then
    match kind.listReady 1 store with
    | .error error => (.error (.store error), reaped)
    | .ok [] => (.ok true, reaped)
    | .ok (_ :: _) => (.ok false, waiting)
  else (.ok false, waiting)

end Dispatcher

/-! ### Runs -/

/-- What the loop runs next. -/
inductive DispatcherInput (σ : Type) where
  | start
  | stop
  | stopResumes
  | waitIdle
  | waitIdleResumes
  | coordinate
  | taskEnds (number : Nat) (outcome : ExecutionOutcome)
  | storeBecomes (store : σ)

/-- What a call returns or raises, and the failure that an execution records. -/
inductive DispatcherAnswer where
  | nothing
  | started
  | stopped
  | idle
  | raised (error : DispatcherError)
  | recorded (failure : DispatcherFailure)

/-- A dispatcher and the store it reads. -/
structure DispatcherSystem (σ ι : Type) where
  dispatcher : Dispatcher ι
  store : σ

section Runs

variable {σ ι : Type}

/-- A call of `stop` is resumed once the coordinator has ended. -/
def Dispatcher.stopResumes (dispatcher : Dispatcher ι) : DispatcherAnswer × Dispatcher ι :=
  match dispatcher.coordinator, dispatcher.stoppers with
  | .ended error, waiting + 1 =>
      (error.elim .stopped fun error => .raised (.store error),
        { dispatcher with stoppers := waiting })
  | _, _ => (.nothing, dispatcher)

/-- `wait_idle`, or its resumption. -/
def Dispatcher.waitIdle (kind : DispatcherKind σ ι) (store : σ) (dispatcher : Dispatcher ι) :
    DispatcherAnswer × Dispatcher ι :=
  match dispatcher.awaitIdle kind store with
  | (.error error, next) => (.raised error, next)
  | (.ok true, next) => (.idle, next)
  | (.ok false, next) => (.nothing, next)

def Dispatcher.step (kind : DispatcherKind σ ι) (settings : DispatcherSettings) (store : σ)
    (dispatcher : Dispatcher ι) : DispatcherInput σ → DispatcherAnswer × Dispatcher ι
  | .start =>
      match dispatcher.start with
      | .ok next => (.started, next)
      | .error error => (.raised error, dispatcher)
  | .stop =>
      match dispatcher.stopCall with
      | (true, next) => (.stopped, next)
      | (false, next) => (.nothing, next)
  | .stopResumes => dispatcher.stopResumes
  | .waitIdle =>
      if dispatcher.state = .running then dispatcher.waitIdle kind store
      else (.raised (.runtimeError "Dispatcher must be running"), dispatcher)
  | .waitIdleResumes =>
      match dispatcher.idlers with
      | 0 => (.nothing, dispatcher)
      | waiting + 1 => Dispatcher.waitIdle kind store { dispatcher with idlers := waiting }
  | .coordinate => (.nothing, dispatcher.coordinate kind settings store)
  | .taskEnds number outcome =>
      match dispatcher.unfinished.find? fun task => decide (task.number = number) with
      | none => (.nothing, dispatcher)
      | some task =>
          ((Dispatcher.failureOf kind task.item outcome).elim .nothing .recorded,
            dispatcher.execute kind task outcome)
  | .storeBecomes _ => (.nothing, dispatcher)

/-- A dispatcher and its store as a machine. -/
def dispatching (kind : DispatcherKind σ ι) (settings : DispatcherSettings) :
    Machine (DispatcherSystem σ ι) (DispatcherInput σ) DispatcherAnswer where
  step system input :=
    let result := system.dispatcher.step kind settings system.store input
    let store := match input with
      | .storeBecomes store => store
      | _ => system.store
    (result.1, ⟨result.2, store⟩)

end Runs

end Workflows
end Ryuk
