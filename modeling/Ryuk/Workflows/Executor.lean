import Ryuk.Workflows.Store

/-!
# The workflow executor

`WorkflowExecutor.execute` claims a workflow, journals the dispatch, calls the
router, journals the outcome and completes the workflow.  Here any number of
executions run against one store.  Each takes these steps in its own time, other
callers of the store come in between, and an execution may stop for good before
or after any step: it crashed, or something it called raised.

The reads between the steps (`get_binding`, `get_packet`) write nothing; where
one of them raises, the execution stops.
-/

namespace Ryuk
namespace Workflows

open Foundation Foundation.Json Foundation.Datetime Foundation.Transaction

/-! ### What an execution writes -/

/-- What the budget reads as when the dispatch is journaled. -/
structure DispatchBudget where
  maxAttempts : Int
  maxOutputTokens : Option Int
  remainingSeconds : Decimal.Float
  attempts : Int
  outputTokens : Int

/-- The budget `begin_dispatch` journals. -/
def DispatchBudget.toDict (budget : DispatchBudget) : List (String × Json) :=
  [("max_attempts", .int budget.maxAttempts),
    ("max_output_tokens", (budget.maxOutputTokens.map Json.int).getD .null),
    ("remaining_seconds_at_dispatch", .float budget.remainingSeconds),
    ("attempts", .int budget.attempts),
    ("output_tokens", .int budget.outputTokens)]

/-- What the budget reads as when the router is done. -/
structure BudgetUse where
  maxAttempts : Int
  attempts : Int
  outputTokens : Int

/-- The budget entry of a payload. -/
def BudgetUse.toDict (use : BudgetUse) : Json :=
  .obj [("max_attempts", .int use.maxAttempts), ("attempts", .int use.attempts),
    ("output_tokens", .int use.outputTokens)]

/-- How the router call ends: with a result, given as `_result_payload` writes it,
with an `InferenceFailure` and its serialized attempts, or in any other way. -/
inductive RouterOutcome where
  | result (payload : List (String × Json))
  | failure (code : String) (attempts : List Json)
  | raised

/-- The payload and the flag an execution goes on with. -/
def RouterOutcome.payload (use : BudgetUse) :
    RouterOutcome → Option (List (String × Json) × Bool)
  | .result payload => some (assign "budget" use.toDict payload, true)
  | .failure code attempts =>
      some ([("failure_code", .str code), ("attempts", .arr attempts), ("budget", use.toDict)],
        false)
  | .raised => none

/-- What `execute` returns. -/
structure WorkflowExecution where
  workflowId : String
  artifact : ArtifactRef
  state : WorkflowState

/-! ### One execution -/

/-- How far an execution has come. -/
inductive Progress where
  | entered
  | claimed (fence : Int)
  | dispatched (fence : Int)
  | answered (fence : Int) (payload : List (String × Json)) (succeeded : Bool)
  | recorded (fence : Int) (payload : List (String × Json)) (succeeded : Bool)
  | returned (execution : WorkflowExecution)
  | stopped

/-- An execution: the arguments of `execute`, and how far it has come. -/
structure Worker where
  tenant : String
  workflowId : String
  owner : String
  leaseSeconds : Int
  progress : Progress

/-- The next step of an execution, with what it reads from outside. -/
inductive Action where
  | claim (now : DateTime)
  | beginDispatch (budget : DispatchBudget) (now : DateTime)
  | route (outcome : RouterOutcome) (use : BudgetUse)
  | recordOutcome (now : DateTime)
  | complete (now : DateTime) (uuid4 : String)
  | stop

/-- The store call of a step. -/
def Worker.call (worker : Worker) (action : Action) : Option Call :=
  match worker.progress, action with
  | .entered, .claim now =>
      some (.claim worker.tenant worker.workflowId worker.owner worker.leaseSeconds now)
  | .claimed fence, .beginDispatch budget now =>
      some (.beginDispatch worker.tenant worker.workflowId worker.owner fence budget.toDict now)
  | .answered fence payload succeeded, .recordOutcome now =>
      some (.recordOutcome worker.tenant worker.workflowId worker.owner fence payload succeeded now)
  | .recorded fence payload succeeded, .complete now uuid4 =>
      some (.complete worker.tenant worker.workflowId worker.owner fence payload succeeded now
        uuid4)
  | _, _ => none

/-- How an execution goes on when its store call answers; it stops when the call
raised. -/
def Worker.resume (worker : Worker) (answer : Except PyError Answer) : Worker :=
  { worker with
    progress :=
      match worker.progress, answer with
      | .entered, .ok (.fence fence) => .claimed fence
      | .claimed fence, .ok .done => .dispatched fence
      | .answered fence payload succeeded, .ok .done => .recorded fence payload succeeded
      | .recorded _ _ succeeded, .ok (.artifact ref) =>
          .returned ⟨worker.workflowId, ref, resultState succeeded⟩
      | _, _ => .stopped }

/-- A step that does not call the store: the router call, which only a dispatched
execution makes, and the stop. -/
def Worker.proceed (worker : Worker) (action : Action) : Worker :=
  match worker.progress, action with
  | .dispatched fence, .route outcome use =>
      { worker with
        progress :=
          match outcome.payload use with
          | some (payload, succeeded) => .answered fence payload succeeded
          | none => .stopped }
  | _, .stop => { worker with progress := .stopped }
  | _, _ => worker

/-! ### All executions together -/

/-- The store and the executions that were started. -/
structure System where
  tables : Tables
  workers : Nat → Option Worker

/-- An empty store and no execution. -/
def System.start : System := ⟨Tables.empty, fun _ => none⟩

/-- What happens next: an execution is started or takes a step, or somebody else
calls the store. -/
inductive Event where
  | execute (id : Nat) (tenant workflowId owner : String) (leaseSeconds : Int)
  | act (id : Nat) (action : Action)
  | call (call : Call)

/-- The store call an event makes. -/
def System.call (system : System) : Event → Option Call
  | .execute _ _ _ _ _ => none
  | .act id action => (system.workers id).bind fun worker => worker.call action
  | .call call => some call

/-- The execution an event moves, after it. -/
def System.moved (platform : Platform) (system : System) : Event → Nat → Option Worker
  | .execute id tenant workflowId owner leaseSeconds =>
      match system.workers id with
      | some _ => system.workers
      | none =>
          Function.update system.workers id
            (some ⟨tenant, workflowId, owner, leaseSeconds, .entered⟩)
  | .act id action =>
      match system.workers id with
      | none => system.workers
      | some worker =>
          match worker.call action with
          | some call =>
              Function.update system.workers id
                (some (worker.resume ((store platform).answer system.tables call)))
          | none => Function.update system.workers id (some (worker.proceed action))
  | .call _ => system.workers

/-- The executions and the store as a machine. -/
def executions (platform : Platform) : Machine System Event (Option (Except PyError Answer)) where
  step system event :=
    match system.call event with
    | none => (none, ⟨system.tables, system.moved platform event⟩)
    | some call =>
        (some ((store platform).answer system.tables call),
          ⟨(store platform).next system.tables call, system.moved platform event⟩)

end Workflows
end Ryuk
