import Ryuk.Foundation.Views
import Ryuk.Workflows.GraphRefinement

/-!
# What the operations of a tenant leave alone

Every statement on nodes and events names the tenant of the caller.  A view that
such statements do not change is kept by all operations that make no others.
-/

namespace Ryuk
namespace Workflows

open Foundation Foundation.Json Foundation.Datetime Foundation.Transaction

/-- The view shows nothing of the nodes and the events of a tenant. -/
structure BlindTo {τ : Type} (tenant : String) (view : GraphTables → τ) : Prop where
  setNodes : ∀ tables condition change hkey, (∀ row, condition row = true → row.tenant = tenant) →
    (∀ row, (change row).tenant = row.tenant) →
    view (GraphTables.setNodes condition change hkey tables) = view tables
  log : ∀ tables graphId nodeId state,
    view (GraphTables.log tenant graphId nodeId state tables) = view tables
  addNode : ∀ tables row next, row.tenant = tenant → GraphTables.addNode row tables = some next →
    view next = view tables

section Keeping

variable {τ : Type} {view : GraphTables → τ} {tenant graphId nodeId : String}

/-- An update of nodes of the tenant. -/
theorem updateNodes_keeps {condition : NodeRow → Bool} {change : NodeRow → NodeRow}
    {hkey : ∀ row, (change row).key = row.key} (h : BlindTo tenant view)
    (hcondition : ∀ row, condition row = true → row.tenant = tenant)
    (htenant : ∀ row, (change row).tenant = row.tenant) :
    Keeps view (updateNodes condition change hkey) := by
  unfold updateNodes
  apply Keeps.bind Keeps.query
  intro rowcount
  exact Keeps.bind (Keeps.write fun tables => h.setNodes tables condition change hkey hcondition
    htenant) fun _ => Keeps.pure

theorem graphEvent_keeps {state : NodeState} (h : BlindTo tenant view) :
    Keeps view (graphEvent tenant graphId nodeId state) :=
  Keeps.write fun tables => h.log tables graphId nodeId state

theorem writeStates_keeps (h : BlindTo tenant view) {before after : States} {nodeIds : List String} :
    Keeps view (writeStates tenant graphId before after nodeIds) := by
  induction nodeIds with
  | nil => exact Keeps.pure
  | cons nodeId rest ih =>
      unfold writeStates
      apply Keeps.bind Keeps.lift
      intro state
      apply Keeps.bind Keeps.lift
      intro old
      apply Keeps.bind
      · apply updateNodes_keeps h
        · intro row hrow
          rw [Bool.and_eq_true] at hrow
          exact (nodeOf_iff.mp hrow.1).1
        · intro row
          rfl
      intro rowcount
      apply Keeps.bind Keeps.require
      intro _
      exact Keeps.bind (graphEvent_keeps h) fun _ => ih

theorem getGraphState_keeps : Keeps view (getGraphState tenant graphId) := by
  intro state result final h
  have hbound : (getGraphState tenant graphId >>= pure) state = .ok (result, final) := by
    rwa [bind_pure]
  obtain ⟨_, -, hpure⟩ := getGraphState_bind_ok hbound
  rw [(pure_ok.mp hpure).2]

theorem transitionGraphNode_keeps (h : BlindTo tenant view) {target : NodeState} :
    Keeps view (transitionGraphNode tenant graphId nodeId target) := by
  unfold transitionGraphNode
  apply Keeps.bind getGraphState_keeps
  intro current
  cases current with
  | none => exact Keeps.fail
  | some current =>
      apply Keeps.bind Keeps.lift
      intro updated
      apply Keeps.bind Keeps.lift
      intro ordered
      exact Keeps.bind (writeStates_keeps h) fun _ => Keeps.pure

theorem fenceNode_keeps (h : BlindTo tenant view) :
    Keeps view (fenceNode tenant graphId nodeId) := by
  unfold fenceNode
  apply Keeps.bind
  · exact updateNodes_keeps h (fun row hrow => (nodeOf_iff.mp hrow).1) fun _ => rfl
  · intro _
    exact Keeps.pure

theorem cancelNodes_keeps (h : BlindTo tenant view) {nodeStates : List (String × NodeState)} :
    Keeps view (cancelNodes tenant graphId nodeStates) := by
  induction nodeStates with
  | nil => exact Keeps.pure
  | cons pair rest ih =>
      obtain ⟨nodeId, listed⟩ := pair
      unfold cancelNodes
      split_ifs
      · apply Keeps.bind getGraphState_keeps
        intro state
        cases state with
        | none => exact Keeps.fail
        | some state =>
            apply Keeps.bind Keeps.lift
            intro current
            split_ifs
            · apply Keeps.bind (transitionGraphNode_keeps h)
              intro _
              exact Keeps.bind (fenceNode_keeps h) fun _ => ih
            · exact ih
      · exact ih

theorem recoverNodes_keeps (h : ∀ tenant, BlindTo tenant view) {rows : List NodeRow} :
    Keeps view (recoverNodes rows) := by
  induction rows with
  | nil => exact Keeps.pure
  | cons row rest ih =>
      unfold recoverNodes
      apply Keeps.bind (transitionGraphNode_keeps (h row.tenant))
      intro _
      exact Keeps.bind (fenceNode_keeps (h row.tenant)) fun _ => ih

theorem cancelGraph_keeps (h : BlindTo tenant view) :
    Keeps view (cancelGraph tenant graphId) := by
  unfold cancelGraph
  apply Keeps.bind getGraphState_keeps
  intro state
  cases state with
  | none => exact Keeps.fail
  | some state =>
      apply Keeps.bind (cancelNodes_keeps h)
      intro _
      apply Keeps.bind getGraphState_keeps
      intro last
      cases last with
      | none => exact Keeps.fail
      | some last => exact Keeps.pure

theorem recoverGraphNodesStartup_keeps (h : ∀ tenant, BlindTo tenant view) {limit : Int} {now : DateTime} :
    Keeps view (recoverGraphNodesStartup limit now) := by
  unfold recoverGraphNodesStartup
  apply Keeps.bind Keeps.require
  intro _
  apply Keeps.bind Keeps.lift
  intro current
  apply Keeps.bind Keeps.query
  intro rows
  apply Keeps.bind Keeps.require
  intro _
  exact Keeps.bind (recoverNodes_keeps h) fun _ => Keeps.pure

theorem selectBudget_keeps : Keeps view (selectBudget tenant graphId) := Keeps.query

theorem claimGraphNode_keeps (h : BlindTo tenant view) {owner : String} {leaseSeconds : Int} {now : DateTime} :
    Keeps view (claimGraphNode tenant graphId nodeId owner leaseSeconds now) := by
  unfold claimGraphNode selectNode
  apply Keeps.bind Keeps.require
  intro _
  apply Keeps.bind Keeps.require
  intro _
  apply Keeps.bind selectBudget_keeps
  intro budget
  apply Keeps.bind Keeps.lift
  intro current
  cases budget with
  | none => exact Keeps.fail
  | some budget =>
      apply Keeps.bind Keeps.lift
      intro reached
      apply Keeps.bind Keeps.require
      intro _
      apply Keeps.bind Keeps.query
      intro row
      cases row with
      | none => exact Keeps.fail
      | some row =>
          apply Keeps.bind Keeps.require
          intro _
          apply Keeps.bind Keeps.lift
          intro expiry
          apply Keeps.bind
          · apply updateNodes_keeps h
            · intro row hrow
              rw [Bool.and_eq_true, Bool.and_eq_true] at hrow
              exact (nodeOf_iff.mp hrow.1.1).1
            · intro row
              rfl
          intro rowcount
          apply Keeps.bind Keeps.require
          intro _
          exact Keeps.bind (graphEvent_keeps h) fun _ => Keeps.pure

/-- A view that shows nothing of the budgets is kept by a new one. -/
theorem insertBudgetRow_keeps {row : GraphBudgetRow}
    (h : ∀ tables next, GraphTables.addBudget row tables = some next → view next = view tables) :
    Keeps view (insertBudgetRow row) :=
  Keeps.bind Keeps.require fun _ => Keeps.attempt h

theorem insertNodes_keeps (h : BlindTo tenant view) {nodeStates : List (String × NodeState)} :
    Keeps view (insertNodes tenant graphId nodeStates) := by
  induction nodeStates with
  | nil => exact Keeps.pure
  | cons pair rest ih =>
      obtain ⟨nodeId, state⟩ := pair
      unfold insertNodes
      apply Keeps.bind
      · apply Keeps.attempt
        intro tables next hadd
        exact h.addNode tables _ next rfl hadd
      · intro _
        exact Keeps.bind (graphEvent_keeps h) fun _ => ih

end Keeping

end Workflows
end Ryuk
