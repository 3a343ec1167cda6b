import Ryuk.Workflows.GraphReplay

/-!
# The public operations on graphs

Beside the calls of executors and recoveries the store lets an operator request a
transition, which reconciles uncertain nodes.  Whatever operations run, the
events of a graph are a faithful and causally ordered history of it.
-/

namespace Ryuk
namespace Workflows

open Foundation Foundation.Json Foundation.Datetime Foundation.Transaction Foundation.History
open Relation

/-- An operation on graphs. -/
inductive GraphOperation where
  | call (call : GraphCall)
  | transitionGraphNode (tenant graphId nodeId : String) (target : NodeState)

/-- The transaction an operation runs. -/
def GraphOperation.body (platform : Platform) : GraphOperation → GraphTx GraphAnswer
  | .call inner => inner.body platform
  | .transitionGraphNode tenant graphId nodeId target =>
      .state <$> Workflows.transitionGraphNode tenant graphId nodeId target

/-- The graph store with all its public operations. -/
def graphOperations (platform : Platform) :
    Machine GraphTables GraphOperation (Except PyError GraphAnswer) where
  step tables operation := commit (operation.body platform) tables

variable {platform : Platform} {tables final : GraphTables}

/-- **Refinement.**  An operation that returns makes every graph take transitions. -/
theorem graphBody_quiet {operation : GraphOperation} {answer : GraphAnswer}
    (hvalid : AllGraphsValid tables)
    (h : operation.body platform tables = .ok (answer, final)) : GraphQuiet tables final := by
  cases operation with
  | transitionGraphNode tenant graphId nodeId target =>
      obtain ⟨state, hmove, -⟩ := map_ok.mp h
      exact (transitionGraphNode_moved hvalid hmove).quiet
  | call call =>
      cases call with
      | createGraph tenant key graph budget binding now uuid4 =>
          obtain ⟨id, hcreate, -⟩ := map_ok.mp h
          exact createGraph_quiet hcreate
      | bindGraphBudget tenant graphId budget now =>
          obtain ⟨row, hbind, -⟩ := map_ok.mp h
          exact (bindGraphBudget_same hbind).quiet
      | claimGraphNode tenant graphId nodeId owner leaseSeconds now =>
          obtain ⟨fence, hclaim, -⟩ := map_ok.mp h
          exact (claimGraphNode_moved hvalid hclaim).quiet
      | completeGraphNode tenant graphId nodeId owner fence result succeeded now uuid4 =>
          obtain ⟨ref, hcomplete, -⟩ := map_ok.mp h
          exact (completeGraphNode_moved hvalid hcomplete).quiet
      | validateGraphNode tenant graphId nodeId policy =>
          obtain ⟨report, hvalidate, -⟩ := map_ok.mp h
          rcases validateGraphNode_moved hvalid hvalidate with rfl | ⟨row, accepted, -, -, -, -,
            hmoved⟩
          · exact GraphQuiet.refl _
          · exact hmoved.quiet
      | cancelGraph tenant graphId =>
          obtain ⟨state, hcancel, -⟩ := map_ok.mp h
          exact (cancelGraph_moves hvalid hcancel).quiet
      | recoverGraphNodesStartup limit now =>
          obtain ⟨names, hrecover, -⟩ := map_ok.mp h
          exact (recoverGraphNodesStartup_moves hvalid hrecover).quiet

/-- **Step lemma.** -/
theorem graphOperations_quiet (tables : GraphTables) (operation : GraphOperation)
    (hvalid : AllGraphsValid tables) :
    GraphQuiet tables ((graphOperations platform).next tables operation) := by
  rcases commit_cases (operation.body platform) tables with ⟨answer, -, hok⟩ | ⟨-, hsame⟩
  · exact graphBody_quiet hvalid hok
  · change GraphQuiet tables (commit (operation.body platform) tables).2
    rw [hsame]
    exact GraphQuiet.refl _

theorem graphOperations_valid (tables : GraphTables) (operation : GraphOperation)
    (hvalid : AllGraphsValid tables) :
    AllGraphsValid ((graphOperations platform).next tables operation) :=
  (graphOperations_quiet tables operation hvalid).valid hvalid

/-- **Run lemma.**  Every graph of a reachable store is valid. -/
theorem graphOperations_after_valid (hvalid : AllGraphsValid tables)
    (operations : List GraphOperation) :
    AllGraphsValid ((graphOperations platform).after tables operations) :=
  Machine.after_invariant graphOperations_valid hvalid operations

/-- A call of the smaller machine is an operation. -/
theorem graphStore_after (tables : GraphTables) (calls : List GraphCall) :
    (graphStore platform).after tables calls =
      (graphOperations platform).after tables (calls.map GraphOperation.call) := by
  induction calls generalizing tables with
  | nil => rfl
  | cons call rest ih => exact ih _

/-! ### Rows of started nodes -/

section Rows

variable {next : GraphTables} {tenant graphId nodeId : String} {key : String × String}

/-- The row was claimed, skipped or ended. -/
def NodeRow.Begun (row : NodeRow) : Prop := row.state ≠ .blocked ∧ row.state ≠ .ready

/-- A row that had begun stays so; if it still runs, it is the same row. -/
def Continues (before after : Option NodeRow) : Prop :=
  ∀ row, before = some row → row.Begun →
    ∃ row', after = some row' ∧ row'.Begun ∧ (row'.state = .running → row' = row)

theorem Continues.refl (row : Option NodeRow) : Continues row row :=
  fun found hfound hbegun => ⟨found, hfound, hbegun, fun _ => rfl⟩

theorem Continues.trans {first second third : Option NodeRow} (hfirst : Continues first second)
    (hsecond : Continues second third) : Continues first third := by
  intro row hrow hbegun
  obtain ⟨row', hrow', hbegun', hsame'⟩ := hfirst row hrow hbegun
  obtain ⟨row'', hrow'', hbegun'', hsame''⟩ := hsecond row' hrow' hbegun'
  refine ⟨row'', hrow'', hbegun'', fun hrunning => ?_⟩
  obtain rfl := hsame'' hrunning
  exact hsame' hrunning

/-- A quiet step writes no running row. -/
theorem QuietStep.continues {view later : NodeView} (hstep : QuietStep key view later) :
    Continues view.row later.row := by
  intro row hrow hbegun
  obtain ⟨row', hrow', hstarted⟩ := hstep.started ⟨row, hrow, hbegun⟩
  exact ⟨row', hrow', hstarted, fun hrunning =>
    absurd ⟨row', hrow', hrunning⟩ hstep.not_running⟩

theorem Quiet.continues (h : Quiet tables final) (key : String × String) :
    Continues (tables.view key).row (final.view key).row := by
  have hchain := h key
  generalize tables.view key = view at hchain ⊢
  generalize final.view key = later at hchain ⊢
  induction hchain with
  | refl => exact Continues.refl _
  | tail _ hstep ih => exact ih.trans hstep.continues

/-- A transition moves one node along an allowed edge; a begun node it releases
there is none. -/
theorem NodeTransition.continues {target : NodeState} {row : NodeRow}
    (h : NodeTransition tenant graphId nodeId target tables final row) (key : String × String) :
    Continues (tables.view key).row (final.view key).row := by
  by_cases hkey : key = (graphId, nodeId)
  · subst hkey
    rw [h.moves.self, h.found]
    intro found hfound hbegun
    obtain rfl := Option.some.inj hfound
    have hallowed := h.allowed
    refine ⟨_, rfl, ?_, fun hrunning => ?_⟩
    · -- nothing goes to blocked or to ready
      unfold NodeRow.Begun NodeRow.moved
      cases hstate : row.state <;> cases target <;>
        simp_all [allowedTransitions]
    · -- only a ready node goes to running
      have htarget : target = .running := hrunning
      rw [htarget] at hallowed
      have hready : row.state = .ready := by
        cases hstate : row.state <;> simp_all [allowedTransitions]
      exact absurd hready hbegun.2
  · rcases h.moves.others key hkey with hsame | ⟨found, state, hfound, hblocked, -, -⟩
    · rw [hsame]
      exact Continues.refl _
    · intro other hother hbegun
      rw [hfound, Option.some.injEq] at hother
      exact absurd (hother ▸ hblocked) hbegun.1

/-- **Step lemma.**  No operation changes the row of a node while it runs. -/
theorem graphOperations_continues (tables : GraphTables) (operation : GraphOperation)
    (key : String × String) :
    Continues (tables.view key).row
      (((graphOperations platform).next tables operation).view key).row := by
  rcases commit_cases (operation.body platform) tables with ⟨answer, -, h⟩ | ⟨-, hsame⟩
  · change Continues _ ((commit (operation.body platform) tables).2.view key).row
    generalize (commit (operation.body platform) tables).2 = final at h ⊢
    cases operation with
    | transitionGraphNode tenant graphId nodeId target =>
        obtain ⟨state, hmove, -⟩ := map_ok.mp h
        obtain ⟨row, htransition⟩ := transitionGraphNode_ok hmove
        exact htransition.continues key
    | call call =>
        cases call with
        | createGraph tenant idempotencyKey graph budget binding now uuid4 =>
            obtain ⟨id, hcreate, -⟩ := map_ok.mp h
            exact (createGraph_ok hcreate).continues key
        | bindGraphBudget tenant graphId budget now =>
            obtain ⟨row, hbind, -⟩ := map_ok.mp h
            exact (bindGraphBudget_ok hbind).continues key
        | claimGraphNode tenant graphId nodeId owner leaseSeconds now =>
            obtain ⟨fence, hclaim, -⟩ := map_ok.mp h
            obtain ⟨row, current, expiry, hclaimed⟩ := claimGraphNode_ok hclaim
            by_cases hkey : key = (graphId, nodeId)
            · subst hkey
              intro found hfound hbegun
              rw [hclaimed.found, Option.some.injEq] at hfound
              exact absurd (hfound ▸ hclaimed.ready) hbegun.2
            · rw [hclaimed.others key hkey]
              exact Continues.refl _
        | completeGraphNode tenant graphId nodeId owner fence result succeeded now uuid4 =>
            obtain ⟨ref, hcomplete, -⟩ := map_ok.mp h
            obtain ⟨row, artifact, hrow, -, hstate, -, -, -, hnode, haccepted, hreport, hmoves⟩ :=
              completeGraphNode_ok hcomplete
            exact (hmoves.quiet (QuietStep.complete succeeded artifact hrow hstate hnode haccepted
              hreport)).continues key
        | validateGraphNode tenant graphId nodeId policy =>
            obtain ⟨report, hvalidate, -⟩ := map_ok.mp h
            rcases validateGraphNode_cases hvalidate with rfl | ⟨row, artifactId, accepted,
              reportJson, updated, -, -, -, -, hmove⟩
            · exact Continues.refl _
            · obtain ⟨row', htransition⟩ := transitionGraphNode_ok hmove
              exact htransition.continues key
        | cancelGraph tenant graphId =>
            obtain ⟨state, hcancel, -⟩ := map_ok.mp h
            exact (cancelGraph_ok hcancel).1.continues key
        | recoverGraphNodesStartup limit now =>
            obtain ⟨names, hrecover, -⟩ := map_ok.mp h
            exact (recoverGraphNodesStartup_ok hrecover).1.continues key
  · change Continues _ ((commit (operation.body platform) tables).2.view key).row
    rw [hsame]
    exact Continues.refl _

/-- **Run lemma.** -/
theorem graphOperations_after_continues (tables : GraphTables) (operations : List GraphOperation)
    (key : String × String) :
    Continues (tables.view key).row
      (((graphOperations platform).after tables operations).view key).row := by
  induction operations generalizing tables with
  | nil => exact Continues.refl _
  | cons operation rest ih =>
      exact (graphOperations_continues tables operation key).trans (ih _)

end Rows

/-! ### The ordering never fails -/

/-- The text of the defensive error. -/
def orderingError : PyError := .valueError "Invalid derived graph transition ordering"

theorem getGraphState_avoids (tenant graphId : String) :
    Avoids orderingError (getGraphState tenant graphId) := by
  unfold getGraphState
  refine Avoids.query.bind fun row _ _ _ => ?_
  cases row with
  | none => exact Avoids.pure
  | some row =>
      refine (Avoids.lift ?_).bind fun value _ _ _ => ?_
      · unfold loadsJson
        split
        · intro hraised
          cases hraised
        · simp [orderingError]
      refine (Avoids.lift ?_).bind fun graph _ _ _ => ?_
      · unfold WorkflowGraph.fromDict
        split
        · intro hraised
          cases hraised
        · simp [orderingError]
        · simp [orderingError]
      refine Avoids.query.bind fun rows _ _ _ => (Avoids.lift ?_).bind fun _ _ _ _ => Avoids.pure
      split
      · intro hraised
        cases hraised
      · rename_i error herror
        split_ifs with hcaught
        · simp [orderingError]
        · rintro hsame
          rw [Except.error.inj hsame] at hcaught
          exact hcaught rfl

theorem writeStates_avoids {tenant graphId : String} {before after : States}
    (nodeIds : List String) :
    Avoids orderingError (writeStates tenant graphId before after nodeIds) := by
  have hget : ∀ (states : States) nodeId, states.get nodeId ≠ .error orderingError := by
    intro states nodeId
    unfold States.get
    split
    · intro hraised
      cases hraised
    · simp [orderingError]
  induction nodeIds with
  | nil => exact Avoids.pure
  | cons nodeId rest ih =>
      unfold writeStates
      refine (Avoids.lift (hget _ _)).bind fun state _ _ _ => ?_
      refine (Avoids.lift (hget _ _)).bind fun old _ _ _ => ?_
      refine Avoids.bind ?_ fun rowcount _ _ _ => ?_
      · unfold updateNodes
        exact Avoids.query.bind fun _ _ _ _ => Avoids.write.bind fun _ _ _ _ => Avoids.pure
      · refine (Avoids.require (by simp [orderingError])).bind fun _ _ _ _ => ?_
        unfold graphEvent
        exact Avoids.write.bind fun _ _ _ _ => ih

/-- From no tables at all does a transition fail in the ordering of its derived
changes. -/
theorem transitionGraphNode_avoids (tenant graphId nodeId : String) (target : NodeState) :
    Avoids orderingError (transitionGraphNode tenant graphId nodeId target) := by
  unfold transitionGraphNode
  refine (getGraphState_avoids tenant graphId).bind fun current _ _ _ => ?_
  cases current with
  | none => exact Avoids.fail (by simp [orderingError])
  | some current =>
      refine Avoids.bind (Avoids.lift ?_) fun updated tables next hupdated => ?_
      · split
        · intro hraised
          cases hraised
        · rename_i error herror
          split_ifs with hcaught
          · simp [orderingError]
          · rintro hsame
            rw [Except.error.inj hsame] at hcaught
            exact hcaught rfl
      · have hmove : current.transition nodeId target = .ok updated := by
          unfold lift at hupdated
          split at hupdated
          · rename_i found hfound
            obtain ⟨rfl, -⟩ := Prod.mk.inj (Except.ok.inj hupdated)
            split at hfound
            · rename_i hok
              rw [hok, ← Except.ok.inj hfound]
            · split_ifs at hfound
          · cases hupdated
        obtain ⟨ordered, hordered, -⟩ := derivedNodes_ordered hmove
        refine Avoids.bind (Avoids.lift ?_) fun _ _ _ _ => ?_
        · change orderDerived updated.graph.nodes
            (derivedNodes (statesOf current.nodeStates) updated nodeId).length
            (derivedNodes (statesOf current.nodeStates) updated nodeId) ≠ _
          rw [hordered]
          intro hraised
          cases hraised
        · exact (writeStates_avoids _).bind fun _ _ _ _ => Avoids.pure

/-! ### The history -/

/-- An event that made an existing node ready: all its direct dependencies had
succeeded. -/
theorem EventAllowed.ready {graph : WorkflowGraph} {states : States} {nodeId : String}
    (h : EventAllowed graph states (nodeId, .ready)) (hexists : states nodeId ≠ none) :
    ∀ other, graph.DependsOn nodeId other → states other = some .succeeded := by
  generalize hevent : (nodeId, NodeState.ready) = event at h
  cases h with
  | created hnode habsent =>
      obtain ⟨rfl, -⟩ := Prod.mk.inj hevent
      exact absurd habsent hexists
  | @moved moved own target hown hallowed =>
      obtain ⟨rfl, rfl⟩ := Prod.mk.inj hevent
      cases own <;> simp [allowedTransitions] at hallowed
  | @released node hnode hblocked hdependencies =>
      obtain ⟨rfl, -⟩ := Prod.mk.inj hevent
      rintro other ⟨node', hnode', hid, hother⟩
      obtain rfl : node' = node := graph.unique hnode' hnode hid
      exact hdependencies other hother
  | skipped hnode hblocked hdependency hvalue hunsuccessful =>
      exact absurd (Prod.mk.inj hevent).2 NodeState.noConfusion

/-- An event that skipped a node: some direct dependency had failed or was
skipped. -/
theorem EventAllowed.skip {graph : WorkflowGraph} {states : States} {nodeId : String}
    (h : EventAllowed graph states (nodeId, .skipped)) :
    ∃ other value, graph.DependsOn nodeId other ∧ states other = some value ∧
      (value = .failed ∨ value = .rejected ∨ value = .cancelled ∨ value = .skipped) := by
  generalize hevent : (nodeId, NodeState.skipped) = event at h
  cases h with
  | @created node hnode habsent =>
      have hstate := (Prod.mk.inj hevent).2
      unfold GraphNode.initialState at hstate
      split_ifs at hstate
  | @moved moved own target hown hallowed =>
      obtain ⟨rfl, rfl⟩ := Prod.mk.inj hevent
      cases own <;> simp [allowedTransitions] at hallowed
  | released hnode hblocked hdependencies =>
      exact absurd (Prod.mk.inj hevent).2 NodeState.noConfusion
  | @skipped node dependency value hnode hblocked hdependency hvalue hunsuccessful =>
      obtain ⟨rfl, -⟩ := Prod.mk.inj hevent
      refine ⟨dependency, value, ⟨node, hnode, rfl, hdependency⟩, hvalue, ?_⟩
      cases value <;> simp_all [unsuccessfulNodeStates, terminalNodeStates]

/-- **Event log.**  In every store that a run of public operations reaches, the
events of a graph replay, one at a time, to its stored states; every event is the
first one of its node, an allowed transition, or a derived one whose reason is
already in the replayed prefix; and no transition, from any tables, fails in the
ordering of its derived events. -/
theorem graph_history_replays (platform : Platform) (tenant graphId : String)
    (operations : List GraphOperation) :
    let tables := (graphOperations platform).after GraphTables.empty operations
    let events := tables.graphEvents tenant graphId
    (tables.graphRow tenant graphId = none →
        events = [] ∧ tables.nodeStates tenant graphId = []) ∧
      (∀ row, tables.graphRow tenant graphId = some row → ∃ state : GraphState,
        getGraphState tenant graphId tables = .ok (some state, tables) ∧
        tables.nodeStates tenant graphId = state.nodeStates ∧
        replay States.none events = statesOf state.nodeStates ∧
        ∀ before nodeId own later, events = before ++ (nodeId, own) :: later →
          let states := replay States.none before
          EventAllowed state.graph states (nodeId, own) ∧
          (own = .ready → states nodeId ≠ none →
            ∀ other, state.graph.DependsOn nodeId other → states other = some .succeeded) ∧
          (own = .skipped → ∃ other value, state.graph.DependsOn nodeId other ∧
            states other = some value ∧
            (value = .failed ∨ value = .rejected ∨ value = .cancelled ∨ value = .skipped))) ∧
      ∀ (others : GraphTables) nodeId target,
        transitionGraphNode tenant graphId nodeId target others ≠
          .error (.valueError "Invalid derived graph transition ordering") := by
  intro tables events
  have hvalid : GraphValid (tables.graphView tenant graphId) :=
    graphOperations_after_valid graph_empty_valid operations tenant graphId
  refine ⟨fun habsent => ?_, fun row hrow => ?_, fun others nodeId target =>
    transitionGraphNode_avoids tenant graphId nodeId target others⟩
  · obtain ⟨hstates, hevents⟩ := hvalid.absent habsent
    exact ⟨hevents, hstates⟩
  · obtain ⟨state, hstored, hstates, hjustified, hreplay⟩ := hvalid.stored row hrow
    refine ⟨state, getGraphState_valid hrow hstored hstates, hstates, hreplay, ?_⟩
    intro before nodeId own later hsplit
    have hallowed := justified_iff.mp hjustified before (nodeId, own) later hsplit
    refine ⟨hallowed, ?_, ?_⟩
    · rintro rfl hexists
      exact hallowed.ready hexists
    · rintro rfl
      exact hallowed.skip

end Workflows
end Ryuk
