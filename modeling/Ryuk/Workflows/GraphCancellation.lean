import Ryuk.Workflows.GraphFrames

/-!
# Cancelled graphs

No column of a graph says that it was cancelled.  What says so are the states the
cancellation leaves: no node is ready or runs, and a node becomes ready only when
its last dependency succeeds.  Only an operator who settles an uncertain node with
success can bring that about.
-/

namespace Ryuk
namespace Workflows

open Foundation Foundation.Json Foundation.Datetime Foundation.Transaction Relation Audit

/-! ### Transitions that release nothing -/

/-- No transition has `ready` as its target. -/
theorem allowed_ne_ready {current target : NodeState} (h : target ∈ allowedTransitions current) :
    target ≠ .ready := by
  cases current <;> cases target <;> simp_all [allowedTransitions]

theorem allowed_running {current : NodeState} (h : .running ∈ allowedTransitions current) :
    current = .ready := by
  cases current <;> simp_all [allowedTransitions]

section Transition

variable {state updated : GraphState} {nodeId other : String} {target : NodeState}

/-- Only a success makes a node ready. -/
theorem transition_ready (h : state.transition nodeId target = .ok updated)
    (htarget : target ≠ .succeeded) (hready : statesOf updated.nodeStates other = some .ready) :
    statesOf state.nodeStates other = some .ready := by
  obtain ⟨current, -, hallowed, hgraph, hself, hothers⟩ := transition_ok h
  by_cases hother : other = nodeId
  · subst hother
    rw [hself, Option.some.injEq] at hready
    exact absurd hready (allowed_ne_ready hallowed)
  · rcases hothers other hother with hsame | ⟨hblocked, -⟩
    · rw [← hsame]
      exact hready
    · -- a blocked node had a dependency without success, a ready one has none
      have hmem : other ∈ updated.graph.nodes.map GraphNode.nodeId :=
        (updated.statesOf_isSome other).mp ⟨_, hready⟩
      obtain ⟨node, hnode, rfl⟩ := List.mem_map.mp hmem
      obtain ⟨own, hafter⟩ := updated.node hnode
      obtain ⟨own', hbefore⟩ := state.node (hgraph ▸ hnode)
      obtain rfl : NodeState.ready = own := Option.some.inj (hready.symm.trans hafter.own)
      obtain rfl : NodeState.blocked = own' := Option.some.inj (hblocked.symm.trans hbefore.own)
      obtain ⟨⟨dependency, hdependency, hpending⟩, -⟩ := hbefore.blocked rfl
      have hsucceeded := hafter.scheduled rfl dependency hdependency
      by_cases hmoved : dependency = nodeId
      · subst hmoved
        rw [hself, Option.some.injEq] at hsucceeded
        exact absurd hsucceeded htarget
      · rcases hothers dependency hmoved with hsame | ⟨-, hderived⟩
        · rw [hsame] at hsucceeded
          exact absurd hsucceeded hpending
        · rw [hsucceeded] at hderived
          rcases hderived with hderived | hderived
          · cases hderived
          · cases hderived

/-- A cancellation makes no other node cancellable. -/
theorem transition_cancelled (h : state.transition nodeId .cancelled = .ok updated)
    {own : NodeState} (hown : statesOf updated.nodeStates other = some own)
    (hactive : own.isCancellable = true) :
    other ≠ nodeId ∧ statesOf state.nodeStates other = some own := by
  obtain ⟨current, -, -, -, hself, hothers⟩ := transition_ok h
  have hother : other ≠ nodeId := by
    rintro rfl
    rw [hself, Option.some.injEq] at hown
    rw [← hown] at hactive
    cases hactive
  refine ⟨hother, ?_⟩
  rcases hothers other hother with hsame | ⟨-, hready | hskipped⟩
  · rw [← hsame]
    exact hown
  · rw [hready, Option.some.injEq] at hown
    subst hown
    exact transition_ready h (by decide) hready
  · rw [hskipped, Option.some.injEq] at hown
    rw [← hown] at hactive
    cases hactive

end Transition

/-! ### Idle graphs -/

section Idle

variable {platform : Platform} {tables next final : GraphTables}
  {tenant graphId nodeId otherTenant otherGraph : String} {target : NodeState}

/-- No node is ready and none runs. -/
def Idle (view : GraphView) : Prop :=
  ∀ pair ∈ view.states, pair.2 ≠ .ready ∧ pair.2 ≠ .running

/-- **Move lemma.**  A transition of any node of any graph keeps a graph idle, as
long as it is no success in that graph. -/
theorem MovedTo.idle (h : MovedTo otherTenant otherGraph nodeId target tables final)
    (hsuccess : (otherTenant, otherGraph) = (tenant, graphId) → target ≠ .succeeded)
    (hidle : Idle (tables.graphView tenant graphId)) : Idle (final.graphView tenant graphId) := by
  obtain ⟨row, state, updated, ordered, hmove⟩ := h
  by_cases hother : (otherTenant, otherGraph) = (tenant, graphId)
  · have htarget := hsuccess hother
    obtain ⟨rfl, rfl⟩ := Prod.mk.inj hother
    obtain ⟨current, hcurrent, hallowed, -, hself, hothers⟩ := transition_ok hmove.move
    have hbefore : ∀ other own, statesOf state.nodeStates other = some own →
        own ≠ .ready ∧ own ≠ .running := by
      intro other own hown
      refine hidle (other, own) ?_
      rw [hmove.listed]
      exact state.statesOf_iff.mp hown
    rintro ⟨other, own⟩ hpair
    rw [hmove.self] at hpair
    have hown : statesOf updated.nodeStates other = some own := updated.statesOf_iff.mpr hpair
    refine ⟨fun hready => ?_, fun hrunning => ?_⟩
    · simp only at hready
      subst hready
      exact (hbefore other _ (transition_ready hmove.move htarget hown)).1 rfl
    · simp only at hrunning
      subst hrunning
      by_cases hmoved : other = nodeId
      · subst hmoved
        rw [hself, Option.some.injEq] at hown
        subst hown
        exact (hbefore other current hcurrent).1 (allowed_running hallowed)
      · rcases hothers other hmoved with hsame | ⟨-, hderived⟩
        · rw [hsame] at hown
          exact (hbefore other _ hown).2 rfl
        · rw [hown] at hderived
          rcases hderived with hderived | hderived
          · cases hderived
          · cases hderived
  · rw [hmove.others tenant graphId (Ne.symm hother)]
    exact hidle

theorem MovesTo.idle (h : MovesTo target tables final) (htarget : target ≠ .succeeded)
    (hidle : Idle (tables.graphView tenant graphId)) : Idle (final.graphView tenant graphId) := by
  induction h with
  | refl => exact hidle
  | tail _ hstep ih =>
      obtain ⟨-, otherTenant, otherGraph, nodeId, hmoved⟩ := hstep
      exact hmoved.idle (fun _ => htarget) ih

/-! ### What a cancellation leaves -/

/-- The node is in a state a cancellation ends. -/
def Cancellable (view : GraphView) (nodeId : String) : Prop :=
  ∃ own, (nodeId, own) ∈ view.states ∧ own.isCancellable = true

/-- **Loop lemma.**  A node that is still cancellable was so before, and the loop
met it in no cancellable state. -/
theorem cancelNodes_cancellable (hvalid : AllGraphsValid tables)
    {nodeStates : List (String × NodeState)}
    (h : cancelNodes tenant graphId nodeStates tables = .ok ((), final)) {other : String}
    (hother : Cancellable (final.graphView tenant graphId) other) :
    Cancellable (tables.graphView tenant graphId) other ∧
      ∀ listed, (other, listed) ∈ nodeStates → listed.isCancellable = false := by
  induction nodeStates generalizing tables with
  | nil =>
      obtain rfl := (pure_ok.mp h).2
      exact ⟨hother, fun listed hlisted => by cases hlisted⟩
  | cons pair rest ih =>
      obtain ⟨nodeId, listed⟩ := pair
      unfold cancelNodes at h
      split_ifs at h with hlisted
      · obtain ⟨state, hstate, h⟩ := getGraphState_bind_ok h
        cases state with
        | none => simp only [fail_ok] at h
        | some state =>
            simp only [lift_bind_ok] at h
            obtain ⟨current, hcurrent, h⟩ := h
            obtain ⟨-, -, -, hstates⟩ := getGraphState_stored hvalid hstate
            split_ifs at h with hactive
            · obtain ⟨next, hmoved, h⟩ := fencedTransition_moved hvalid h
              obtain ⟨⟨own, hown, hcancellable⟩, hrest⟩ := ih (hmoved.quiet.valid hvalid) h
              obtain ⟨row, found, updated, ordered, hmove⟩ := hmoved
              rw [hmove.self] at hown
              obtain ⟨hne, hbefore⟩ := transition_cancelled hmove.move
                (updated.statesOf_iff.mpr hown) hcancellable
              refine ⟨⟨own, ?_, hcancellable⟩, fun value hvalue => ?_⟩
              · rw [hmove.listed]
                exact found.statesOf_iff.mp hbefore
              · rcases List.mem_cons.mp hvalue with hhead | htail
                · exact absurd (Prod.mk.inj hhead).1 hne
                · exact hrest value htail
            · -- the node moved on since the states were read
              obtain ⟨⟨own, hown, hcancellable⟩, hrest⟩ := ih hvalid h
              refine ⟨⟨own, hown, hcancellable⟩, fun value hvalue => ?_⟩
              rcases List.mem_cons.mp hvalue with hhead | htail
              · obtain ⟨rfl, rfl⟩ := Prod.mk.inj hhead
                rw [hstates] at hown
                have hsame := (state.stateOf_ok.mp hcurrent).symm.trans
                  (state.statesOf_iff.mpr hown)
                rw [Option.some.injEq] at hsame
                exact absurd (hsame ▸ hcancellable) hactive
              · exact hrest value htail
      · obtain ⟨hbefore, hrest⟩ := ih hvalid h
        refine ⟨hbefore, fun value hvalue => ?_⟩
        rcases List.mem_cons.mp hvalue with hhead | htail
        · obtain ⟨-, rfl⟩ := Prod.mk.inj hhead
          exact Bool.eq_false_iff.mpr hlisted
        · exact hrest value htail

/-- **Cancellation lemma.**  A cancellation leaves no node ready, running or
waiting for validation. -/
theorem cancelGraph_ends (hvalid : AllGraphsValid tables) {answer : GraphState}
    (h : cancelGraph tenant graphId tables = .ok (answer, final)) {other : String} :
    ¬ Cancellable (final.graphView tenant graphId) other := by
  intro hother
  obtain ⟨state, hstate, hloop⟩ := cancelGraph_loop h
  obtain ⟨-, -, -, hstates⟩ := getGraphState_stored hvalid hstate
  obtain ⟨⟨own, hown, hcancellable⟩, hnone⟩ := cancelNodes_cancellable hvalid hloop hother
  rw [hstates] at hown
  rw [hnone own hown] at hcancellable
  cases hcancellable

/-- A graph that was cancelled: it is idle, and what waits for validation waits
without a result. -/
structure Cancelled (tenant graphId : String) (tables : GraphTables) : Prop where
  stored : (tables.graphView tenant graphId).row.isSome = true
  idle : Idle (tables.graphView tenant graphId)
  bare : ∀ nodeId row, (tables.view (graphId, nodeId)).row = some row →
    row.state = .awaitingValidation → row.resultArtifactId = none

/-- The state of a row of a stored graph is listed in the view of the graph. -/
theorem row_listed (hsound : RowsSound tables)
    (hstored : (tables.graphView tenant graphId).row.isSome = true) {row : NodeRow}
    (hrow : (tables.view (graphId, nodeId)).row = some row) :
    (nodeId, row.state) ∈ (tables.graphView tenant graphId).states :=
  mem_nodeStates hrow (graphView_tenant (hsound.owned _ row hrow) hstored)

theorem cancelGraph_cancelled (hsound : GraphsSound tables) {answer : GraphState}
    (h : cancelGraph tenant graphId tables = .ok (answer, final)) :
    Cancelled tenant graphId final := by
  have hends : ∀ other, ¬ Cancellable (final.graphView tenant graphId) other :=
    fun other => cancelGraph_ends hsound.valid h
  have hquiet := (cancelGraph_moves hsound.valid h).quiet
  obtain ⟨state, hstate, hloop⟩ := cancelGraph_loop h
  obtain ⟨row, hrow, -, -⟩ := getGraphState_stored hsound.valid hstate
  have hstored : (final.graphView tenant graphId).row.isSome = true := by
    rw [hquiet.row hrow]
    rfl
  refine ⟨hstored, ?_, fun nodeId found hfound hwaiting => ?_⟩
  · rintro ⟨other, own⟩ hpair
    refine ⟨fun hready => ?_, fun hrunning => ?_⟩
    · exact hends other ⟨own, hpair, by rw [show own = .ready from hready]; rfl⟩
    · exact hends other ⟨own, hpair, by rw [show own = .running from hrunning]; rfl⟩
  · -- no row waits for validation at all
    obtain ⟨before, hbefore, htenant, -⟩ := (cancelNodes_frame hloop _).before_row hfound
    have howner : found.tenant = tenant := by
      rw [htenant]
      refine graphView_tenant (hsound.rows.owned _ before hbefore) ?_
      rw [hrow]
      rfl
    exact absurd ⟨found.state, mem_nodeStates hfound howner, by rw [hwaiting]; rfl⟩ (hends nodeId)

end Idle

/-! ### Cancelled for good -/

section Final

variable {platform : Platform} {tables final : GraphTables} {tenant graphId : String}

/-- An operator settles a node of the graph with success, and the store accepts. -/
def acceptsSuccess (platform : Platform) (tenant graphId : String) (tables : GraphTables) :
    GraphOperation → Bool
  | .transitionGraphNode otherTenant otherGraph nodeId target =>
      decide (otherTenant = tenant) && decide (otherGraph = graphId) &&
        decide (target = .succeeded) && ((graphOperations platform).answer tables
          (.transitionGraphNode otherTenant otherGraph nodeId target)).isOk
  | .call _ => false

/-- **Idle lemma.**  Any other operation keeps a cancelled graph idle. -/
theorem graphBody_idle {operation : GraphOperation} {answer : GraphAnswer}
    (hsound : GraphsSound tables) (hcancelled : Cancelled tenant graphId tables)
    (hnone : ∀ nodeId, operation ≠ .transitionGraphNode tenant graphId nodeId .succeeded)
    (h : operation.body platform tables = .ok (answer, final)) :
    Idle (final.graphView tenant graphId) := by
  cases operation with
  | transitionGraphNode otherTenant otherGraph nodeId target =>
      obtain ⟨state, hmove, -⟩ := map_ok.mp h
      refine (transitionGraphNode_moved hsound.valid hmove).idle (fun hsame hsuccess => ?_)
        hcancelled.idle
      obtain ⟨rfl, rfl⟩ := Prod.mk.inj hsame
      exact hnone nodeId (by rw [hsuccess])
  | call call =>
      cases call with
      | createGraph otherTenant key graph budget binding now uuid4 =>
          obtain ⟨id, hcreate, -⟩ := map_ok.mp h
          rcases createGraph_created hcreate with rfl | hcreated
          · exact hcancelled.idle
          · have hother : graphId ≠ uuid4 := by
              rintro rfl
              have hstored := hcancelled.stored
              rw [hcreated.fresh tenant] at hstored
              cases hstored
            rw [hcreated.graphs tenant graphId hother]
            exact hcancelled.idle
      | bindGraphBudget otherTenant otherGraph budget now =>
          obtain ⟨row, hbind, -⟩ := map_ok.mp h
          rw [bindGraphBudget_same hbind tenant graphId]
          exact hcancelled.idle
      | claimGraphNode otherTenant otherGraph nodeId owner leaseSeconds now =>
          obtain ⟨fence, hclaim, -⟩ := map_ok.mp h
          exact (claimGraphNode_moved hsound.valid hclaim).idle (fun _ => by decide)
            hcancelled.idle
      | completeGraphNode otherTenant otherGraph nodeId owner fence result succeeded now uuid4 =>
          obtain ⟨ref, hcomplete, -⟩ := map_ok.mp h
          refine (completeGraphNode_moved hsound.valid hcomplete).idle (fun _ => ?_)
            hcancelled.idle
          cases succeeded with
          | true => decide
          | false => decide
      | validateGraphNode otherTenant otherGraph nodeId policy =>
          obtain ⟨report, hvalidate, -⟩ := map_ok.mp h
          rcases validateGraphNode_moved hsound.valid hvalidate with rfl | ⟨row, accepted, hrow, -,
            hstate, hnamed, hmoved⟩
          · exact hcancelled.idle
          · refine hmoved.idle (fun hsame => ?_) hcancelled.idle
            -- what waits here has no result to validate
            obtain ⟨-, rfl⟩ := Prod.mk.inj hsame
            rw [hcancelled.bare nodeId row hrow hstate] at hnamed
            cases hnamed
      | cancelGraph otherTenant otherGraph =>
          obtain ⟨state, hcancel, -⟩ := map_ok.mp h
          exact (cancelGraph_moves hsound.valid hcancel).idle (by decide) hcancelled.idle
      | recoverGraphNodesStartup limit now =>
          obtain ⟨names, hrecover, -⟩ := map_ok.mp h
          exact (recoverGraphNodesStartup_moves hsound.valid hrecover).idle (by decide)
            hcancelled.idle

/-- The artifacts of a graph, by id. -/
def artifactIds (graphId : String) (tables : GraphTables) (nodeId : String) : List String :=
  (tables.view (graphId, nodeId)).artifacts.map GraphArtifactRow.id

theorem eq_terminal_of_isFinished {state : NodeState} (h : state.isFinished = true)
    (hwaiting : state ≠ .awaitingValidation) : state ∈ terminalNodeStates := by
  cases state <;> simp_all [NodeState.isFinished, terminalNodeStates]

/-- **Step lemma.**  A cancelled graph stays so, and gets no artifact. -/
theorem graphBody_cancelled {operation : GraphOperation} {answer : GraphAnswer}
    (hsound : GraphsSound tables) (hcancelled : Cancelled tenant graphId tables)
    (hnone : ∀ nodeId, operation ≠ .transitionGraphNode tenant graphId nodeId .succeeded)
    (h : operation.body platform tables = .ok (answer, final)) :
    Cancelled tenant graphId final ∧
      artifactIds graphId final = artifactIds graphId tables := by
  have hidle := graphBody_idle hsound hcancelled hnone h
  have hstored := (graphBody_quiet hsound.valid h).row_isSome hcancelled.stored
  -- what is framed keeps its result and its artifacts
  have hframed : (∀ nodeId, NodeFrame (tables.view (graphId, nodeId))
      (final.view (graphId, nodeId))) →
      Cancelled tenant graphId final ∧ artifactIds graphId final = artifactIds graphId tables := by
    intro hframe
    refine ⟨⟨hstored, hidle, fun nodeId row' hrow' hwaiting => ?_⟩, ?_⟩
    · obtain ⟨row, hrow, -, hresult⟩ := (hframe nodeId).before_row hrow'
      rw [hresult]
      by_contra hsome
      have hfinished := hsound.rows.named _ row hrow (Option.isSome_iff_ne_none.mpr hsome)
      have hnot : row.state ≠ .awaitingValidation := fun hstate =>
        hsome (hcancelled.bare nodeId row hrow hstate)
      have hsame := (hframe nodeId).ended row row' hrow hrow'
        (eq_terminal_of_isFinished hfinished hnot)
      exact hnot (hsame.symm.trans hwaiting)
    · funext nodeId
      exact (hframe nodeId).ids
  rcases graphBody_frame h with hframe | ⟨otherTenant, otherGraph, hcreated⟩ |
    ⟨key, row, row', hcompleted⟩
  · exact hframed fun nodeId => hframe (graphId, nodeId)
  · apply hframed
    intro nodeId
    refine NodeFrame.of_eq (hcreated.others (graphId, nodeId) ?_)
    rintro rfl
    have hfound := hcancelled.stored
    rw [hcreated.fresh tenant] at hfound
    cases hfound
  · apply hframed
    intro nodeId
    refine hcompleted.others (graphId, nodeId) ?_
    -- no node of an idle graph runs
    rintro rfl
    have hlisted := row_listed hsound.rows hcancelled.stored hcompleted.found
    exact (hcancelled.idle _ hlisted).2 hcompleted.running

/-- Once cancelled, a graph has no ready and no running node and gets no artifact,
whatever operations follow among which no excluded one is met. -/
def CancellationFinal (platform : Platform)
    (excluded : String → String → GraphTables → GraphOperation → Bool) : Prop :=
  ∀ (start : GraphTables) (tenant graphId : String) (state : GraphState)
    (later : List GraphOperation),
    (graphOperations platform).Reachable GraphTables.empty start →
    (graphOperations platform).answer start (.call (.cancelGraph tenant graphId)) =
      .ok (.state state) →
    (graphOperations platform).count (excluded tenant graphId)
      ((graphOperations platform).next start (.call (.cancelGraph tenant graphId))) later = 0 →
    (∀ row ∈ ((graphOperations platform).after ((graphOperations platform).next start
        (.call (.cancelGraph tenant graphId))) later).nodes.rows,
      row.graphId = graphId → row.state ≠ .ready ∧ row.state ≠ .running) ∧
    ∀ artifact ∈ ((graphOperations platform).after ((graphOperations platform).next start
        (.call (.cancelGraph tenant graphId))) later).artifacts.rows,
      artifact.graphId = graphId →
        ∃ earlier ∈ ((graphOperations platform).next start
          (.call (.cancelGraph tenant graphId))).artifacts.rows, earlier.id = artifact.id

/-- **Cancellation.**  Without an operator's success a cancelled graph stays
cancelled. -/
theorem cancellation_final (platform : Platform) :
    CancellationFinal platform (acceptsSuccess platform) := by
  intro start tenant graphId state later hstart hanswer hcount
  have hsound : GraphsSound start := graphOperations_reachable_sound hstart
  obtain ⟨found, hcancel, -⟩ := map_ok.mp (commit_of_answer hanswer)
  generalize hcancelledTables : (graphOperations platform).next start
    (.call (.cancelGraph tenant graphId)) = cancelled at hcount ⊢
  have hfirst : Cancelled tenant graphId cancelled := by
    rw [← hcancelledTables]
    exact cancelGraph_cancelled hsound hcancel
  have hsoundCancelled : GraphsSound cancelled := by
    rw [← hcancelledTables]
    exact graphOperations_sound start _ hsound
  -- the invariant of the rest of the run
  have hstep : ∀ tables operation, (GraphsSound tables ∧ Cancelled tenant graphId tables ∧
        artifactIds graphId tables = artifactIds graphId cancelled) →
      acceptsSuccess platform tenant graphId tables operation = false →
      GraphsSound ((graphOperations platform).next tables operation) ∧
        Cancelled tenant graphId ((graphOperations platform).next tables operation) ∧
        artifactIds graphId ((graphOperations platform).next tables operation) =
          artifactIds graphId cancelled := by
    rintro tables operation ⟨hsound, hheld, hids⟩ hmiss
    refine ⟨graphOperations_sound tables operation hsound, ?_⟩
    rcases commit_cases (operation.body platform) tables with ⟨answer, hok, hbody⟩ | ⟨-, hsame⟩
    · have hnone : ∀ nodeId,
          operation ≠ .transitionGraphNode tenant graphId nodeId .succeeded := by
        rintro nodeId rfl
        have hanswered : (graphOperations platform).answer tables
            (.transitionGraphNode tenant graphId nodeId .succeeded) = .ok answer := hok
        simp [acceptsSuccess, hanswered, Except.isOk, Except.toBool] at hmiss
      obtain ⟨hnext, hnextIds⟩ := graphBody_cancelled hsound hheld hnone hbody
      exact ⟨hnext, hnextIds.trans hids⟩
    · change Cancelled tenant graphId (commit (operation.body platform) tables).2 ∧
        artifactIds graphId (commit (operation.body platform) tables).2 = _
      rw [hsame]
      exact ⟨hheld, hids⟩
  have hrun := Machine.after_of_count_eq_zero hstep ⟨hsoundCancelled, hfirst, rfl⟩ later hcount
  obtain ⟨hsoundAfter, hheld, hids⟩ := hrun
  refine ⟨fun row hrow hgraph => ?_, fun artifact hartifact hgraph => ?_⟩
  · subst hgraph
    have hfind : (((graphOperations platform).after cancelled later).view
        (row.graphId, row.nodeId)).row = some row := Table.find_of_mem hrow
    exact hheld.idle _ (row_listed hsoundAfter.rows hheld.stored hfind)
  · subst hgraph
    have hmem : artifact.id ∈ artifactIds artifact.graphId
        ((graphOperations platform).after cancelled later) artifact.nodeId := by
      refine List.mem_map.mpr ⟨artifact, mem_artifacts_iff.mpr ⟨?_, rfl⟩, rfl⟩
      exact Table.find_of_mem hartifact
    rw [hids] at hmem
    obtain ⟨earlier, hearlier, hid⟩ := List.mem_map.mp hmem
    exact ⟨earlier, Table.mem_of_find (mem_artifacts_iff.mp hearlier).1, hid⟩

end Final

end Workflows
end Ryuk
