import Ryuk.Workflows.GraphLifecycle
import Ryuk.Workflows.Transition
import Ryuk.Workflows.Refinement

/-!
# The graph store refines the life of its nodes

For every operation one lemma says what a returning call did to each node.  A
transition of one node may release others; every change of another node is a
chain of quiet steps.
-/

namespace Ryuk
namespace Workflows

open Foundation Foundation.Json Foundation.Text Foundation.Datetime Foundation.Transaction
open Foundation.Decimal Audit Relation

variable {platform : Platform} {tables next final : GraphTables} {tenant graphId nodeId : String}
  {key : String × String}

/-! ### Reading and writing one node -/

theorem nodeOf_iff {row : NodeRow} :
    nodeOf tenant graphId nodeId row = true ↔ row.tenant = tenant ∧ row.key = (graphId, nodeId) := by
  unfold nodeOf NodeRow.key
  simp only [Bool.and_eq_true, decide_eq_true_eq, Prod.mk.injEq, and_assoc]

theorem fetchone_node {row : NodeRow}
    (h : tables.nodes.fetchone (nodeOf tenant graphId nodeId) = some row) :
    (tables.view (graphId, nodeId)).row = some row ∧ row.tenant = tenant := by
  have hfixed : ∀ row : NodeRow, nodeOf tenant graphId nodeId row = true →
      row.key = (graphId, nodeId) := fun row hrow => (nodeOf_iff.mp hrow).2
  rw [Table.fetchone_of_key hfixed, Option.filter_eq_some_iff] at h
  exact ⟨h.1, (nodeOf_iff.mp h.2).1⟩

/-- An update of one node leaves the views of the others. -/
theorem view_setNodes_other {condition : NodeRow → Bool} {change : NodeRow → NodeRow}
    {hkey : ∀ row, (change row).key = row.key} {target : String × String}
    (hcondition : ∀ row, condition row = true → row.key = target) (hother : key ≠ target) :
    (tables.setNodes condition change hkey).view key = tables.view key := by
  unfold GraphTables.view GraphTables.setNodes
  simp only [Table.find_update_other hcondition hother]

theorem view_setNodes {condition : NodeRow → Bool} {change : NodeRow → NodeRow}
    {hkey : ∀ row, (change row).key = row.key} {row : NodeRow}
    (hrow : (tables.view key).row = some row) (hcondition : condition row = true) :
    (tables.setNodes condition change hkey).view key =
      { tables.view key with row := some (change row) } := by
  have hfind : tables.nodes.find key = some row := hrow
  unfold GraphTables.view GraphTables.setNodes
  simp only [Table.find_update_self hfind hcondition]

/-- An update of the one row of a node. -/
theorem view_updated {condition : NodeRow → Bool} {change : NodeRow → NodeRow}
    {hkey : ∀ row, (change row).key = row.key}
    (hcondition : ∀ row, condition row = true → row.key = key)
    (hone : (tables.nodes.select condition).length = 1) :
    ∃ row, (tables.view key).row = some row ∧ condition row = true ∧
      (tables.setNodes condition change hkey).view key =
        { tables.view key with row := some (change row) } := by
  obtain ⟨row, hselect⟩ := List.length_eq_one_iff.mp hone
  obtain ⟨hmem, hrow⟩ := List.mem_filter.mp (hselect ▸ List.mem_singleton_self row)
  have hfind : (tables.view key).row = some row :=
    Table.find_eq_some_iff.mpr ⟨hmem, hcondition row hrow⟩
  exact ⟨row, hfind, hrow, view_setNodes hfind hrow⟩

@[simp] theorem view_log {state : NodeState} :
    (tables.log tenant graphId nodeId state).view key = tables.view key := rfl

theorem view_addNode {row : NodeRow} (h : tables.addNode row = some next) :
    next.view key =
      { tables.view key with row := if row.key = key then some row else (tables.view key).row } := by
  unfold GraphTables.addNode at h
  obtain ⟨nodes, hinsert, rfl⟩ := Option.map_eq_some_iff.mp h
  unfold GraphTables.view
  simp only [Table.find_insert hinsert]

theorem view_addArtifact_node {artifact : GraphArtifactRow}
    (h : tables.addArtifact artifact = some next) :
    next.view key = { tables.view key with
      artifacts := (tables.view key).artifacts ++
        (if artifact.node = key then [artifact] else []) } := by
  unfold GraphTables.addArtifact at h
  obtain ⟨artifacts, hinsert, rfl⟩ := Option.map_eq_some_iff.mp h
  unfold GraphTables.view
  simp only [Table.select_insert hinsert, decide_eq_true_eq]

theorem view_addGraph {row : GraphRow} (h : tables.addGraph row = some next) :
    next.view key = tables.view key := by
  unfold GraphTables.addGraph at h
  obtain ⟨graphs, -, rfl⟩ := Option.map_eq_some_iff.mp h
  rfl

theorem view_addBudget {row : GraphBudgetRow} (h : tables.addBudget row = some next) :
    next.view key = tables.view key := by
  unfold GraphTables.addBudget at h
  obtain ⟨budgets, -, rfl⟩ := Option.map_eq_some_iff.mp h
  rfl

/-- A decision changes the one artifact with its id. -/
theorem view_setValidation {artifactId reportJson : String} {accepted : Int} :
    (tables.setValidation artifactId accepted reportJson).view key =
      { tables.view key with
        artifacts := (tables.view key).artifacts.map fun found =>
          if found.id = artifactId then
            { found with accepted := accepted, validationJson := some reportJson }
          else found } := by
  have hselect := @Table.select_update _ _ _ tables.artifacts
    (fun row => decide (row.id = artifactId))
    (fun row => { row with accepted := accepted, validationJson := some reportJson })
    (fun _ => rfl) (fun row => decide (row.node = key)) (fun _ => rfl)
  unfold GraphTables.view GraphTables.setValidation
  simp only [hselect, decide_eq_true_eq]

/-- An artifact is among those of its node. -/
theorem mem_artifacts_iff {artifact : GraphArtifactRow} :
    artifact ∈ (tables.view key).artifacts ↔
      tables.artifacts.find artifact.id = some artifact ∧ artifact.node = key := by
  have hmem : artifact ∈ (tables.view key).artifacts ↔
      artifact ∈ tables.artifacts.rows ∧ artifact.node = key := by
    change artifact ∈ tables.artifacts.rows.filter _ ↔ _
    rw [List.mem_filter, decide_eq_true_eq]
  rw [hmem, Table.find_eq_some_iff]
  simp only [and_true]

/-- A decision leaves the views of other nodes. -/
theorem view_setValidation_other {artifact : GraphArtifactRow} {reportJson : String}
    {accepted : Int} (hfind : tables.artifacts.find artifact.id = some artifact)
    (hother : key ≠ artifact.node) :
    (tables.setValidation artifact.id accepted reportJson).view key = tables.view key := by
  rw [view_setValidation]
  have hne : ∀ found ∈ (tables.view key).artifacts, found.id ≠ artifact.id := by
    intro found hfound hid
    obtain ⟨hfind', hnode⟩ := mem_artifacts_iff.mp hfound
    rw [hid, hfind, Option.some.injEq] at hfind'
    exact hother (by rw [hfind', hnode])
  have hmap : ((tables.view key).artifacts.map fun found =>
      if found.id = artifact.id then
        { found with accepted := accepted, validationJson := some reportJson }
      else found) = (tables.view key).artifacts :=
    (List.map_congr_left fun found hfound => if_neg (hne found hfound)).trans (List.map_id _)
  rw [hmap]

/-! ### Quiet changes -/

/-- Every node makes a chain of quiet steps. -/
def Quiet (tables final : GraphTables) : Prop :=
  ∀ key, ReflTransGen (QuietStep key) (tables.view key) (final.view key)

theorem Quiet.refl (tables : GraphTables) : Quiet tables tables := fun _ => ReflTransGen.refl

theorem Quiet.trans (hfirst : Quiet tables next) (hsecond : Quiet next final) :
    Quiet tables final := fun key => (hfirst key).trans (hsecond key)

theorem Quiet.of_view (h : ∀ key, final.view key = tables.view key) : Quiet tables final := by
  intro key
  rw [h key]

/-- One node gets a new view, and every other one keeps its own or is released. -/
structure NodeMoves (tables final : GraphTables) (key : String × String) (view : NodeView) :
    Prop where
  self : final.view key = view
  others : ∀ other, other ≠ key → final.view other = tables.view other ∨
    ∃ row state, (tables.view other).row = some row ∧ row.state = .blocked ∧
      (state = .ready ∨ state = .skipped) ∧
      final.view other = { tables.view other with row := some (row.moved state) }

theorem NodeMoves.other (h : NodeMoves tables final key view) {other : String × String}
    (hother : other ≠ key) :
    ReflTransGen (QuietStep other) (tables.view other) (final.view other) := by
  rcases h.others other hother with hsame | ⟨row, state, hrow, hblocked, hstate, hview⟩
  · rw [hsame]
  · rw [hview]
    exact ReflTransGen.single (QuietStep.release state hrow hblocked hstate)

theorem NodeMoves.quiet {view : NodeView} (h : NodeMoves tables final key view)
    (hstep : QuietStep key (tables.view key) view) : Quiet tables final := by
  intro other
  by_cases hother : other = key
  · subst hother
    rw [h.self]
    exact ReflTransGen.single hstep
  · exact h.other hother

/-- What changes other nodes in no way may come first. -/
theorem NodeMoves.after {view : NodeView} (h : NodeMoves next final key view)
    (hothers : ∀ other, other ≠ key → next.view other = tables.view other) :
    NodeMoves tables final key view where
  self := h.self
  others other hother := by
    have hcase := h.others other hother
    rw [hothers other hother] at hcase
    exact hcase

/-- An update of the moved node may come last. -/
theorem NodeMoves.update {view : NodeView} {row : NodeRow} {change : NodeRow → NodeRow}
    {hkey : ∀ row, (change row).key = row.key}
    (h : NodeMoves tables next (graphId, nodeId) view) (hrow : view.row = some row)
    (howned : row.tenant = tenant) :
    NodeMoves tables (next.setNodes (nodeOf tenant graphId nodeId) change hkey) (graphId, nodeId)
      { view with row := some (change row) } where
  self := by
    have hfound : (next.view (graphId, nodeId)).row = some row := by rw [h.self, hrow]
    have hcondition : nodeOf tenant graphId nodeId row = true :=
      nodeOf_iff.mpr ⟨howned, Table.find_key hfound⟩
    rw [view_setNodes hfound hcondition, h.self]
  others other hother := by
    rw [view_setNodes_other (fun row hrow => (nodeOf_iff.mp hrow).2) hother]
    exact h.others other hother

/-! ### Transitions of a graph -/

/-- A read of the graph state changes nothing. -/
theorem getGraphState_bind_ok {α : Type} {rest : Option GraphState → GraphTx α} {result : α}
    (h : (getGraphState tenant graphId >>= rest) tables = .ok (result, final)) :
    ∃ state, getGraphState tenant graphId tables = .ok (state, tables) ∧
      rest state tables = .ok (result, final) := by
  rw [bind_ok] at h
  obtain ⟨state, middle, hstate, hrest⟩ := h
  have hsame : middle = tables := by
    unfold getGraphState at hstate
    simp only [query_bind_ok] at hstate
    cases hfound : tables.graphs.fetchone fun row =>
        decide (row.tenant = tenant) && decide (row.id = graphId) with
    | none =>
        simp only [hfound, pure_ok] at hstate
        exact hstate.2.symm
    | some row =>
        simp only [hfound, lift_bind_ok, query_bind_ok, pure_ok] at hstate
        obtain ⟨_, -, _, -, _, -, -, hsame⟩ := hstate
        exact hsame.symm
  subst hsame
  exact ⟨state, hstate, hrest⟩

/-- The state that is read has the state of every row of the tenant. -/
theorem getGraphState_row {state : GraphState} {row : NodeRow}
    (h : getGraphState tenant graphId tables = .ok (some state, next))
    (hrow : (tables.view (graphId, nodeId)).row = some row) (htenant : row.tenant = tenant) :
    statesOf state.nodeStates nodeId = some row.state := by
  unfold getGraphState at h
  simp only [query_bind_ok] at h
  cases hfound : tables.graphs.fetchone fun row =>
      decide (row.tenant = tenant) && decide (row.id = graphId) with
  | none =>
      simp only [hfound, pure_ok] at h
      obtain ⟨hnone, -⟩ := h
      cases hnone
  | some graph =>
      simp only [hfound, lift_bind_ok, query_bind_ok, pure_ok] at h
      obtain ⟨_, -, value, -, built, hbuilt, hstate, -⟩ := h
      obtain rfl := Option.some.inj hstate
      have hnew : GraphState.new value
          (((tables.nodes.select fun row =>
              decide (row.tenant = tenant) && decide (row.graphId = graphId)).mergeSort
            fun left right => decide (left.nodeId ≤ right.nodeId)).map fun row =>
              (row.nodeId, row.state)) = .ok built := by
        split at hbuilt
        · rename_i hok
          rw [hok, ← Except.ok.inj hbuilt]
        · split_ifs at hbuilt
      obtain ⟨-, hstates⟩ := GraphState.new_ok hnew
      have hkey : row.key = (graphId, nodeId) := Table.find_key hrow
      obtain ⟨hgraph, hnode⟩ := Prod.mk.inj hkey
      rw [built.statesOf_iff, hstates]
      refine List.mem_map.mpr ⟨row, ?_, by rw [hnode]⟩
      rw [List.mem_mergeSort]
      refine List.mem_filter.mpr ⟨Table.mem_of_find hrow, ?_⟩
      simp only [htenant, hgraph, decide_true, Bool.and_self]

/-- A node whose state was written, from the state that was read to the new one. -/
def Written (tenant graphId : String) (before after : States) (tables final : GraphTables)
    (nodeId : String) : Prop :=
  ∃ row state, (tables.view (graphId, nodeId)).row = some row ∧ row.tenant = tenant ∧
    before nodeId = some row.state ∧ after nodeId = some state ∧
    final.view (graphId, nodeId) =
      { tables.view (graphId, nodeId) with row := some (row.moved state) }

/-- One write: the row that was updated is the row of the node. -/
theorem writeState_ok {old state : NodeState}
    (hone : (tables.nodes.select fun row =>
      nodeOf tenant graphId nodeId row && decide (row.state = old)).length = 1) :
    let moved := (tables.setNodes
      (fun row => nodeOf tenant graphId nodeId row && decide (row.state = old))
      (fun row => { row with state := state }) fun _ => rfl).log tenant graphId nodeId state
    (∃ row, (tables.view (graphId, nodeId)).row = some row ∧ row.tenant = tenant ∧
        row.state = old ∧ moved.view (graphId, nodeId) =
          { tables.view (graphId, nodeId) with row := some (row.moved state) }) ∧
      ∀ key, key ≠ (graphId, nodeId) → moved.view key = tables.view key := by
  intro moved
  have hfixed : ∀ row : NodeRow,
      (nodeOf tenant graphId nodeId row && decide (row.state = old)) = true →
        row.key = (graphId, nodeId) := by
    intro row hrow
    rw [Bool.and_eq_true, nodeOf_iff] at hrow
    exact hrow.1.2
  constructor
  · obtain ⟨row, hrow, hcondition, hview⟩ :=
      @view_updated tables _ _ (fun row => row.moved state) (fun _ => rfl) hfixed hone
    rw [Bool.and_eq_true, decide_eq_true_eq, nodeOf_iff] at hcondition
    exact ⟨row, hrow, hcondition.1.1, hcondition.2, hview⟩
  · intro key hne
    exact @view_setNodes_other tables _ _ (fun row => row.moved state) (fun _ => rfl) _ hfixed hne

/-- **Write lemma.**  Every listed node is written, and no other one. -/
theorem writeStates_ok {before after : States} {nodeIds : List String}
    (h : writeStates tenant graphId before after nodeIds tables = .ok ((), final)) :
    (∀ nodeId ∈ nodeIds, Written tenant graphId before after tables final nodeId) ∧
      ∀ key, (∀ nodeId ∈ nodeIds, key ≠ (graphId, nodeId)) → final.view key = tables.view key := by
  induction nodeIds generalizing tables with
  | nil =>
      obtain rfl := (pure_ok.mp h).2
      exact ⟨fun _ hmem => absurd hmem List.not_mem_nil, fun _ _ => rfl⟩
  | cons nodeId rest ih =>
      unfold writeStates updateNodes graphEvent at h
      simp only [lift_bind_ok, bind_assoc, query_bind_ok, write_bind_ok, pure_bind,
        require_bind_ok, decide_eq_true_eq] at h
      obtain ⟨state, hafter, old, hbefore, hone, h⟩ := h
      rw [States.get_ok] at hafter hbefore
      obtain ⟨⟨row, hrow, htenant, hstate, hself⟩, hothers⟩ := writeState_ok hone
      obtain ⟨hwritten, hkept⟩ := ih h
      refine ⟨fun other hother => ?_, fun key hkey' => ?_⟩
      · by_cases hsame : other = nodeId
        · subst hsame
          by_cases hrest : other ∈ rest
          · -- written twice: the second write starts from the first
            obtain ⟨row', state', hrow', -, -, hafter', hview⟩ := hwritten other hrest
            rw [hself] at hrow' hview
            obtain rfl := Option.some.inj hrow'
            refine ⟨row, state', hrow, htenant, by rw [hbefore, hstate], hafter', ?_⟩
            rw [hview]
            rfl
          · refine ⟨row, state, hrow, htenant, by rw [hbefore, hstate], hafter, ?_⟩
            rw [hkept, hself]
            intro another hanother hequal
            obtain rfl : other = another := (Prod.mk.inj hequal).2
            exact hrest hanother
        · have hrest : other ∈ rest := (List.mem_cons.mp hother).resolve_left hsame
          obtain ⟨row', state', hrow', htenant', hbefore', hafter', hview⟩ := hwritten other hrest
          have hne : (graphId, other) ≠ (graphId, nodeId) := fun hequal =>
            hsame (Prod.mk.inj hequal).2
          rw [hothers _ hne] at hrow' hview
          exact ⟨row', state', hrow', htenant', hbefore', hafter', hview⟩
      · rw [hkept key fun other hother => hkey' other (List.mem_cons_of_mem _ hother)]
        exact hothers key (hkey' nodeId (List.mem_cons_self ..))

/-- What a transition of one node did: the node had the state that was read and
went to an allowed one, and others were released. -/
structure NodeTransition (tenant graphId nodeId : String) (target : NodeState)
    (tables final : GraphTables) (row : NodeRow) : Prop where
  found : (tables.view (graphId, nodeId)).row = some row
  owned : row.tenant = tenant
  allowed : target ∈ allowedTransitions row.state
  moves : NodeMoves tables final (graphId, nodeId)
    { tables.view (graphId, nodeId) with row := some (row.moved target) }

/-- **Transition lemma** of the store. -/
theorem transitionGraphNode_ok {target : NodeState} {updated : GraphState}
    (h : transitionGraphNode tenant graphId nodeId target tables = .ok (updated, final)) :
    ∃ row, NodeTransition tenant graphId nodeId target tables final row := by
  unfold transitionGraphNode at h
  obtain ⟨current, -, h⟩ := getGraphState_bind_ok h
  cases current with
  | none => simp only [fail_ok] at h
  | some current =>
      simp only [lift_bind_ok] at h
      obtain ⟨found, hfound, ordered, hordered, h⟩ := h
      rw [bind_ok] at h
      obtain ⟨_, written, hwrite, h⟩ := h
      obtain ⟨rfl, rfl⟩ := pure_ok.mp h
      have htransition : current.transition nodeId target = .ok found := by
        split at hfound
        · rename_i hok
          rw [hok, ← Except.ok.inj hfound]
        · split_ifs at hfound
      obtain ⟨own, hown, hallowed, -, htarget, hreleased⟩ := transition_ok htransition
      obtain ⟨hlisted, hkept⟩ := writeStates_ok hwrite
      have hne := (allowed_ne_blocked hallowed).2
      -- the node itself is among the changed ones
      have hself : nodeId ∈ ((found.nodeStates.filter fun pair =>
          decide (statesOf current.nodeStates pair.1 ≠ some pair.2)).map Prod.fst).filter
            fun changed => decide (changed = nodeId) := by
        refine List.mem_filter.mpr ⟨List.mem_map.mpr ⟨(nodeId, target), ?_, rfl⟩, by simp⟩
        refine List.mem_filter.mpr ⟨found.statesOf_iff.mp htarget, ?_⟩
        rw [decide_eq_true_eq, hown]
        exact fun hsame => hne (Option.some.inj hsame).symm
      obtain ⟨row, state, hrow, htenant, hbefore, hafter, hview⟩ :=
        hlisted nodeId (List.mem_append_left _ hself)
      rw [hown, Option.some.injEq] at hbefore
      rw [htarget, Option.some.injEq] at hafter
      subst hbefore hafter
      refine ⟨row, hrow, htenant, hallowed, hview, ?_⟩
      rintro ⟨otherGraph, other⟩ hother
      by_cases hchanged : ∃ nodeId' ∈ ((found.nodeStates.filter fun pair =>
          decide (statesOf current.nodeStates pair.1 ≠ some pair.2)).map Prod.fst).filter
            (fun changed => decide (changed = nodeId)) ++ ordered,
          (otherGraph, other) = (graphId, nodeId')
      · obtain ⟨nodeId', hmem, hequal⟩ := hchanged
        obtain ⟨rfl, rfl⟩ := Prod.mk.inj hequal
        obtain ⟨row', state', hrow', -, hbefore', hafter', hview'⟩ := hlisted other hmem
        have hother' : other ≠ nodeId := fun hsame => hother (by rw [hsame])
        rcases hreleased other hother' with hsame | ⟨hblocked, hcase⟩
        · -- written with the state it had
          left
          rw [hafter', hbefore', Option.some.injEq] at hsame
          subst hsame
          rw [hview']
          change { tables.view (otherGraph, other) with row := some row' } = _
          rw [← hrow']
        · right
          rw [hbefore', Option.some.injEq] at hblocked
          refine ⟨row', state', hrow', hblocked, ?_, hview'⟩
          rw [hafter', Option.some.injEq, Option.some.injEq] at hcase
          exact hcase
      · left
        apply hkept
        intro nodeId' hmem hequal
        exact hchanged ⟨nodeId', hmem, hequal⟩

/-! ### Claims and results -/

/-- What a claim did: the node was ready, and runs under a new lease. -/
structure NodeClaim (tenant owner : String) (leaseSeconds fence : Int) (now : DateTime)
    (tables final : GraphTables) (key : String × String) (row : NodeRow) (current expiry : Instant) :
    Prop where
  found : (tables.view key).row = some row
  owned : row.tenant = tenant
  ready : row.state = .ready
  fence : fence = row.fence + 1
  time : utcNow now = .ok current
  lease : current.shift (leaseSeconds * 1000000) = some expiry
  self : final.view key = { tables.view key with row := some (row.claimed owner expiry) }
  others : ∀ other, other ≠ key → final.view other = tables.view other

theorem claimGraphNode_ok {owner : String} {leaseSeconds fence : Int} {now : DateTime}
    (h : claimGraphNode tenant graphId nodeId owner leaseSeconds now tables = .ok (fence, final)) :
    ∃ row current expiry, NodeClaim tenant owner leaseSeconds fence now tables final
      (graphId, nodeId) row current expiry := by
  unfold claimGraphNode selectBudget at h
  simp only [require_bind_ok, query_bind_ok, lift_bind_ok] at h
  obtain ⟨-, -, current, htime, h⟩ := h
  cases hbudget : tables.budgets.fetchone (fun row =>
      decide (row.tenant = tenant) && decide (row.graphId = graphId)) with
  | none => simp only [hbudget, fail_ok] at h
  | some budget =>
      unfold selectNode at h
      simp only [hbudget, lift_bind_ok, require_bind_ok, query_bind_ok] at h
      obtain ⟨reached, -, -, h⟩ := h
      cases hfound : tables.nodes.fetchone (nodeOf tenant graphId nodeId) with
      | none => simp only [hfound, fail_ok] at h
      | some row =>
          obtain ⟨hrow, howned⟩ := fetchone_node hfound
          unfold updateNodes graphEvent at h
          simp only [hfound, require_bind_ok, lift_bind_ok, bind_assoc, query_bind_ok,
            write_bind_ok, pure_bind, pure_ok, decide_eq_true_eq] at h
          obtain ⟨hready, expiry, hlease, hone, rfl, rfl⟩ := h
          have hshift : current.shift (leaseSeconds * 1000000) = some expiry := by
            cases hcase : current.shift (leaseSeconds * 1000000) with
            | none => rw [hcase] at hlease; cases hlease
            | some instant =>
                rw [hcase] at hlease
                exact congrArg some (Except.ok.inj hlease)
          have hfixed : ∀ found : NodeRow, (nodeOf tenant graphId nodeId found &&
              decide (found.state = .ready) && decide (found.fence = row.fence)) = true →
                found.key = (graphId, nodeId) := by
            intro found hcondition
            rw [Bool.and_eq_true, Bool.and_eq_true, nodeOf_iff] at hcondition
            exact hcondition.1.1.2
          obtain ⟨row', hrow', -, hview⟩ := @view_updated tables _ _
            (fun found => { found with
              state := .running
              fence := row.fence + 1
              owner := some owner
              leaseUntil := some expiry.isoformat }) (fun _ => rfl) hfixed hone
          rw [hrow, Option.some.injEq] at hrow'
          subst hrow'
          refine ⟨row, current, expiry, hrow, howned, hready, rfl, htime, hshift, hview, ?_⟩
          intro other hother
          rw [view_log, view_setNodes_other hfixed hother]

/-- A held lease. -/
theorem requireGraphLease_bind_ok {owner : String} {fence : Int} {now : DateTime} {α : Type}
    {rest : Unit → GraphTx α} {result : α}
    (h : (requireGraphLease tenant graphId nodeId owner fence now >>= rest) tables =
      .ok (result, final)) :
    ∃ row, (tables.view (graphId, nodeId)).row = some row ∧ row.tenant = tenant ∧
      row.state = .running ∧ row.owner = some owner ∧ row.fence = fence ∧
      leaseExpired row.leaseUntil now = .ok false ∧ rest () tables = .ok (result, final) := by
  rw [bind_ok] at h
  obtain ⟨_, middle, hlease, hrest⟩ := h
  unfold requireGraphLease selectNode at hlease
  simp only [query_bind_ok] at hlease
  cases hfound : tables.nodes.fetchone (nodeOf tenant graphId nodeId) with
  | none => simp only [hfound, fail_ok] at hlease
  | some row =>
      simp only [hfound, require_bind_ok, lift_bind_ok, require_ok, Bool.and_eq_true,
        decide_eq_true_eq, Bool.not_eq_true'] at hlease
      obtain ⟨⟨⟨hstate, howner⟩, hfence⟩, expired, hexpired, hlive, rfl⟩ := hlease
      obtain ⟨hrow, howned⟩ := fetchone_node hfound
      rw [hlive] at hexpired
      exact ⟨row, hrow, howned, hstate, howner, hfence, hexpired, hrest⟩

/-- A completion stores the one artifact of a running node. -/
theorem completeGraphNode_ok {owner uuid4 : String} {fence : Int} {result : List (String × Json)}
    {succeeded : Bool} {now : DateTime} {ref : ArtifactRef}
    (h : completeGraphNode platform tenant graphId nodeId owner fence result succeeded now uuid4
      tables = .ok (ref, final)) :
    ∃ row artifact, (tables.view (graphId, nodeId)).row = some row ∧ row.tenant = tenant ∧
      row.state = .running ∧ row.owner = some owner ∧ row.fence = fence ∧
      leaseExpired row.leaseUntil now = .ok false ∧ artifact.node = (graphId, nodeId) ∧
      artifact.accepted = 0 ∧ artifact.validationJson = none ∧
      NodeMoves tables final (graphId, nodeId)
        ⟨some (row.completed succeeded artifact.id),
          (tables.view (graphId, nodeId)).artifacts ++ [artifact]⟩ := by
  unfold completeGraphNode at h
  simp only [lift_bind_ok] at h
  obtain ⟨encoded, -, h⟩ := h
  obtain ⟨row, hrow, howned, hstate, howner, hfence, hlease, h⟩ := requireGraphLease_bind_ok h
  simp only [attempt_bind_ok] at h
  obtain ⟨next, hadd, h⟩ := h
  rw [bind_ok] at h
  obtain ⟨updated, middle, hmove, h⟩ := h
  unfold updateNodes at h
  simp only [bind_assoc, query_bind_ok, write_bind_ok, pure_bind, pure_ok] at h
  obtain ⟨-, rfl⟩ := h
  obtain ⟨row', htransition⟩ := transitionGraphNode_ok hmove
  have hview := fun key => @view_addArtifact_node tables next key _ hadd
  -- the transition met the row that holds the lease
  obtain rfl : row = row' := by
    have hfound := htransition.found
    rw [hview, hrow] at hfound
    exact Option.some.inj hfound
  refine ⟨row, ⟨uuid4, graphId, nodeId, tenant, 1, platform.sha256 encoded,
    encoded.utf8ByteSize, encoded, 0, none⟩, hrow, howned, hstate, howner, hfence, hlease, rfl, rfl,
    rfl, ?_⟩
  have hothers : ∀ other, other ≠ (graphId, nodeId) → next.view other = tables.view other := by
    intro other hother
    rw [hview other, if_neg (Ne.symm hother), List.append_nil]
  have hmoves := htransition.moves.after hothers
  rw [hview (graphId, nodeId), if_pos rfl] at hmoves
  exact hmoves.update rfl howned

/-! ### Decisions -/

/-- Every view of the tables is valid. -/
def AllNodesValid (tables : GraphTables) : Prop := ∀ key, NodeValid key (tables.view key)

/-- The decision of a report, after it was written down. -/
theorem reportSays_of_dumps {ref : ArtifactRef} {snapshot : Json} {findings : List Json}
    {reportJson : String} (h : dumps (reportDict ref snapshot findings) = some reportJson) :
    ReportSays reportJson findings.isEmpty := by
  obtain ⟨fields, hfields, hnodup, hdecision, -, -⟩ := reportDict_keys_nodup ref snapshot findings
  rw [hfields] at h
  exact ⟨canon (.obj fields), loads_dumps h, by rw [get?_canon hnodup, hdecision]; rfl⟩

/-- A validation repeats a report, or decides the one artifact of its node. -/
theorem validateGraphNode_ok {policy : ValidationPolicy} {report : Json}
    (hvalid : AllNodesValid tables)
    (h : validateGraphNode platform tenant graphId nodeId policy tables = .ok (report, final)) :
    final = tables ∨ ∃ row artifact accepted reportJson,
      (tables.view (graphId, nodeId)).row = some row ∧ row.tenant = tenant ∧
      row.state = .awaitingValidation ∧ row.resultArtifactId = some artifact.id ∧
      artifact ∈ (tables.view (graphId, nodeId)).artifacts ∧ ReportSays reportJson accepted ∧
      NodeMoves tables final (graphId, nodeId)
        ⟨some (row.moved (decidedState accepted)),
          (tables.view (graphId, nodeId)).artifacts.map fun found =>
            if found.id = artifact.id then found.decided accepted reportJson else found⟩ := by
  unfold validateGraphNode at h
  simp only [lift_bind_ok, query_bind_ok] at h
  obtain ⟨snapshot, -, h⟩ := h
  cases hfound : tables.nodes.fetchone (nodeOf tenant graphId nodeId) with
  | none => simp only [hfound, Option.bind_none, fail_ok] at h
  | some row =>
      obtain ⟨hrow, howned⟩ := fetchone_node hfound
      simp only [hfound, Option.bind_some] at h
      cases hresult : tables.resultOf row with
      | none => simp only [hresult, Option.map_none, fail_ok] at h
      | some artifact =>
          simp only [hresult, Option.map_some, lift_bind_ok] at h
          obtain ⟨stored, hstored, h⟩ := h
          cases hprevious : artifact.validationJson with
          | some text =>
              simp only [hprevious, lift_bind_ok, require_bind_ok, pure_ok] at h
              obtain ⟨_, -, _, -, -, -, hsame⟩ := h
              exact Or.inl hsame.symm
          | none =>
              simp only [hprevious, lift_bind_ok, require_bind_ok, write_bind_ok,
                decide_eq_true_eq] at h
              obtain ⟨hstate, found, hvalidate, decision, hdecision, reportJson, hjson, h⟩ := h
              rw [bind_ok] at h
              obtain ⟨updated, middle, hmove, h⟩ := h
              obtain ⟨rfl, rfl⟩ := pure_ok.mp h
              have hstage := (hvalid (graphId, nodeId)).stage_of hrow hstate
              obtain ⟨-, artifact', hproduced, -⟩ := hstage
              -- the row names the one artifact of the node, and the join found it
              have hmem' : artifact' ∈ (tables.view (graphId, nodeId)).artifacts := by
                rw [hproduced.only]
                exact List.mem_singleton_self _
              obtain ⟨hfind, hnode⟩ := mem_artifacts_iff.mp hmem'
              obtain rfl : artifact = artifact' := by
                have hnamed : row.resultArtifactId = some artifact'.id := hproduced.named
                unfold GraphTables.resultOf at hresult
                rw [hnamed, Option.bind_some, hfind] at hresult
                exact (Option.some.inj hresult).symm
              obtain ⟨findings, rfl⟩ := validateArtifact_ok hvalidate
              have hvalue : decision =
                  .str (if findings.isEmpty then "accepted" else "rejected") :=
                (Except.ok.inj hdecision).symm
              have hdecided : (if decision = .str "accepted" then NodeState.succeeded
                  else .rejected) = decidedState findings.isEmpty := by
                rw [hvalue]
                cases findings.isEmpty with
                | true => rfl
                | false => rfl
              have haccepted : decide (decision = .str "accepted") = findings.isEmpty := by
                rw [hvalue]
                cases findings.isEmpty with
                | true => rfl
                | false => rfl
              rw [haccepted, hdecided] at hmove
              obtain ⟨row', htransition⟩ := transitionGraphNode_ok hmove
              have hfound' := htransition.found
              rw [view_setValidation, hrow, Option.some.injEq] at hfound'
              subst hfound'
              have hothers : ∀ other, other ≠ (graphId, nodeId) →
                  (tables.setValidation artifact.id (intOfBool findings.isEmpty)
                    reportJson).view other = tables.view other :=
                fun other hother => view_setValidation_other hfind (by rw [hnode]; exact hother)
              have hmoves := htransition.moves.after hothers
              rw [view_setValidation] at hmoves
              exact Or.inr ⟨row, artifact, findings.isEmpty, reportJson, hrow, howned, hstate,
                hproduced.named, hmem', reportSays_of_dumps (canonicalJson_ok hjson), hmoves⟩

/-! ### Creation -/

/-- Every listed node is created. -/
theorem insertNodes_ok {nodeStates : List (String × NodeState)}
    (hstates : ∀ pair ∈ nodeStates, pair.2 = .blocked ∨ pair.2 = .ready)
    (h : insertNodes tenant graphId nodeStates tables = .ok ((), final)) : Quiet tables final := by
  induction nodeStates generalizing tables with
  | nil =>
      obtain rfl := (pure_ok.mp h).2
      exact Quiet.refl _
  | cons pair rest ih =>
      obtain ⟨nodeId, state⟩ := pair
      unfold insertNodes graphEvent at h
      simp only [attempt_bind_ok, write_bind_ok] at h
      obtain ⟨next, hadd, h⟩ := h
      have hrest := ih (fun other hother => hstates other (List.mem_cons_of_mem _ hother)) h
      have habsent : (tables.view (graphId, nodeId)).row = none := by
        unfold GraphTables.addNode at hadd
        obtain ⟨nodes, hinsert, -⟩ := Option.map_eq_some_iff.mp hadd
        exact Table.insert_fresh hinsert
      have hcreated : NodeMoves tables next (graphId, nodeId)
          { tables.view (graphId, nodeId) with
            row := some ⟨graphId, nodeId, tenant, state, 0, none, none, none⟩ } := by
        refine ⟨?_, fun other hother => Or.inl ?_⟩
        · rw [view_addNode hadd, if_pos rfl]
        · rw [view_addNode hadd, if_neg (Ne.symm hother)]
      refine Quiet.trans (hcreated.quiet (QuietStep.create _ habsent rfl ?_ rfl rfl rfl rfl)) hrest
      exact hstates (nodeId, state) (List.mem_cons_self ..)

theorem initialState_ok {graph : WorkflowGraph} {state : GraphState}
    (h : graph.initialState = .ok state) :
    ∀ pair ∈ state.nodeStates, pair.2 = .blocked ∨ pair.2 = .ready := by
  obtain ⟨-, hstates⟩ := GraphState.new_ok h
  rw [hstates]
  intro pair hpair
  obtain ⟨node, -, rfl⟩ := List.mem_map.mp hpair
  simp only
  split_ifs
  · exact Or.inr rfl
  · exact Or.inl rfl

theorem createGraph_ok {idempotencyKey uuid4 answer : String} {graph : WorkflowGraph}
    {budget : Option GraphBudget} {binding : Option (List (String × Json))} {now : DateTime}
    (h : createGraph platform tenant idempotencyKey graph budget binding now uuid4 tables =
      .ok (answer, final)) : Quiet tables final := by
  unfold createGraph at h
  simp only [require_bind_ok, lift_bind_ok, query_bind_ok] at h
  obtain ⟨-, -, dict, -, validated, -, value, -, encoded, -, bound, -, hashed, -, initial,
    hinitial, h⟩ := h
  cases hexisting : tables.graphs.fetchone (fun row =>
      decide (row.tenant = tenant) && decide (row.idempotencyKey = idempotencyKey)) with
  | some row =>
      simp only [hexisting, require_bind_ok, pure_ok] at h
      obtain ⟨-, -, rfl⟩ := h
      exact Quiet.refl _
  | none =>
      simp only [hexisting, attempt_bind_ok] at h
      obtain ⟨added, hadd, h⟩ := h
      rw [bind_ok] at h
      obtain ⟨_, inserted, hinsert, h⟩ := h
      rw [bind_ok] at h
      obtain ⟨_, budgeted, hbudget, h⟩ := h
      obtain ⟨-, rfl⟩ := pure_ok.mp h
      have hgraph : Quiet tables added := Quiet.of_view fun key => view_addGraph hadd
      have hnodes : Quiet added inserted := insertNodes_ok (initialState_ok hinitial) hinsert
      have hlast : Quiet inserted budgeted := by
        cases budget with
        | none =>
            obtain rfl := (pure_ok.mp hbudget).2
            exact Quiet.refl _
        | some budget =>
            unfold insertBudget at hbudget
            simp only [lift_bind_ok, insertBudgetRow_ok] at hbudget
            obtain ⟨deadline, -, -, hbudget⟩ := hbudget
            exact Quiet.of_view fun key => view_addBudget hbudget
      exact hgraph.trans (hnodes.trans hlast)

theorem bindGraphBudget_ok {budget : GraphBudget} {now : DateTime} {answer : GraphBudgetRow}
    (h : bindGraphBudget tenant graphId budget now tables = .ok (answer, final)) :
    Quiet tables final := by
  unfold bindGraphBudget at h
  simp only [lift_bind_ok] at h
  obtain ⟨-, -, deadline, -, h⟩ := h
  obtain ⟨state, -, h⟩ := getGraphState_bind_ok h
  unfold selectBudget at h
  simp only [require_bind_ok, query_bind_ok] at h
  obtain ⟨-, h⟩ := h
  cases hexisting : tables.budgets.fetchone (fun row =>
      decide (row.tenant = tenant) && decide (row.graphId = graphId)) with
  | some row =>
      simp only [hexisting, require_bind_ok, pure_ok] at h
      obtain ⟨-, -, rfl⟩ := h
      exact Quiet.refl _
  | none =>
      simp only [hexisting, insertBudgetRow_bind_ok, pure_ok] at h
      obtain ⟨-, next, hadd, -, rfl⟩ := h
      exact Quiet.of_view fun key => view_addBudget hadd

/-! ### Cancellation and recovery -/

/-- A transition and the fence that follows it. -/
theorem fencedTransition_ok {target : NodeState} {α : Type} {rest : GraphTx α} {result : α}
    (h : ((do
      let _ ← transitionGraphNode tenant graphId nodeId target
      fenceNode tenant graphId nodeId
      rest) : GraphTx α) tables = .ok (result, final)) :
    ∃ row next, (tables.view (graphId, nodeId)).row = some row ∧ row.tenant = tenant ∧
      target ∈ allowedTransitions row.state ∧
      NodeMoves tables next (graphId, nodeId)
        { tables.view (graphId, nodeId) with row := some (row.fenced target) } ∧
      rest next = .ok (result, final) := by
  rw [bind_ok] at h
  obtain ⟨updated, middle, hmove, h⟩ := h
  unfold fenceNode updateNodes at h
  simp only [bind_assoc, query_bind_ok, write_bind_ok, pure_bind] at h
  obtain ⟨row, htransition⟩ := transitionGraphNode_ok hmove
  exact ⟨row, _, htransition.found, htransition.owned, htransition.allowed,
    htransition.moves.update rfl htransition.owned, h⟩

/-- A node that was fenced off does not run. -/
theorem NodeMoves.not_running {row : NodeRow} {target : NodeState}
    (h : NodeMoves tables next key { tables.view key with row := some (row.fenced target) })
    (htarget : target ≠ .running) : ¬ (next.view key).Running := by
  rw [h.self]
  rintro ⟨row', hrow', hstate⟩
  obtain rfl := Option.some.inj hrow'
  exact htarget hstate

/-- One round of the cancellation loop: a node listed as active does not run
after it. -/
theorem cancelNodes_cons {listed : NodeState} {rest : List (String × NodeState)}
    (h : cancelNodes tenant graphId ((nodeId, listed) :: rest) tables = .ok ((), final)) :
    ∃ next, Quiet tables next ∧ cancelNodes tenant graphId rest next = .ok ((), final) ∧
      (listed.isCancellable = true →
        ∀ row, (tables.view (graphId, nodeId)).row = some row → row.tenant = tenant →
          ¬ (next.view (graphId, nodeId)).Running) := by
  unfold cancelNodes at h
  split_ifs at h with hlisted
  · obtain ⟨state, hstate, h⟩ := getGraphState_bind_ok h
    cases state with
    | none => simp only [fail_ok] at h
    | some state =>
        simp only [lift_bind_ok] at h
        obtain ⟨current, hcurrent, h⟩ := h
        -- the state that was read is the state of the row
        have hown : ∀ row, (tables.view (graphId, nodeId)).row = some row →
            row.tenant = tenant → row.state = current := by
          intro row hrow howned
          have hread := getGraphState_row hstate hrow howned
          rw [state.stateOf_ok, hread] at hcurrent
          exact Option.some.inj hcurrent
        split_ifs at h with hactive
        · obtain ⟨row, next, hrow, howned, -, hmoves, h⟩ := fencedTransition_ok h
          refine ⟨next, hmoves.quiet (QuietStep.cancel hrow ?_), h, fun _ _ _ _ => ?_⟩
          · rw [hown row hrow howned]
            exact hactive
          · exact hmoves.not_running (by decide)
        · refine ⟨tables, Quiet.refl _, h, fun _ row hrow howned => ?_⟩
          rintro ⟨row', hrow', hrunning⟩
          rw [hrow, Option.some.injEq] at hrow'
          rw [← hown row hrow howned, hrow', hrunning] at hactive
          exact hactive rfl
  · exact ⟨tables, Quiet.refl _, h, fun hcancellable => absurd hcancellable hlisted⟩

/-- **Cancellation loop.**  Every node makes a quiet chain. -/
theorem cancelNodes_ok {nodeStates : List (String × NodeState)}
    (h : cancelNodes tenant graphId nodeStates tables = .ok ((), final)) : Quiet tables final := by
  induction nodeStates generalizing tables with
  | nil =>
      obtain rfl := (pure_ok.mp h).2
      exact Quiet.refl _
  | cons pair rest ih =>
      obtain ⟨next, hquiet, hrest, -⟩ := cancelNodes_cons h
      exact hquiet.trans (ih hrest)

/-- A node that was listed as active does not run after the loop. -/
theorem cancelNodes_ends {nodeStates : List (String × NodeState)} {row : NodeRow}
    {listed : NodeState} (h : cancelNodes tenant graphId nodeStates tables = .ok ((), final))
    (hlisted : (nodeId, listed) ∈ nodeStates) (hcancellable : listed.isCancellable = true)
    (hrow : (tables.view (graphId, nodeId)).row = some row) (howned : row.tenant = tenant) :
    ¬ (final.view (graphId, nodeId)).Running := by
  induction nodeStates generalizing tables with
  | nil => cases hlisted
  | cons pair rest ih =>
      obtain ⟨next, hquiet, hrest, hends⟩ := cancelNodes_cons h
      rcases List.mem_cons.mp hlisted with rfl | hlater
      · exact quiet_chain_not_running (cancelNodes_ok hrest _)
          (hends hcancellable row hrow howned)
      · by_cases hrunning : (next.view (graphId, nodeId)).Running
        · -- a node that still runs has the row it had
          have hsame := quiet_chain_of_running (hquiet (graphId, nodeId)) hrunning
          exact ih hrest hlater (by rw [← hsame]; exact hrow)
        · exact quiet_chain_not_running (cancelNodes_ok hrest _) hrunning

/-- A cancelled graph has no running node. -/
theorem cancelGraph_ok {answer : GraphState}
    (h : cancelGraph tenant graphId tables = .ok (answer, final)) :
    Quiet tables final ∧ ∀ nodeId row, (tables.view (graphId, nodeId)).row = some row →
      row.tenant = tenant → ¬ (final.view (graphId, nodeId)).Running := by
  unfold cancelGraph at h
  obtain ⟨state, hstate, h⟩ := getGraphState_bind_ok h
  cases state with
  | none => simp only [fail_ok] at h
  | some state =>
      simp only at h
      rw [bind_ok] at h
      obtain ⟨_, cancelled, hcancel, h⟩ := h
      obtain ⟨last, -, h⟩ := getGraphState_bind_ok h
      have hsame : cancelled = final := by
        cases last with
        | none => simp only [fail_ok] at h
        | some last => exact (pure_ok.mp h).2
      subst hsame
      refine ⟨cancelNodes_ok hcancel, fun nodeId row hrow howned => ?_⟩
      have hlisted := state.statesOf_iff.mp (getGraphState_row hstate hrow howned)
      by_cases hcancellable : row.state.isCancellable = true
      · exact cancelNodes_ends hcancel hlisted hcancellable hrow howned
      · refine quiet_chain_not_running (cancelNodes_ok hcancel _) ?_
        rintro ⟨row', hrow', hrunning⟩
        rw [hrow, Option.some.injEq] at hrow'
        rw [hrow', hrunning] at hcancellable
        exact hcancellable rfl

/-- **Recovery loop.**  Every node makes a quiet chain, and no listed node runs
after it. -/
theorem recoverNodes_ok {rows : List NodeRow} (h : recoverNodes rows tables = .ok ((), final)) :
    Quiet tables final ∧ ∀ row ∈ rows, ¬ (final.view row.key).Running := by
  induction rows generalizing tables with
  | nil =>
      obtain rfl := (pure_ok.mp h).2
      exact ⟨Quiet.refl _, fun _ hmem => absurd hmem List.not_mem_nil⟩
  | cons first rest ih =>
      unfold recoverNodes at h
      obtain ⟨row, next, hrow, -, hallowed, hmoves, h⟩ := fencedTransition_ok h
      obtain ⟨hquiet, hends⟩ := ih h
      have hrunning : row.state = .running := by
        cases hstate : row.state with
        | running => rfl
        | blocked | ready | awaitingValidation | succeeded | failed | rejected | cancelled
        | uncertain | skipped =>
            rw [hstate] at hallowed
            exact absurd hallowed (by decide)
      refine ⟨(hmoves.quiet (QuietStep.recover hrow hrunning)).trans hquiet, ?_⟩
      intro other hother
      rcases List.mem_cons.mp hother with rfl | hrest
      · exact quiet_chain_not_running (hquiet _) (hmoves.not_running (by decide))
      · exact hends other hrest

theorem recoverGraphNodesStartup_ok {limit : Int} {now : DateTime} {names : List NodeName}
    (h : recoverGraphNodesStartup limit now tables = .ok (names, final)) :
    Quiet tables final ∧ ∀ name ∈ names, ¬ (final.view (name.graphId, name.nodeId)).Running := by
  unfold recoverGraphNodesStartup at h
  simp only [require_bind_ok, lift_bind_ok, query_bind_ok] at h
  obtain ⟨-, current, -, -, h⟩ := h
  rw [bind_ok] at h
  obtain ⟨_, recovered, hrecover, h⟩ := h
  obtain ⟨rfl, rfl⟩ := pure_ok.mp h
  obtain ⟨hquiet, hends⟩ := recoverNodes_ok hrecover
  refine ⟨hquiet, fun name hname => ?_⟩
  obtain ⟨row, hrow, rfl⟩ := List.mem_map.mp hname
  exact hends row hrow

end Workflows
end Ryuk
