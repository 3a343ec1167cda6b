import Ryuk.Workflows.GraphOperations

/-!
# What an operation leaves alone

Seen from one node, most operations change the state, the fence and the lease of
its row and nothing else.  Only a completion names an artifact and adds one, and
only a creation adds rows.
-/

namespace Ryuk
namespace Workflows

open Foundation Foundation.Json Foundation.Datetime Foundation.Transaction Relation Audit

/-- The states of a node that came as far as a result or an end of its own. -/
def NodeState.isFinished : NodeState → Bool
  | .awaitingValidation | .succeeded | .failed | .rejected | .cancelled => true
  | .blocked | .ready | .running | .uncertain | .skipped => false

theorem isFinished_of_allowed {current target : NodeState}
    (h : target ∈ allowedTransitions current) (hfinished : current.isFinished = true) :
    target.isFinished = true := by
  cases current <;> cases target <;> simp_all [allowedTransitions, NodeState.isFinished]

theorem not_terminal_of_allowed {current target : NodeState}
    (h : target ∈ allowedTransitions current) : current ∉ terminalNodeStates := by
  cases current <;> simp_all [allowedTransitions, terminalNodeStates]

/-- A row that names an artifact has come to a result. -/
def NodeRow.Named (row : NodeRow) : Prop :=
  row.resultArtifactId.isSome = true → row.state.isFinished = true

/-- What an operation other than a completion keeps of a node. -/
structure NodeFrame (before after : NodeView) : Prop where
  kept : after.row.map (fun row => (row.tenant, row.resultArtifactId)) =
    before.row.map fun row => (row.tenant, row.resultArtifactId)
  ids : after.artifacts.map GraphArtifactRow.id = before.artifacts.map GraphArtifactRow.id
  finished : ∀ row row', before.row = some row → after.row = some row' →
    row.state.isFinished = true → row'.state.isFinished = true
  ended : ∀ row row', before.row = some row → after.row = some row' →
    row.state ∈ terminalNodeStates → row'.state = row.state

section Frames

variable {first second third before after : NodeView} {row row' : NodeRow}

theorem NodeFrame.refl (view : NodeView) : NodeFrame view view where
  kept := rfl
  ids := rfl
  finished row row' hrow hrow' h := by
    obtain rfl := Option.some.inj (hrow.symm.trans hrow')
    exact h
  ended row row' hrow hrow' _ := by
    obtain rfl := Option.some.inj (hrow.symm.trans hrow')
    rfl

theorem NodeFrame.of_eq (h : after = before) : NodeFrame before after := by
  subst h
  exact NodeFrame.refl _

/-- A row is there after exactly when one was there before. -/
theorem NodeFrame.before_row (h : NodeFrame before after) (hrow : after.row = some row') :
    ∃ row, before.row = some row ∧ row'.tenant = row.tenant ∧
      row'.resultArtifactId = row.resultArtifactId := by
  have hkept := h.kept
  rw [hrow, Option.map_some, eq_comm, Option.map_eq_some_iff] at hkept
  obtain ⟨row, hbefore, hsame⟩ := hkept
  obtain ⟨htenant, hresult⟩ := Prod.mk.inj hsame
  exact ⟨row, hbefore, htenant.symm, hresult.symm⟩

theorem NodeFrame.trans (hfirst : NodeFrame first second) (hsecond : NodeFrame second third) :
    NodeFrame first third where
  kept := hsecond.kept.trans hfirst.kept
  ids := hsecond.ids.trans hfirst.ids
  finished row row'' hrow hrow'' h := by
    obtain ⟨row', hrow', -, -⟩ := hsecond.before_row hrow''
    exact hsecond.finished row' row'' hrow' hrow'' (hfirst.finished row row' hrow hrow' h)
  ended row row'' hrow hrow'' h := by
    obtain ⟨row', hrow', -, -⟩ := hsecond.before_row hrow''
    have hsame := hfirst.ended row row' hrow hrow' h
    rw [hsecond.ended row' row'' hrow' hrow'' (hsame ▸ h), hsame]

/-- One row moved to an allowed state, or released. -/
theorem NodeFrame.of_row (hbefore : before.row = some row)
    (hafter : after.row = some row') (htenant : row'.tenant = row.tenant)
    (hresult : row'.resultArtifactId = row.resultArtifactId)
    (hartifacts : after.artifacts.map GraphArtifactRow.id =
      before.artifacts.map GraphArtifactRow.id)
    (hstate : row'.state ∈ allowedTransitions row.state ∨ row.state = .blocked) :
    NodeFrame before after where
  kept := by rw [hbefore, hafter, Option.map_some, Option.map_some, htenant, hresult]
  ids := hartifacts
  finished found found' hfound hfound' h := by
    obtain rfl := Option.some.inj (hbefore.symm.trans hfound)
    obtain rfl := Option.some.inj (hafter.symm.trans hfound')
    rcases hstate with hallowed | hblocked
    · exact isFinished_of_allowed hallowed h
    · rw [hblocked] at h
      cases h
  ended found found' hfound hfound' h := by
    obtain rfl := Option.some.inj (hbefore.symm.trans hfound)
    obtain rfl := Option.some.inj (hafter.symm.trans hfound')
    rcases hstate with hallowed | hblocked
    · exact absurd h (not_terminal_of_allowed hallowed)
    · rw [hblocked] at h
      exact absurd h (by decide)

end Frames

/-! ### The operations -/

section Operations

variable {platform : Platform} {tables next final : GraphTables} {tenant graphId nodeId : String}
  {key : String × String}

/-- Every node is framed. -/
def TablesFrame (tables final : GraphTables) : Prop :=
  ∀ key, NodeFrame (tables.view key) (final.view key)

theorem TablesFrame.refl (tables : GraphTables) : TablesFrame tables tables :=
  fun _ => NodeFrame.refl _

theorem TablesFrame.trans (hfirst : TablesFrame tables next) (hsecond : TablesFrame next final) :
    TablesFrame tables final := fun key => (hfirst key).trans (hsecond key)

theorem NodeMoves.frame {view : NodeView} (h : NodeMoves tables final key view)
    {other : String × String} (hother : other ≠ key) :
    NodeFrame (tables.view other) (final.view other) := by
  rcases h.others other hother with hsame | ⟨row, state, hrow, hblocked, -, hview⟩
  · exact NodeFrame.of_eq hsame
  · have hafter : (final.view other).row = some (row.moved state) := by rw [hview]
    exact NodeFrame.of_row hrow hafter rfl rfl (by rw [hview]) (Or.inr hblocked)

theorem NodeMoves.tablesFrame {view : NodeView} (h : NodeMoves tables final key view)
    (hself : NodeFrame (tables.view key) view) : TablesFrame tables final := by
  intro other
  by_cases hother : other = key
  · subst hother
    rw [h.self]
    exact hself
  · exact h.frame hother

theorem NodeTransition.frame {target : NodeState} {row : NodeRow}
    (h : NodeTransition tenant graphId nodeId target tables final row) :
    TablesFrame tables final :=
  h.moves.tablesFrame (NodeFrame.of_row h.found rfl rfl rfl rfl (Or.inl h.allowed))

theorem NodeClaim.frame {owner : String} {leaseSeconds fence : Int} {now : DateTime}
    {row : NodeRow} {current expiry : Instant}
    (h : NodeClaim tenant owner leaseSeconds fence now tables final key row current expiry) :
    TablesFrame tables final := by
  intro other
  by_cases hother : other = key
  · subst hother
    rw [h.self]
    refine NodeFrame.of_row h.found rfl rfl rfl rfl (Or.inl ?_)
    rw [h.ready]
    exact List.mem_cons_self ..
  · exact NodeFrame.of_eq (h.others other hother)

/-- A transition that also fences the node. -/
theorem fencedTransition_frame {target : NodeState} {α : Type} {rest : GraphTx α} {result : α}
    (h : ((do
      let _ ← transitionGraphNode tenant graphId nodeId target
      fenceNode tenant graphId nodeId
      rest) : GraphTx α) tables = .ok (result, final)) :
    ∃ next, TablesFrame tables next ∧ rest next = .ok (result, final) := by
  obtain ⟨row, next, hrow, -, hallowed, hmoves, hrest⟩ := fencedTransition_ok h
  exact ⟨next, hmoves.tablesFrame (NodeFrame.of_row hrow rfl rfl rfl rfl (Or.inl hallowed)), hrest⟩

theorem cancelNodes_frame {nodeStates : List (String × NodeState)}
    (h : cancelNodes tenant graphId nodeStates tables = .ok ((), final)) :
    TablesFrame tables final := by
  induction nodeStates generalizing tables with
  | nil =>
      obtain rfl := (pure_ok.mp h).2
      exact TablesFrame.refl _
  | cons pair rest ih =>
      obtain ⟨nodeId, listed⟩ := pair
      unfold cancelNodes at h
      split_ifs at h with hlisted
      · obtain ⟨state, -, h⟩ := getGraphState_bind_ok h
        cases state with
        | none => simp only [fail_ok] at h
        | some state =>
            simp only [lift_bind_ok] at h
            obtain ⟨current, -, h⟩ := h
            split_ifs at h with hactive
            · obtain ⟨next, hframe, h⟩ := fencedTransition_frame h
              exact hframe.trans (ih h)
            · exact ih h
      · exact ih h

/-- A cancellation is its loop. -/
theorem cancelGraph_loop {answer : GraphState}
    (h : cancelGraph tenant graphId tables = .ok (answer, final)) :
    ∃ state, getGraphState tenant graphId tables = .ok (some state, tables) ∧
      cancelNodes tenant graphId state.nodeStates tables = .ok ((), final) := by
  unfold cancelGraph at h
  obtain ⟨state, hstate, h⟩ := getGraphState_bind_ok h
  cases state with
  | none => simp only [fail_ok] at h
  | some state =>
      simp only at h
      rw [bind_ok] at h
      obtain ⟨_, cancelled, hcancel, h⟩ := h
      obtain ⟨last, -, h⟩ := getGraphState_bind_ok h
      cases last with
      | none => simp only [fail_ok] at h
      | some last =>
          obtain ⟨-, rfl⟩ := pure_ok.mp h
          exact ⟨state, hstate, hcancel⟩

theorem recoverNodes_frame {rows : List NodeRow}
    (h : recoverNodes rows tables = .ok ((), final)) : TablesFrame tables final := by
  induction rows generalizing tables with
  | nil =>
      obtain rfl := (pure_ok.mp h).2
      exact TablesFrame.refl _
  | cons row rest ih =>
      unfold recoverNodes at h
      obtain ⟨next, hframe, h⟩ := fencedTransition_frame h
      exact hframe.trans (ih h)

theorem recoverGraphNodesStartup_frame {limit : Int} {now : DateTime} {names : List NodeName}
    (h : recoverGraphNodesStartup limit now tables = .ok (names, final)) :
    TablesFrame tables final := by
  unfold recoverGraphNodesStartup at h
  simp only [require_bind_ok, lift_bind_ok, query_bind_ok] at h
  obtain ⟨-, current, -, -, h⟩ := h
  rw [bind_ok] at h
  obtain ⟨_, recovered, hrecover, h⟩ := h
  obtain ⟨-, rfl⟩ := pure_ok.mp h
  exact recoverNodes_frame hrecover

theorem validateGraphNode_frame {policy : ValidationPolicy} {report : Json}
    (h : validateGraphNode platform tenant graphId nodeId policy tables = .ok (report, final)) :
    TablesFrame tables final := by
  rcases validateGraphNode_cases h with rfl | ⟨row, artifactId, accepted, reportJson, updated, -, -,
    -, -, hmove⟩
  · exact TablesFrame.refl _
  · -- the decision changes columns of an artifact, not its id
    have hdecided : TablesFrame tables
        (tables.setValidation artifactId (intOfBool accepted) reportJson) := by
      intro key
      rw [view_setValidation]
      refine ⟨rfl, ?_, (NodeFrame.refl _).finished, (NodeFrame.refl _).ended⟩
      rw [List.map_map]
      refine List.map_congr_left fun found _ => ?_
      simp only [Function.comp]
      split_ifs
      · rfl
      · rfl
    obtain ⟨row', htransition⟩ := transitionGraphNode_ok hmove
    exact hdecided.trans htransition.frame

theorem bindGraphBudget_frame {budget : GraphBudget} {now : DateTime} {answer : GraphBudgetRow}
    (h : bindGraphBudget tenant graphId budget now tables = .ok (answer, final)) :
    TablesFrame tables final := by
  unfold bindGraphBudget at h
  simp only [lift_bind_ok] at h
  obtain ⟨-, -, deadline, -, h⟩ := h
  obtain ⟨state, -, h⟩ := getGraphState_bind_ok h
  unfold selectBudget at h
  simp only [require_bind_ok, query_bind_ok] at h
  obtain ⟨-, h⟩ := h
  cases hexisting : tables.budgets.fetchone (fun row =>
      decide (row.tenant = tenant) && decide (row.graphId = graphId)) with
  | some row =>
      simp only [hexisting, require_bind_ok, pure_ok] at h
      obtain ⟨-, -, rfl⟩ := h
      exact TablesFrame.refl _
  | none =>
      simp only [hexisting, insertBudgetRow_bind_ok, pure_ok] at h
      obtain ⟨-, next, hadd, -, rfl⟩ := h
      exact fun key => NodeFrame.of_eq (view_addBudget hadd)

/-! ### Creations and completions -/

/-- What a creation under a fresh id did. -/
structure Creation (tenant graphId : String) (tables final : GraphTables) : Prop where
  fresh : ∀ other, (tables.graphView other graphId).row = none
  stored : (final.graphView tenant graphId).row.isSome = true
  graphs : ∀ other otherGraph, otherGraph ≠ graphId →
    final.graphView other otherGraph = tables.graphView other otherGraph
  others : ∀ key : String × String, key.1 ≠ graphId → final.view key = tables.view key
  inside : ∀ (key : String × String) row, key.1 = graphId → (final.view key).row = some row →
    (tables.view key).row = some row ∨ (row.tenant = tenant ∧ row.resultArtifactId = none)

theorem insertNodes_rows {nodeStates : List (String × NodeState)}
    (h : insertNodes tenant graphId nodeStates tables = .ok ((), final)) :
    (∀ key : String × String, key.1 ≠ graphId → final.view key = tables.view key) ∧
      ∀ key row, (final.view key).row = some row →
        (tables.view key).row = some row ∨ (row.tenant = tenant ∧ row.resultArtifactId = none) := by
  induction nodeStates generalizing tables with
  | nil =>
      obtain rfl := (pure_ok.mp h).2
      exact ⟨fun _ _ => rfl, fun _ _ hrow => Or.inl hrow⟩
  | cons pair rest ih =>
      obtain ⟨nodeId, state⟩ := pair
      unfold insertNodes graphEvent at h
      simp only [attempt_bind_ok, write_bind_ok] at h
      obtain ⟨added, hadd, h⟩ := h
      unfold GraphTables.addNode at hadd
      obtain ⟨nodes, hinsert, rfl⟩ := Option.map_eq_some_iff.mp hadd
      obtain ⟨hothers, hrows⟩ := ih h
      have hfind := Table.find_insert hinsert
      constructor
      · intro key hkey
        rw [hothers key hkey]
        unfold GraphTables.view GraphTables.log
        simp only [hfind]
        rw [if_neg]
        rintro rfl
        exact hkey rfl
      · intro key row hrow
        rcases hrows key row hrow with hbefore | hnew
        · change nodes.find key = some row at hbefore
          rw [hfind] at hbefore
          split_ifs at hbefore with hkey
          · obtain rfl := Option.some.inj hbefore
            exact Or.inr ⟨rfl, rfl⟩
          · exact Or.inl hbefore
        · exact Or.inr hnew

theorem createGraph_created {idempotencyKey uuid4 answer : String} {graph : WorkflowGraph}
    {budget : Option GraphBudget} {binding : Option (List (String × Json))} {now : DateTime}
    (h : createGraph platform tenant idempotencyKey graph budget binding now uuid4 tables =
      .ok (answer, final)) : final = tables ∨ Creation tenant uuid4 tables final := by
  unfold createGraph at h
  simp only [require_bind_ok, lift_bind_ok, query_bind_ok] at h
  obtain ⟨-, -, dict, -, validated, -, value, -, encoded, -, bound, -, hashed, -, initial, -, h⟩ :=
    h
  cases hexisting : tables.graphs.fetchone (fun row =>
      decide (row.tenant = tenant) && decide (row.idempotencyKey = idempotencyKey)) with
  | some row =>
      simp only [hexisting, require_bind_ok, pure_ok] at h
      exact Or.inl h.2.2.symm
  | none =>
      simp only [hexisting, attempt_bind_ok] at h
      obtain ⟨added, hadd, h⟩ := h
      rw [bind_ok] at h
      obtain ⟨_, inserted, hinsert, h⟩ := h
      rw [bind_ok] at h
      obtain ⟨_, budgeted, hbudget, h⟩ := h
      obtain ⟨-, rfl⟩ := pure_ok.mp h
      obtain ⟨hsame, hviews⟩ : SameGraphs inserted budgeted ∧
          ∀ key, budgeted.view key = inserted.view key := by
        cases budget with
        | none =>
            obtain rfl := (pure_ok.mp hbudget).2
            exact ⟨fun _ _ => rfl, fun _ => rfl⟩
        | some budget =>
            unfold insertBudget at hbudget
            simp only [lift_bind_ok, insertBudgetRow_ok] at hbudget
            obtain ⟨deadline, -, -, hbudget⟩ := hbudget
            exact ⟨sameGraphs_addBudget hbudget, fun key => view_addBudget hbudget⟩
      obtain ⟨hothers, hrows⟩ := insertNodes_rows hinsert
      obtain ⟨hself, hself'⟩ := insertNodes_view hinsert
      obtain ⟨-, hadded, hadded'⟩ := graphView_addGraph hadd
      refine Or.inr ⟨fun other => ?_, ?_, fun other otherGraph hother => ?_, fun key hkey => ?_,
        fun key row hkey hrow => ?_⟩
      · unfold GraphTables.addGraph at hadd
        obtain ⟨graphs, hgraphs, -⟩ := Option.map_eq_some_iff.mp hadd
        have hfresh : tables.graphs.find uuid4 = none := Table.insert_fresh hgraphs
        change tables.graphRow other uuid4 = none
        rw [graphRow_eq, hfresh]
        rfl
      · rw [hsame tenant uuid4, hself]
        simp only at hadded
        rw [hadded]
        rfl
      · have hne : (other, otherGraph) ≠ (tenant, uuid4) := fun hsame =>
          hother (Prod.mk.inj hsame).2
        rw [hsame other otherGraph, hself' other otherGraph hne, hadded' other otherGraph hne]
      · rw [hviews key, hothers key hkey, view_addGraph hadd]
      · rw [hviews key] at hrow
        have hcase := hrows key row hrow
        rw [view_addGraph hadd] at hcase
        exact hcase

/-- What a completion did: a running node ended with a new artifact. -/
structure Completion (key : String × String) (tables final : GraphTables) (row row' : NodeRow) :
    Prop where
  found : (tables.view key).row = some row
  running : row.state = .running
  written : (final.view key).row = some row'
  owned : row'.tenant = row.tenant
  ended : row'.state = .awaitingValidation ∨ row'.state = .failed
  others : ∀ other, other ≠ key → NodeFrame (tables.view other) (final.view other)

theorem completeGraphNode_completion {owner uuid4 : String} {fence : Int}
    {result : List (String × Json)} {succeeded : Bool} {now : DateTime} {ref : ArtifactRef}
    (h : completeGraphNode platform tenant graphId nodeId owner fence result succeeded now uuid4
      tables = .ok (ref, final)) :
    ∃ row row', Completion (graphId, nodeId) tables final row row' := by
  obtain ⟨row, artifact, hrow, -, hstate, -, -, -, -, -, -, hmoves⟩ := completeGraphNode_ok h
  refine ⟨row, row.completed succeeded artifact.id, hrow, hstate, ?_, rfl, ?_, fun other hother =>
    hmoves.frame hother⟩
  · rw [hmoves.self]
  · cases succeeded with
    | true => exact Or.inl rfl
    | false => exact Or.inr rfl

/-- **Frame lemma.**  An operation that returns leaves every node framed, or
creates a graph under a fresh id, or completes one running node. -/
theorem graphBody_frame {operation : GraphOperation} {answer : GraphAnswer}
    (h : operation.body platform tables = .ok (answer, final)) :
    TablesFrame tables final ∨
      (∃ tenant graphId, Creation tenant graphId tables final) ∨
        ∃ key row row', Completion key tables final row row' := by
  cases operation with
  | transitionGraphNode tenant graphId nodeId target =>
      obtain ⟨state, hmove, -⟩ := map_ok.mp h
      obtain ⟨row, htransition⟩ := transitionGraphNode_ok hmove
      exact Or.inl htransition.frame
  | call call =>
      cases call with
      | createGraph tenant key graph budget binding now uuid4 =>
          obtain ⟨id, hcreate, -⟩ := map_ok.mp h
          rcases createGraph_created hcreate with rfl | hcreated
          · exact Or.inl (TablesFrame.refl _)
          · exact Or.inr (Or.inl ⟨tenant, uuid4, hcreated⟩)
      | bindGraphBudget tenant graphId budget now =>
          obtain ⟨row, hbind, -⟩ := map_ok.mp h
          exact Or.inl (bindGraphBudget_frame hbind)
      | claimGraphNode tenant graphId nodeId owner leaseSeconds now =>
          obtain ⟨fence, hclaim, -⟩ := map_ok.mp h
          obtain ⟨row, current, expiry, hnode⟩ := claimGraphNode_ok hclaim
          exact Or.inl hnode.frame
      | completeGraphNode tenant graphId nodeId owner fence result succeeded now uuid4 =>
          obtain ⟨ref, hcomplete, -⟩ := map_ok.mp h
          exact Or.inr (Or.inr ⟨_, completeGraphNode_completion hcomplete⟩)
      | validateGraphNode tenant graphId nodeId policy =>
          obtain ⟨report, hvalidate, -⟩ := map_ok.mp h
          exact Or.inl (validateGraphNode_frame hvalidate)
      | cancelGraph tenant graphId =>
          obtain ⟨state, hcancel, -⟩ := map_ok.mp h
          obtain ⟨found, -, hloop⟩ := cancelGraph_loop hcancel
          exact Or.inl (cancelNodes_frame hloop)
      | recoverGraphNodesStartup limit now =>
          obtain ⟨names, hrecover, -⟩ := map_ok.mp h
          exact Or.inl (recoverGraphNodesStartup_frame hrecover)

end Operations

/-! ### Invariants of rows -/

section Rows

variable {platform : Platform} {tables final : GraphTables}

/-- A listed state is the state of a row. -/
theorem row_of_listed {tenant graphId nodeId : String} {state : NodeState}
    (h : (nodeId, state) ∈ (tables.graphView tenant graphId).states) :
    ∃ row, (tables.view (graphId, nodeId)).row = some row ∧ row.tenant = tenant ∧
      row.state = state := by
  obtain ⟨row, hrow, hpair⟩ := List.mem_map.mp h
  obtain ⟨rfl, rfl⟩ := Prod.mk.inj hpair
  obtain ⟨hmem, hmatch⟩ := Table.mem_select.mp hrow
  unfold nodeOfGraph at hmatch
  rw [Bool.and_eq_true, decide_eq_true_eq, decide_eq_true_eq] at hmatch
  obtain ⟨rfl, rfl⟩ := hmatch
  exact ⟨row, Table.find_of_mem hmem, rfl, rfl⟩

/-- The invariant of all rows: a node belongs to a stored graph of its tenant, and
names an artifact only after a result. -/
structure RowsSound (tables : GraphTables) : Prop where
  owned : ∀ key row, (tables.view key).row = some row →
    (tables.graphView row.tenant key.1).row.isSome = true
  named : ∀ key row, (tables.view key).row = some row → row.Named

theorem rowsSound_empty : RowsSound GraphTables.empty where
  owned key row hrow := by cases hrow
  named key row hrow := by cases hrow

/-- A stored graph stays stored. -/
theorem GraphStep.row {view later : GraphView} (h : GraphStep view later) {row : GraphRow}
    (hrow : view.row = some row) : later.row = some row := by
  cases h with
  | create row' state habsent hstored hinitial =>
      rw [hrow] at habsent
      cases habsent
  | move hrow' hstored hstates hmove hordered =>
      rw [← hrow, hrow']

theorem GraphQuiet.row (h : GraphQuiet tables final) {tenant graphId : String} {row : GraphRow}
    (hrow : (tables.graphView tenant graphId).row = some row) :
    (final.graphView tenant graphId).row = some row := by
  have hchain := h tenant graphId
  generalize final.graphView tenant graphId = later at hchain ⊢
  induction hchain with
  | refl => exact hrow
  | tail _ hstep ih => exact hstep.row ih

theorem GraphQuiet.row_isSome (h : GraphQuiet tables final) {tenant graphId : String}
    (hrow : (tables.graphView tenant graphId).row.isSome = true) :
    (final.graphView tenant graphId).row.isSome = true := by
  obtain ⟨row, hfound⟩ := Option.isSome_iff_exists.mp hrow
  rw [h.row hfound]
  rfl

/-- An id is taken by one tenant. -/
theorem graphView_tenant {first second graphId : String}
    (hfirst : (tables.graphView first graphId).row.isSome = true)
    (hsecond : (tables.graphView second graphId).row.isSome = true) : first = second := by
  obtain ⟨row, hrow⟩ := Option.isSome_iff_exists.mp hfirst
  obtain ⟨row', hrow'⟩ := Option.isSome_iff_exists.mp hsecond
  change tables.graphRow first graphId = some row at hrow
  change tables.graphRow second graphId = some row' at hrow'
  rw [graphRow_eq, Option.filter_eq_some_iff, Bool.and_eq_true, decide_eq_true_eq] at hrow hrow'
  obtain rfl := Option.some.inj (hrow.1.symm.trans hrow'.1)
  rw [← hrow.2.1, ← hrow'.2.1]

/-- **Step lemma.** -/
theorem graphBody_rowsSound {operation : GraphOperation} {answer : GraphAnswer}
    (hvalid : AllGraphsValid tables) (hsound : RowsSound tables)
    (h : operation.body platform tables = .ok (answer, final)) : RowsSound final := by
  have hquiet := graphBody_quiet hvalid h
  rcases graphBody_frame h with hframe | ⟨tenant, graphId, hcreated⟩ | ⟨key, row, row', hcompleted⟩
  · refine ⟨fun key row' hrow' => ?_, fun key row' hrow' => ?_⟩
    · obtain ⟨row, hrow, htenant, -⟩ := (hframe key).before_row hrow'
      rw [htenant]
      exact hquiet.row_isSome (hsound.owned key row hrow)
    · obtain ⟨row, hrow, -, hresult⟩ := (hframe key).before_row hrow'
      intro hsome
      exact (hframe key).finished row row' hrow hrow' (hsound.named key row hrow (hresult ▸ hsome))
  · -- the id was fresh, so the rows under it are new
    refine ⟨fun key row hrow => ?_, fun key row hrow => ?_⟩
    · by_cases hkey : key.1 = graphId
      · rcases hcreated.inside key row hkey hrow with hbefore | ⟨rfl, -⟩
        · exact hquiet.row_isSome (hsound.owned key row hbefore)
        · rw [hkey]
          exact hcreated.stored
      · rw [hcreated.others key hkey] at hrow
        exact hquiet.row_isSome (hsound.owned key row hrow)
    · by_cases hkey : key.1 = graphId
      · rcases hcreated.inside key row hkey hrow with hbefore | ⟨-, hnone⟩
        · exact hsound.named key row hbefore
        · intro hsome
          rw [hnone] at hsome
          cases hsome
      · rw [hcreated.others key hkey] at hrow
        exact hsound.named key row hrow
  · refine ⟨fun other found hfound => ?_, fun other found hfound => ?_⟩
    · by_cases hother : other = key
      · subst hother
        obtain rfl := Option.some.inj (hcompleted.written.symm.trans hfound)
        rw [hcompleted.owned]
        exact hquiet.row_isSome (hsound.owned other row hcompleted.found)
      · obtain ⟨before, hbefore, htenant, -⟩ := (hcompleted.others other hother).before_row hfound
        rw [htenant]
        exact hquiet.row_isSome (hsound.owned other before hbefore)
    · by_cases hother : other = key
      · subst hother
        obtain rfl := Option.some.inj (hcompleted.written.symm.trans hfound)
        intro _
        rcases hcompleted.ended with hstate | hstate
        · rw [hstate]
          rfl
        · rw [hstate]
          rfl
      · obtain ⟨before, hbefore, -, hresult⟩ := (hcompleted.others other hother).before_row hfound
        intro hsome
        exact (hcompleted.others other hother).finished before found hbefore hfound
          (hsound.named other before hbefore (hresult ▸ hsome))

/-- The invariants of a reachable store. -/
structure GraphsSound (tables : GraphTables) : Prop where
  valid : AllGraphsValid tables
  rows : RowsSound tables

theorem graphsSound_empty : GraphsSound GraphTables.empty := ⟨graph_empty_valid, rowsSound_empty⟩

theorem graphOperations_sound (tables : GraphTables) (operation : GraphOperation)
    (h : GraphsSound tables) : GraphsSound ((graphOperations platform).next tables operation) :=
  commit_preserves h fun _ _ hok =>
    ⟨(graphBody_quiet h.valid hok).valid h.valid, graphBody_rowsSound h.valid h.rows hok⟩

/-- **Run lemma.** -/
theorem graphOperations_reachable_sound
    (h : (graphOperations platform).Reachable GraphTables.empty tables) : GraphsSound tables :=
  h.invariant graphOperations_sound graphsSound_empty

end Rows

end Workflows
end Ryuk
