import Ryuk.Workflows.GraphFrames
import Ryuk.Workflows.GraphNodes
import Ryuk.Workflows.GraphViews

/-!
# What a graph hands on

A claimed node reads the accepted artifacts of its dependencies, and a finished
graph publishes those of the nodes that nothing depends on.  Both reads check the
states again; that they find what they look for needs that only accepted nodes
have succeeded, and that an artifact never changes its content or its owner.
-/

namespace Ryuk
namespace Workflows

open Foundation Foundation.Json Foundation.Text Foundation.Transaction Foundation.Dependency
open Relation

/-! ### Reading results -/

/-- `StoredArtifact(ArtifactRef(...), row["content_json"])`. -/
def GraphArtifactRow.stored (platform : Platform) (row : GraphArtifactRow) :
    Except PyError (StoredArtifact platform) :=
  StoredArtifact.new platform
    ⟨row.id, row.graphId, row.sha256, row.sizeBytes, row.schemaVersion, "application/json"⟩
    row.contentJson

/-- The dependency loop of `accepted_dependency_artifacts`. -/
def dependencyArtifacts (platform : Platform) (tenant graphId : String) (state : GraphState) :
    List String → GraphTx (List (String × StoredArtifact platform))
  | [] => pure []
  | dependency :: rest => do
      let current ← lift (state.stateOf dependency)
      require (decide (current = .succeeded))
        (.workflowConflict "Graph dependency is not accepted")
      let row ← query fun tables =>
        ((tables.nodes.fetchone (nodeOf tenant graphId dependency)).bind tables.resultOf).filter
          fun artifact => decide (artifact.accepted = 1)
      match row with
      | none => fail (.workflowConflict "Accepted dependency artifact is missing")
      | some row => do
          let artifact ← lift (row.stored platform)
          let others ← dependencyArtifacts platform tenant graphId state rest
          pure ((dependency, artifact) :: others)

/-- `accepted_dependency_artifacts`. -/
def acceptedDependencyArtifacts (platform : Platform) (tenant graphId nodeId : String) :
    GraphTx (List (String × StoredArtifact platform)) := do
  let state ← getGraphState tenant graphId
  match state with
  | none => fail (.workflowConflict "Workflow graph not found")
  | some state =>
      match state.graph.nodes.find? fun node => decide (node.nodeId = nodeId) with
      | none => fail (.workflowConflict "Workflow graph node not found")
      | some node => dependencyArtifacts platform tenant graphId state node.dependsOn

/-- The nodes that no other node depends on. -/
def WorkflowGraph.sinks (graph : WorkflowGraph) : List String :=
  let dependedOn := graph.nodes.flatMap GraphNode.dependsOn
  (graph.nodes.filter fun node => decide (node.nodeId ∉ dependedOn)).map GraphNode.nodeId

/-- `any(state.state_of(node_id) is not NodeState.SUCCEEDED for node_id in sinks)`. -/
def anyUnaccepted (state : GraphState) : List String → Except PyError Bool
  | [] => pure false
  | nodeId :: rest => do
      let current ← state.stateOf nodeId
      if current ≠ .succeeded then pure true else anyUnaccepted state rest

/-- One published result: the artifact and its report. -/
abbrev GraphResult (platform : Platform) := String × StoredArtifact platform × Json

/-- The sink loop of `accepted_graph_results`. -/
def sinkResults (platform : Platform) (tenant graphId : String) :
    List String → GraphTx (List (GraphResult platform))
  | [] => pure []
  | nodeId :: rest => do
      let row ← query fun tables => tables.artifacts.fetchone fun artifact =>
        decide (artifact.tenant = tenant) && decide (artifact.graphId = graphId) &&
          decide (artifact.nodeId = nodeId) && decide (artifact.accepted = 1)
      match row.bind fun artifact => artifact.validationJson.map fun text => (artifact, text) with
      | none => fail (.workflowConflict "Accepted graph result evidence is missing")
      | some (row, text) => do
          let artifact ← lift (row.stored platform)
          let report ← lift (loadsJson text)
          let others ← sinkResults platform tenant graphId rest
          pure ((nodeId, artifact, report) :: others)

/-- `accepted_graph_results`. -/
def acceptedGraphResults (platform : Platform) (tenant graphId : String) :
    GraphTx (List (GraphResult platform)) := do
  let state ← getGraphState tenant graphId
  match state with
  | none => fail (.workflowConflict "Workflow graph not found")
  | some state => do
      let unaccepted ← lift
        (if !state.terminal then pure true else anyUnaccepted state state.graph.sinks)
      require (!unaccepted) (.workflowConflict "Workflow graph has no accepted result")
      sinkResults platform tenant graphId state.graph.sinks

/-! ### What no operation changes of an artifact -/

/-- An artifact without its decision. -/
def GraphArtifactRow.undecided (artifact : GraphArtifactRow) : GraphArtifactRow :=
  { artifact with accepted := 0, validationJson := none }

/-- The content is the one that was hashed, and it is an object. -/
structure GraphArtifactRow.Intact (platform : Platform) (artifact : GraphArtifactRow) : Prop where
  version : artifact.schemaVersion = 1
  size : artifact.contentJson.utf8ByteSize = artifact.sizeBytes
  digest : platform.sha256 artifact.contentJson = artifact.sha256
  loaded : ∃ content, loads artifact.contentJson = some (.obj content)

section Artifacts

variable {platform : Platform} {tables next final : GraphTables} {tenant graphId nodeId : String}
  {artifact earlier : GraphArtifactRow}

theorem GraphArtifactRow.Intact.undecided (h : earlier.Intact platform)
    (hsame : earlier.undecided = artifact.undecided) : artifact.Intact platform := by
  obtain ⟨id, graphId, nodeId, tenant, version, sha, size, content, accepted, report⟩ := artifact
  obtain ⟨id', graphId', nodeId', tenant', version', sha', size', content', accepted', report'⟩ :=
    earlier
  unfold GraphArtifactRow.undecided at hsame
  simp only [GraphArtifactRow.mk.injEq] at hsame
  obtain ⟨rfl, rfl, rfl, rfl, rfl, rfl, rfl, rfl, -, -⟩ := hsame
  exact ⟨h.version, h.size, h.digest, h.loaded⟩

/-- An intact row is read as the artifact it stores. -/
theorem GraphArtifactRow.Intact.stored (h : artifact.Intact platform) :
    ∃ stored, artifact.stored platform = .ok stored ∧ stored.ref.artifactId = artifact.id ∧
      stored.ref.workflowId = artifact.graphId ∧ stored.contentJson = artifact.contentJson := by
  obtain ⟨hversion, hsize, hdigest, content, hloaded⟩ := h
  unfold GraphArtifactRow.stored StoredArtifact.new
  rw [dif_pos ⟨hversion, rfl, hsize, hdigest⟩]
  split
  · exact ⟨_, rfl, rfl, rfl, rfl⟩
  · rename_i hnone hother
    rw [hloaded] at hother
    exact absurd (Option.some.inj hother).symm (hnone content)
  · rename_i hnone
    rw [hloaded] at hnone
    cases hnone

/-- Statements on nodes and events leave the artifacts alone. -/
theorem artifacts_blind : BlindTo tenant GraphTables.artifacts where
  setNodes _ _ _ _ _ _ := rfl
  log _ _ _ _ := rfl
  addNode tables row next _ hadd := by
    obtain ⟨nodes, -, rfl⟩ := Option.map_eq_some_iff.mp hadd
    rfl

theorem addBudget_artifacts {row : GraphBudgetRow} (h : tables.addBudget row = some next) :
    next.artifacts = tables.artifacts := by
  obtain ⟨budgets, -, rfl⟩ := Option.map_eq_some_iff.mp h
  rfl

theorem bindGraphBudget_artifacts {budget : GraphBudget} {now : Datetime.DateTime} :
    Keeps GraphTables.artifacts (bindGraphBudget tenant graphId budget now) := by
  unfold bindGraphBudget
  apply Keeps.bind Keeps.lift
  intro _
  apply Keeps.bind Keeps.lift
  intro deadline
  apply Keeps.bind getGraphState_keeps
  intro state
  apply Keeps.bind Keeps.require
  intro _
  apply Keeps.bind selectBudget_keeps
  intro existing
  cases existing with
  | none =>
      exact Keeps.bind (insertBudgetRow_keeps fun _ _ => addBudget_artifacts) fun _ => Keeps.pure
  | some row => exact Keeps.bind Keeps.require fun _ => Keeps.pure

theorem createGraph_artifacts {key uuid4 : String} {graph : WorkflowGraph}
    {budget : Option GraphBudget} {binding : Option (List (String × Json))}
    {now : Datetime.DateTime} :
    Keeps GraphTables.artifacts
      (createGraph platform tenant key graph budget binding now uuid4) := by
  unfold createGraph
  apply Keeps.bind Keeps.require
  intro _
  apply Keeps.bind Keeps.require
  intro _
  apply Keeps.bind Keeps.lift
  intro dict
  apply Keeps.bind Keeps.lift
  intro validated
  apply Keeps.bind Keeps.lift
  intro value
  apply Keeps.bind Keeps.lift
  intro encoded
  apply Keeps.bind Keeps.lift
  intro bound
  apply Keeps.bind Keeps.lift
  intro hashed
  apply Keeps.bind Keeps.lift
  intro initial
  apply Keeps.bind Keeps.query
  intro existing
  cases existing with
  | some row => exact Keeps.bind Keeps.require fun _ => Keeps.pure
  | none =>
      apply Keeps.bind
      · apply Keeps.attempt
        intro state next hadd
        obtain ⟨graphs, -, rfl⟩ := Option.map_eq_some_iff.mp hadd
        rfl
      intro _
      apply Keeps.bind (insertNodes_keeps artifacts_blind)
      intro _
      apply Keeps.bind
      · unfold insertBudget
        cases budget with
        | none => exact Keeps.pure
        | some budget =>
            exact Keeps.bind Keeps.lift fun _ =>
              insertBudgetRow_keeps fun _ _ => addBudget_artifacts
      · intro _
        exact Keeps.pure

/-- A completion adds the artifact of its result. -/
theorem completeGraphNode_artifacts {owner uuid4 : String} {fence : Int}
    {result : List (String × Json)} {succeeded : Bool} {now : Datetime.DateTime}
    {ref : ArtifactRef}
    (h : completeGraphNode platform tenant graphId nodeId owner fence result succeeded now uuid4
      tables = .ok (ref, final)) :
    ∃ artifact row, tables.artifacts.insert artifact = some final.artifacts ∧
      artifact.Intact platform ∧ (tables.view artifact.node).row = some row ∧
      row.tenant = artifact.tenant := by
  unfold completeGraphNode at h
  simp only [lift_bind_ok] at h
  obtain ⟨encoded, hencoded, h⟩ := h
  obtain ⟨row, hrow, howned, -, -, -, -, h⟩ := requireGraphLease_bind_ok h
  simp only [attempt_bind_ok] at h
  obtain ⟨next, hadd, h⟩ := h
  rw [bind_ok] at h
  obtain ⟨updated, middle, hmove, h⟩ := h
  unfold updateNodes at h
  simp only [bind_assoc, query_bind_ok, write_bind_ok, pure_bind, pure_ok] at h
  obtain ⟨-, rfl⟩ := h
  have hkept : middle.artifacts = next.artifacts :=
    transitionGraphNode_keeps artifacts_blind _ _ _ hmove
  unfold GraphTables.addArtifact at hadd
  obtain ⟨artifacts, hinsert, rfl⟩ := Option.map_eq_some_iff.mp hadd
  refine ⟨⟨uuid4, graphId, nodeId, tenant, 1, platform.sha256 encoded, encoded.utf8ByteSize, encoded,
    0, none⟩, row, ?_, ⟨rfl, rfl, rfl, ?_⟩, hrow, howned⟩
  · show tables.artifacts.insert _ = some middle.artifacts
    rw [hkept]
    exact hinsert
  · have hloads := loads_dumps (canonicalJson_ok hencoded)
    exact ⟨_, hloads⟩

/-- A validation changes the decision of at most one artifact. -/
theorem validateGraphNode_artifacts {policy : Audit.ValidationPolicy} {report : Json}
    (h : validateGraphNode platform tenant graphId nodeId policy tables = .ok (report, final)) :
    ∀ artifact ∈ final.artifacts.rows, ∃ earlier ∈ tables.artifacts.rows,
      earlier.undecided = artifact.undecided := by
  rcases validateGraphNode_cases h with rfl | ⟨row, artifactId, accepted, reportJson, updated, -, -,
    -, -, hmove⟩
  · exact fun artifact hartifact => ⟨artifact, hartifact, rfl⟩
  · have hkept : final.artifacts = (tables.setValidation artifactId (intOfBool accepted)
        reportJson).artifacts := transitionGraphNode_keeps artifacts_blind _ _ _ hmove
    rw [hkept]
    intro artifact hartifact
    obtain ⟨earlier, hearlier, hsame⟩ := List.mem_map.mp hartifact
    refine ⟨earlier, hearlier, ?_⟩
    rw [← hsame]
    split_ifs
    · rfl
    · rfl

/-- **Frame lemma.**  Apart from its decision an artifact is as it was, or it was
added to a node of its tenant. -/
theorem graphBody_artifacts {operation : GraphOperation} {answer : GraphAnswer}
    (h : operation.body platform tables = .ok (answer, final)) :
    ∀ artifact ∈ final.artifacts.rows,
      (∃ earlier ∈ tables.artifacts.rows, earlier.undecided = artifact.undecided) ∨
        (artifact.Intact platform ∧
          ∃ row, (tables.view artifact.node).row = some row ∧ row.tenant = artifact.tenant) := by
  have hkept : final.artifacts = tables.artifacts → ∀ artifact ∈ final.artifacts.rows,
      (∃ earlier ∈ tables.artifacts.rows, earlier.undecided = artifact.undecided) ∨
        (artifact.Intact platform ∧
          ∃ row, (tables.view artifact.node).row = some row ∧ row.tenant = artifact.tenant) := by
    intro hsame artifact hartifact
    rw [hsame] at hartifact
    exact Or.inl ⟨artifact, hartifact, rfl⟩
  cases operation with
  | transitionGraphNode tenant graphId nodeId target =>
      exact hkept (Keeps.map (transitionGraphNode_keeps artifacts_blind) _ _ _ h)
  | call call =>
      cases call with
      | createGraph tenant key graph budget binding now uuid4 =>
          exact hkept (Keeps.map createGraph_artifacts _ _ _ h)
      | bindGraphBudget tenant graphId budget now =>
          exact hkept (Keeps.map bindGraphBudget_artifacts _ _ _ h)
      | claimGraphNode tenant graphId nodeId owner leaseSeconds now =>
          exact hkept (Keeps.map (claimGraphNode_keeps artifacts_blind) _ _ _ h)
      | completeGraphNode tenant graphId nodeId owner fence result succeeded now uuid4 =>
          obtain ⟨ref, hcomplete, -⟩ := map_ok.mp h
          obtain ⟨added, row, hinsert, hintact, hrow, howned⟩ :=
            completeGraphNode_artifacts hcomplete
          intro artifact hartifact
          rcases (Table.mem_insert hinsert).mp hartifact with hbefore | rfl
          · exact Or.inl ⟨artifact, hbefore, rfl⟩
          · exact Or.inr ⟨hintact, row, hrow, howned⟩
      | validateGraphNode tenant graphId nodeId policy =>
          obtain ⟨report, hvalidate, -⟩ := map_ok.mp h
          exact fun artifact hartifact =>
            Or.inl (validateGraphNode_artifacts hvalidate artifact hartifact)
      | cancelGraph tenant graphId =>
          exact hkept (Keeps.map (cancelGraph_keeps artifacts_blind) _ _ _ h)
      | recoverGraphNodesStartup limit now =>
          exact hkept (Keeps.map (recoverGraphNodesStartup_keeps fun _ => artifacts_blind) _ _ _ h)

/-! ### Artifacts of a reachable store -/

/-- A row stays, with its tenant. -/
theorem tenant_kept {key : String × String} {row : NodeRow} {operation : GraphOperation}
    {answer : GraphAnswer} (hrows : RowsSound tables)
    (h : operation.body platform tables = .ok (answer, final))
    (hrow : (tables.view key).row = some row) :
    ∃ row', (final.view key).row = some row' ∧ row'.tenant = row.tenant := by
  have hframe : NodeFrame (tables.view key) (final.view key) →
      ∃ row', (final.view key).row = some row' ∧ row'.tenant = row.tenant := by
    intro hframe
    have hkept := hframe.kept
    rw [hrow, Option.map_some, Option.map_eq_some_iff] at hkept
    obtain ⟨row', hrow', hsame⟩ := hkept
    exact ⟨row', hrow', (Prod.mk.inj hsame).1⟩
  rcases graphBody_frame h with hall | ⟨tenant, graphId, hcreated⟩ | ⟨other, found, found', hdone⟩
  · exact hframe (hall key)
  · -- a row under the new id would belong to a stored graph
    have hkey : key.1 ≠ graphId := by
      rintro rfl
      have hsome := hrows.owned key row hrow
      rw [hcreated.fresh row.tenant] at hsome
      cases hsome
    rw [hcreated.others key hkey]
    exact ⟨row, hrow, rfl⟩
  · by_cases hkey : key = other
    · subst hkey
      obtain rfl := Option.some.inj (hdone.found.symm.trans hrow)
      exact ⟨found', hdone.written, hdone.owned⟩
    · exact hframe (hdone.others key hkey)

/-- The invariant of artifacts. -/
structure ArtifactsSound (platform : Platform) (tables : GraphTables) : Prop where
  intact : ∀ artifact ∈ tables.artifacts.rows, artifact.Intact platform
  owned : ∀ artifact ∈ tables.artifacts.rows,
    ∃ row, (tables.view artifact.node).row = some row ∧ row.tenant = artifact.tenant

theorem artifactsSound_empty : ArtifactsSound platform GraphTables.empty where
  intact artifact h := by cases h
  owned artifact h := by cases h

/-- **Step lemma.** -/
theorem graphBody_artifactsSound {operation : GraphOperation} {answer : GraphAnswer}
    (hrows : RowsSound tables) (hsound : ArtifactsSound platform tables)
    (h : operation.body platform tables = .ok (answer, final)) :
    ArtifactsSound platform final := by
  have hcases := graphBody_artifacts h
  refine ⟨fun artifact hartifact => ?_, fun artifact hartifact => ?_⟩
  · rcases hcases artifact hartifact with ⟨earlier, hearlier, hsame⟩ | ⟨hintact, -⟩
    · exact (hsound.intact earlier hearlier).undecided hsame
    · exact hintact
  · have hbefore : ∃ row, (tables.view artifact.node).row = some row ∧
        row.tenant = artifact.tenant := by
      rcases hcases artifact hartifact with ⟨earlier, hearlier, hsame⟩ | ⟨-, hrow⟩
      · have hnode : earlier.undecided.node = artifact.undecided.node := by rw [hsame]
        have htenant : earlier.undecided.tenant = artifact.undecided.tenant := by rw [hsame]
        obtain ⟨row, hrow, howned⟩ := hsound.owned earlier hearlier
        exact ⟨row, hnode ▸ hrow, howned.trans htenant⟩
      · exact hrow
    obtain ⟨row, hrow, howned⟩ := hbefore
    obtain ⟨row', hrow', htenant⟩ := tenant_kept hrows h hrow
    exact ⟨row', hrow', htenant.trans howned⟩

/-- **Run lemma.** -/
theorem graphOperations_reachable_artifacts
    (h : (graphOperations platform).Reachable GraphTables.empty tables) :
    GraphsSound tables ∧ ArtifactsSound platform tables := by
  have hstep : ∀ tables operation, (GraphsSound tables ∧ ArtifactsSound platform tables) →
      GraphsSound ((graphOperations platform).next tables operation) ∧
        ArtifactsSound platform ((graphOperations platform).next tables operation) := by
    intro tables operation hsound
    refine ⟨graphOperations_sound tables operation hsound.1, ?_⟩
    exact commit_preserves hsound.2 fun _ _ hok =>
      graphBody_artifactsSound hsound.1.rows hsound.2 hok
  exact h.invariant hstep ⟨graphsSound_empty, artifactsSound_empty⟩

/-! ### Evidence -/

/-- The one artifact of a node, as it is read, and its accepting report. -/
structure GraphEvidence (platform : Platform) (tables : GraphTables) (tenant : String)
    (key : String × String) (artifact : GraphArtifactRow) (stored : StoredArtifact platform)
    (report : Json) : Prop where
  only : tables.artifacts.select (fun row => decide (row.node = key)) = [artifact]
  owned : artifact.tenant = tenant
  flagged : artifact.accepted = 1
  read : artifact.stored platform = .ok stored
  reported : ∃ text, artifact.validationJson = some text ∧ loads text = some report
  accepts : report.get? "decision" = some (.str "accepted")

/-- The row of a node, as its tenant finds it. -/
theorem fetchone_of_row {row : NodeRow} (hrow : (tables.view (graphId, nodeId)).row = some row)
    (howned : row.tenant = tenant) :
    tables.nodes.fetchone (nodeOf tenant graphId nodeId) = some row := by
  have hfixed : ∀ row : NodeRow, nodeOf tenant graphId nodeId row = true →
      row.key = (graphId, nodeId) := fun row hrow => (nodeOf_iff.mp hrow).2
  rw [Table.fetchone_of_key hfixed, Option.filter_eq_some_iff]
  exact ⟨hrow, nodeOf_iff.mpr ⟨howned, Table.find_key hrow⟩⟩

/-- A succeeded node has its evidence. -/
theorem evidence_of_succeeded (hnodes : AllNodesValid tables)
    (hsound : ArtifactsSound platform tables) {row : NodeRow}
    (hrow : (tables.view (graphId, nodeId)).row = some row) (hstate : row.state = .succeeded) :
    ∃ artifact stored report,
      GraphEvidence platform tables row.tenant (graphId, nodeId) artifact stored report ∧
        tables.resultOf row = some artifact := by
  have hstage := (hnodes (graphId, nodeId)).stage_of hrow hstate
  obtain ⟨-, artifact, hproduced, hflagged, text, htext, report, hreport, hdecision⟩ := hstage
  have hmem : artifact ∈ (tables.view (graphId, nodeId)).artifacts := by
    rw [hproduced.only]
    exact List.mem_singleton_self artifact
  obtain ⟨hfind, hnode⟩ := mem_artifacts_iff.mp hmem
  have hrows := Table.mem_of_find hfind
  obtain ⟨stored, hstored, -⟩ := (hsound.intact artifact hrows).stored
  obtain ⟨owner, howner, howned⟩ := hsound.owned artifact hrows
  rw [hnode, hrow, Option.some.injEq] at howner
  refine ⟨artifact, stored, report, ⟨hproduced.only, ?_, hflagged, hstored, ⟨text, htext, hreport⟩,
    hdecision⟩, ?_⟩
  · rw [← howned, howner]
  · have hnamed : row.resultArtifactId = some artifact.id := hproduced.named
    unfold GraphTables.resultOf
    rw [hnamed]
    exact hfind

/-! ### What a claimed node reads -/

/-- A node of the graph has succeeded, with its evidence. -/
def HasEvidence (platform : Platform) (tables : GraphTables) (tenant graphId : String)
    (state : GraphState) (nodeId : String) : Prop :=
  statesOf state.nodeStates nodeId = some .succeeded ∧
    ∃ row artifact stored report, (tables.view (graphId, nodeId)).row = some row ∧
      row.tenant = tenant ∧ tables.resultOf row = some artifact ∧
      GraphEvidence platform tables tenant (graphId, nodeId) artifact stored report

theorem hasEvidence (hnodes : AllNodesValid tables) (hsound : ArtifactsSound platform tables)
    {state : GraphState} (hlisted : (tables.graphView tenant graphId).states = state.nodeStates)
    (hstate : statesOf state.nodeStates nodeId = some .succeeded) :
    HasEvidence platform tables tenant graphId state nodeId := by
  have hmem : (nodeId, NodeState.succeeded) ∈ (tables.graphView tenant graphId).states := by
    rw [hlisted]
    exact state.statesOf_iff.mp hstate
  obtain ⟨row, hrow, rfl, hsucceeded⟩ := row_of_listed hmem
  obtain ⟨artifact, stored, report, hevidence, hresult⟩ :=
    evidence_of_succeeded hnodes hsound hrow hsucceeded
  exact ⟨hstate, row, artifact, stored, report, hrow, rfl, hresult, hevidence⟩

theorem dependencyArtifacts_total {state : GraphState} {dependencies : List String}
    (h : ∀ dependency ∈ dependencies,
      HasEvidence platform tables tenant graphId state dependency) :
    ∃ artifacts, dependencyArtifacts platform tenant graphId state dependencies tables =
        .ok (artifacts, tables) ∧
      artifacts.map Prod.fst = dependencies ∧
      ∀ pair ∈ artifacts, ∃ artifact report,
        GraphEvidence platform tables tenant (graphId, pair.1) artifact pair.2 report := by
  induction dependencies with
  | nil => exact ⟨[], rfl, rfl, fun _ hpair => absurd hpair List.not_mem_nil⟩
  | cons dependency rest ih =>
      obtain ⟨hstate, row, artifact, stored, report, hrow, howned, hresult, hevidence⟩ :=
        h dependency (List.mem_cons_self ..)
      obtain ⟨others, hothers, hkeys, hall⟩ := ih fun other hother =>
        h other (List.mem_cons_of_mem _ hother)
      refine ⟨(dependency, stored) :: others, ?_, by rw [List.map_cons, hkeys], ?_⟩
      · unfold dependencyArtifacts
        simp only [lift_bind_ok, require_bind_ok, query_bind_ok]
        refine ⟨.succeeded, state.stateOf_ok.mpr hstate, rfl, ?_⟩
        rw [fetchone_of_row hrow howned, Option.bind_some, hresult]
        simp only [Option.filter_some, hevidence.flagged, decide_true, if_true, lift_bind_ok]
        exact ⟨stored, hevidence.read, bind_ok.mpr ⟨others, tables, hothers, rfl⟩⟩
      · intro pair hpair
        rcases List.mem_cons.mp hpair with rfl | hpair
        · exact ⟨artifact, report, hevidence⟩
        · exact hall pair hpair

/-- **Claimed nodes.**  A ready or running node reads exactly one accepted artifact
of each direct dependency. -/
theorem acceptedDependencyArtifacts_total (hnodes : AllNodesValid tables)
    (hgraphs : GraphsSound tables) (hsound : ArtifactsSound platform tables) {row : NodeRow}
    (hrow : (tables.view (graphId, nodeId)).row = some row)
    (hstate : row.state = .ready ∨ row.state = .running) :
    ∃ state node artifacts,
      getGraphState row.tenant graphId tables = .ok (some state, tables) ∧
      node ∈ state.graph.nodes ∧ node.nodeId = nodeId ∧
      acceptedDependencyArtifacts platform row.tenant graphId nodeId tables =
        .ok (artifacts, tables) ∧
      artifacts.map Prod.fst = node.dependsOn ∧
      ∀ pair ∈ artifacts, ∃ artifact report,
        GraphEvidence platform tables row.tenant (graphId, pair.1) artifact pair.2 report := by
  obtain ⟨graphRow, hgraph⟩ := Option.isSome_iff_exists.mp
    (hgraphs.rows.owned (graphId, nodeId) row hrow)
  obtain ⟨state, hstored, hlisted, -⟩ := (hgraphs.valid row.tenant graphId).stored graphRow hgraph
  have hget := getGraphState_valid hgraph hstored hlisted
  have hown : statesOf state.nodeStates nodeId = some row.state := getGraphState_row hget hrow rfl
  -- the node is one of the graph
  have hmem : nodeId ∈ state.graph.nodes.map GraphNode.nodeId :=
    (state.statesOf_isSome nodeId).mp ⟨row.state, hown⟩
  obtain ⟨node, hnode, rfl⟩ := List.mem_map.mp hmem
  have hfind : state.graph.nodes.find? (fun other => decide (other.nodeId = node.nodeId)) =
      some node := by
    cases hfound : state.graph.nodes.find? fun other => decide (other.nodeId = node.nodeId) with
    | none =>
        have hnone := List.find?_eq_none.mp hfound node hnode
        simp at hnone
    | some other =>
        have hother := List.find?_some hfound
        rw [decide_eq_true_eq] at hother
        rw [state.graph.unique (List.mem_of_find?_eq_some hfound) hnode hother]
  -- a scheduled node has only succeeded dependencies
  obtain ⟨own, hchecked⟩ := state.node hnode
  obtain rfl : row.state = own := Option.some.inj (hown.symm.trans hchecked.own)
  have hscheduled : row.state.isScheduled = true := by
    rcases hstate with hready | hrunning
    · rw [hready]
      rfl
    · rw [hrunning]
      rfl
  obtain ⟨artifacts, hread, hkeys, hevidence⟩ := dependencyArtifacts_total fun dependency hmem =>
    @hasEvidence platform tables row.tenant graphId dependency hnodes hsound state hlisted
      (hchecked.scheduled hscheduled dependency hmem)
  refine ⟨state, node, artifacts, hget, hnode, rfl, ?_, hkeys, hevidence⟩
  unfold acceptedDependencyArtifacts
  rw [bind_ok]
  refine ⟨some state, tables, hget, ?_⟩
  simp only [hfind]
  exact hread

/-! ### What a finished graph publishes -/

theorem mem_sinks {graph : WorkflowGraph} :
    nodeId ∈ graph.sinks ↔ nodeId ∈ graph.nodes.map GraphNode.nodeId ∧
      ∀ other, ¬ graph.DependsOn other nodeId := by
  unfold WorkflowGraph.sinks
  simp only [List.mem_map, List.mem_filter, List.mem_flatMap, decide_eq_true_eq, not_exists,
    not_and]
  constructor
  · rintro ⟨node, ⟨hnode, hfree⟩, rfl⟩
    refine ⟨⟨node, hnode, rfl⟩, ?_⟩
    rintro other ⟨above, habove, -, hdepends⟩
    exact hfree above habove hdepends
  · rintro ⟨⟨node, hnode, rfl⟩, hfree⟩
    refine ⟨node, ⟨hnode, fun above habove hdepends => ?_⟩, rfl⟩
    exact hfree above.nodeId ⟨above, habove, rfl, hdepends⟩

/-- Every node of the graph has succeeded. -/
def GraphState.Succeeded (state : GraphState) : Prop :=
  ∀ pair ∈ state.nodeStates, pair.2 = .succeeded

/-- A graph succeeds with its sinks. -/
theorem GraphState.succeeded_of_sinks {state : GraphState}
    (h : ∀ nodeId ∈ state.graph.sinks, statesOf state.nodeStates nodeId = some .succeeded) :
    state.Succeeded := by
  obtain ⟨hnodup, hknown, rank, hrank⟩ := state.graph.accepted
  have hfalls : ∀ nodeId other, state.graph.DependsOn nodeId other → rank other < rank nodeId := by
    rintro nodeId other ⟨node, hnode, rfl, hother⟩
    apply hrank node.nodeId (List.mem_map_of_mem hnode) other
    · rw [dependenciesOf_mem hnodup hnode]
      exact hother
    · exact hknown node hnode other hother
  have hall : ∀ nodeId ∈ state.graph.nodes.map GraphNode.nodeId,
      statesOf state.nodeStates nodeId = some .succeeded := by
    refine @holds_of_sinks String state.graph.DependsOn _ rank hfalls
      (fun nodeId => statesOf state.nodeStates nodeId = some .succeeded) ?_ ?_
    · intro other hother hfree
      apply h other
      refine mem_sinks.mpr ⟨hother, ?_⟩
      rintro nodeId ⟨node, hnode, rfl, hdepends⟩
      exact hfree node.nodeId (List.mem_map_of_mem hnode) ⟨node, hnode, rfl, hdepends⟩
    · -- what depends on a node succeeded only after it
      rintro nodeId other ⟨node, hnode, rfl, hother⟩ hsucceeded
      obtain ⟨own, hchecked⟩ := state.node hnode
      obtain rfl : NodeState.succeeded = own := Option.some.inj (hsucceeded.symm.trans hchecked.own)
      exact hchecked.scheduled rfl other hother
  rintro ⟨nodeId, own⟩ hpair
  have hmem : nodeId ∈ state.graph.nodes.map GraphNode.nodeId := by
    rw [← state.keys]
    exact List.mem_map_of_mem hpair
  have hown := state.statesOf_iff.mpr hpair
  exact (Option.some.inj ((hall nodeId hmem).symm.trans hown)).symm

theorem GraphState.Succeeded.statesOf {state : GraphState} (h : state.Succeeded)
    (hmem : nodeId ∈ state.graph.nodes.map GraphNode.nodeId) :
    Workflows.statesOf state.nodeStates nodeId = some .succeeded := by
  obtain ⟨own, hown⟩ := (state.statesOf_isSome nodeId).mpr hmem
  have hsucceeded : own = .succeeded := h (nodeId, own) (state.statesOf_iff.mp hown)
  rw [hown, hsucceeded]

theorem GraphState.Succeeded.terminal {state : GraphState} (h : state.Succeeded) :
    state.terminal = true := by
  unfold GraphState.terminal
  rw [List.all_eq_true]
  intro pair hpair
  rw [h pair hpair]
  rfl

/-- The test of the sinks answers, and finds exactly a sink that has not succeeded. -/
theorem anyUnaccepted_total {state : GraphState} {nodeIds : List String}
    (h : ∀ nodeId ∈ nodeIds, nodeId ∈ state.graph.nodes.map GraphNode.nodeId) :
    ∃ found, anyUnaccepted state nodeIds = .ok found ∧
      (found = false ↔
        ∀ nodeId ∈ nodeIds, statesOf state.nodeStates nodeId = some .succeeded) := by
  induction nodeIds with
  | nil => exact ⟨false, rfl, by simp⟩
  | cons nodeId rest ih =>
      obtain ⟨own, hown⟩ := (state.statesOf_isSome nodeId).mpr (h nodeId (List.mem_cons_self ..))
      obtain ⟨found, hrest, hiff⟩ := ih fun other hother => h other (List.mem_cons_of_mem _ hother)
      unfold anyUnaccepted
      rw [state.stateOf_ok.mpr hown]
      by_cases hsucceeded : own = .succeeded
      · subst hsucceeded
        refine ⟨found, hrest, ?_⟩
        rw [hiff, List.forall_mem_cons]
        simp only [hown, true_and]
      · refine ⟨true, if_pos hsucceeded, ?_⟩
        simp only [Bool.true_eq_false, false_iff]
        intro hall
        have hown' := hall nodeId (List.mem_cons_self ..)
        rw [hown, Option.some.injEq] at hown'
        exact hsucceeded hown'

theorem sinkResults_total {state : GraphState} {nodeIds : List String}
    (h : ∀ nodeId ∈ nodeIds, HasEvidence platform tables tenant graphId state nodeId) :
    ∃ results, sinkResults platform tenant graphId nodeIds tables = .ok (results, tables) ∧
      results.map Prod.fst = nodeIds ∧
      ∀ result ∈ results, ∃ artifact,
        GraphEvidence platform tables tenant (graphId, result.1) artifact result.2.1 result.2.2 := by
  induction nodeIds with
  | nil => exact ⟨[], rfl, rfl, fun _ hresult => absurd hresult List.not_mem_nil⟩
  | cons nodeId rest ih =>
      obtain ⟨-, row, artifact, stored, report, -, -, -, hevidence⟩ :=
        h nodeId (List.mem_cons_self ..)
      obtain ⟨others, hothers, hkeys, hall⟩ := ih fun other hother =>
        h other (List.mem_cons_of_mem _ hother)
      obtain ⟨text, htext, hreport⟩ := hevidence.reported
      have hmem : artifact ∈ tables.artifacts.select fun row =>
          decide (row.node = (graphId, nodeId)) := by
        rw [hevidence.only]
        exact List.mem_singleton_self artifact
      obtain ⟨hrows, hnode⟩ := Table.mem_select.mp hmem
      obtain ⟨hgraph, hnode⟩ := Prod.mk.inj (of_decide_eq_true hnode)
      -- the query finds this artifact: there is no other one of the node
      have hfound : tables.artifacts.fetchone (fun artifact =>
          decide (artifact.tenant = tenant) && decide (artifact.graphId = graphId) &&
            decide (artifact.nodeId = nodeId) && decide (artifact.accepted = 1)) =
          some artifact := by
        apply Table.fetchone_of_select hevidence.only
        · simp only [hevidence.owned, hgraph, hnode, hevidence.flagged, decide_true,
            Bool.and_self]
        · intro other hother
          simp only [Bool.and_eq_true, decide_eq_true_eq] at hother
          exact decide_eq_true (Prod.ext hother.1.1.2 hother.1.2)
      refine ⟨(nodeId, stored, report) :: others, ?_, by rw [List.map_cons, hkeys], ?_⟩
      · unfold sinkResults
        simp only [query_bind_ok, hfound, Option.bind_some, htext, Option.map_some, lift_bind_ok]
        refine ⟨stored, hevidence.read, report, ?_, bind_ok.mpr ⟨others, tables, hothers, rfl⟩⟩
        unfold loadsJson
        rw [hreport]
      · intro result hresult
        rcases List.mem_cons.mp hresult with rfl | hresult
        · exact ⟨artifact, hevidence⟩
        · exact hall result hresult

theorem getGraphState_absent (hrow : (tables.graphView tenant graphId).row = none) :
    getGraphState tenant graphId tables = .ok (none, tables) := by
  have hrows : tables.graphs.fetchone (fun row =>
      decide (row.tenant = tenant) && decide (row.id = graphId)) = none := hrow
  unfold getGraphState
  simp only [query_bind_ok, hrows, pure_ok, and_self]

/-- The outcome of `accepted_graph_results` in a reachable store. -/
inductive GraphOutcome (platform : Platform) (tables : GraphTables) (tenant graphId : String) :
    Except PyError (List (GraphResult platform) × GraphTables) → Prop
  | missing (hget : getGraphState tenant graphId tables = .ok (none, tables)) :
      GraphOutcome platform tables tenant graphId
        (.error (.workflowConflict "Workflow graph not found"))
  | unaccepted {state : GraphState}
      (hget : getGraphState tenant graphId tables = .ok (some state, tables))
      (hopen : ¬ state.Succeeded) :
      GraphOutcome platform tables tenant graphId
        (.error (.workflowConflict "Workflow graph has no accepted result"))
  | published {state : GraphState} {results : List (GraphResult platform)}
      (hget : getGraphState tenant graphId tables = .ok (some state, tables))
      (hsucceeded : state.Succeeded) (hkeys : results.map Prod.fst = state.graph.sinks)
      (hevidence : ∀ result ∈ results, ∃ artifact,
        GraphEvidence platform tables tenant (graphId, result.1) artifact result.2.1 result.2.2) :
      GraphOutcome platform tables tenant graphId (.ok (results, tables))

theorem acceptedGraphResults_outcome (hnodes : AllNodesValid tables)
    (hgraphs : GraphsSound tables) (hsound : ArtifactsSound platform tables)
    (tenant graphId : String) :
    GraphOutcome platform tables tenant graphId
      (acceptedGraphResults platform tenant graphId tables) := by
  unfold acceptedGraphResults
  cases hrow : (tables.graphView tenant graphId).row with
  | none =>
      rw [bind_of_ok (getGraphState_absent hrow)]
      exact GraphOutcome.missing (getGraphState_absent hrow)
  | some row =>
      obtain ⟨state, hstored, hlisted, -⟩ := (hgraphs.valid tenant graphId).stored row hrow
      have hget := getGraphState_valid hrow hstored hlisted
      rw [bind_of_ok hget]
      have hsinks : ∀ nodeId ∈ state.graph.sinks,
          nodeId ∈ state.graph.nodes.map GraphNode.nodeId := fun nodeId hmem =>
        (mem_sinks.mp hmem).1
      obtain ⟨found, hfound, hiff⟩ := anyUnaccepted_total hsinks
      have htest : (if (!state.terminal) = true then pure true
          else anyUnaccepted state state.graph.sinks) =
            (Except.ok (!state.terminal || found) : Except PyError Bool) := by
        cases state.terminal with
        | true => exact hfound
        | false => rfl
      simp only [htest]
      show GraphOutcome platform tables tenant graphId
        ((require (!(!state.terminal || found)) _ >>= fun _ => _) tables)
      by_cases hsucceeded : state.Succeeded
      · have hnone : found = false := hiff.mpr fun nodeId hmem =>
          hsucceeded.statesOf (hsinks nodeId hmem)
        obtain ⟨results, hresults, hkeys, hevidence⟩ := @sinkResults_total platform tables tenant
          graphId state state.graph.sinks fun nodeId hmem =>
            hasEvidence hnodes hsound hlisted (hsucceeded.statesOf (hsinks nodeId hmem))
        rw [hnone, hsucceeded.terminal]
        show GraphOutcome platform tables tenant graphId
          (sinkResults platform tenant graphId state.graph.sinks tables)
        rw [hresults]
        exact GraphOutcome.published hget hsucceeded hkeys hevidence
      · have hsome : (!state.terminal || found) = true := by
          by_contra hnot
          rw [Bool.not_eq_true, Bool.or_eq_false_iff] at hnot
          exact hsucceeded (GraphState.succeeded_of_sinks (hiff.mp hnot.2))
        rw [hsome]
        exact GraphOutcome.unaccepted hget hsucceeded

/-- **Results.**  In every store that a run from empty tables reaches: a ready or
running node reads, in the order of its dependencies, exactly one artifact of
each, the only one of that node, with an accepting report; and the results of a
graph are published exactly when all of its nodes have succeeded, one for each
node that nothing depends on, with evidence that is never missing. -/
theorem claimed_inputs_and_results (platform : Platform) (calls : List GraphCall) :
    let tables := (graphStore platform).after GraphTables.empty calls
    (∀ row ∈ tables.nodes.rows, (row.state = .ready ∨ row.state = .running) →
      ∃ state node artifacts,
        getGraphState row.tenant row.graphId tables = .ok (some state, tables) ∧
        node ∈ state.graph.nodes ∧ node.nodeId = row.nodeId ∧
        acceptedDependencyArtifacts platform row.tenant row.graphId row.nodeId tables =
          .ok (artifacts, tables) ∧
        artifacts.map Prod.fst = node.dependsOn ∧
        ∀ pair ∈ artifacts, ∃ artifact report,
          GraphEvidence platform tables row.tenant (row.graphId, pair.1) artifact pair.2 report) ∧
    ∀ tenant graphId,
      ((∃ results, acceptedGraphResults platform tenant graphId tables = .ok (results, tables)) ↔
        ∃ state, getGraphState tenant graphId tables = .ok (some state, tables) ∧
          ∀ pair ∈ state.nodeStates, pair.2 = .succeeded) ∧
      (∀ results final,
        acceptedGraphResults platform tenant graphId tables = .ok (results, final) →
        ∃ state, getGraphState tenant graphId tables = .ok (some state, tables) ∧
          results.map Prod.fst = state.graph.sinks ∧
          (∀ nodeId, nodeId ∈ results.map Prod.fst ↔
            nodeId ∈ state.graph.nodes.map GraphNode.nodeId ∧
              ∀ other, ¬ state.graph.DependsOn other nodeId) ∧
          (results.map Prod.fst).Nodup ∧
          ∀ result ∈ results, ∃ artifact, GraphEvidence platform tables tenant
            (graphId, result.1) artifact result.2.1 result.2.2) ∧
      acceptedGraphResults platform tenant graphId tables ≠
        .error (.workflowConflict "Accepted graph result evidence is missing") := by
  intro tables
  have hnodes : AllNodesValid tables := graphReachable_valid calls
  have hreach : (graphOperations platform).Reachable GraphTables.empty tables :=
    ⟨calls.map GraphOperation.call, (graphStore_after GraphTables.empty calls).symm⟩
  obtain ⟨hgraphs, hsound⟩ := graphOperations_reachable_artifacts hreach
  refine ⟨fun row hrow hstate => ?_, fun tenant graphId => ?_⟩
  · have hview : (tables.view (row.graphId, row.nodeId)).row = some row := Table.find_of_mem hrow
    exact acceptedDependencyArtifacts_total hnodes hgraphs hsound hview hstate
  · have houtcome := acceptedGraphResults_outcome hnodes hgraphs hsound tenant graphId
    generalize acceptedGraphResults platform tenant graphId tables = outcome at houtcome ⊢
    cases houtcome with
    | missing hget =>
        refine ⟨⟨?_, ?_⟩, ?_, ?_⟩
        · rintro ⟨results, h⟩
          cases h
        · rintro ⟨state, hstate, -⟩
          rw [hget] at hstate
          cases hstate
        · intro results final h
          cases h
        · intro h
          simp at h
    | @unaccepted state hget hopen =>
        refine ⟨⟨?_, ?_⟩, ?_, ?_⟩
        · rintro ⟨results, h⟩
          cases h
        · rintro ⟨other, hother, hall⟩
          rw [hget] at hother
          obtain rfl := Option.some.inj (Prod.mk.inj (Except.ok.inj hother)).1
          exact absurd hall hopen
        · intro results final h
          cases h
        · intro h
          simp at h
    | @published state results hget hsucceeded hkeys hevidence =>
        refine ⟨⟨fun _ => ⟨state, hget, hsucceeded⟩, fun _ => ⟨results, rfl⟩⟩, ?_, ?_⟩
        · intro found final h
          obtain ⟨rfl, -⟩ := Prod.mk.inj (Except.ok.inj h)
          refine ⟨state, hget, hkeys, fun nodeId => ?_, ?_, hevidence⟩
          · rw [hkeys]
            exact mem_sinks
          · rw [hkeys]
            exact state.graph.accepted.nodup.sublist (List.filter_sublist.map _)
        · intro h
          cases h

end Artifacts

end Workflows
end Ryuk
