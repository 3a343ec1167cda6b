import Ryuk.Workflows.GraphStore
import Mathlib.Logic.Relation

/-!
# The life of one graph node

What the graph store is for, seen from one node: a view collects its row and its
artifacts, and `NodeStep` lists the ways the view can change.  Only a claim makes
a node run; all other steps are quiet.  `NodeValid` says what a view looks like
in each state.  That every call of the store is made of such steps is shown
against the tables.
-/

namespace Ryuk
namespace Workflows

open Foundation Foundation.Json Foundation.Datetime Relation

/-- The node an artifact belongs to. -/
abbrev GraphArtifactRow.node (row : GraphArtifactRow) : String × String := (row.graphId, row.nodeId)

/-- What the tables hold about one node. -/
structure NodeView where
  row : Option NodeRow
  artifacts : List GraphArtifactRow

/-- The view of one node. -/
def GraphTables.view (tables : GraphTables) (key : String × String) : NodeView where
  row := tables.nodes.find key
  artifacts := tables.artifacts.select fun row => decide (row.node = key)

/-! ### Rows after a transition -/

def NodeRow.moved (row : NodeRow) (state : NodeState) : NodeRow := { row with state := state }

def NodeRow.claimed (row : NodeRow) (owner : String) (expiry : Instant) : NodeRow :=
  { row with
    state := .running
    fence := row.fence + 1
    owner := some owner
    leaseUntil := some expiry.isoformat }

def NodeRow.completed (row : NodeRow) (succeeded : Bool) (artifactId : String) : NodeRow :=
  { row with
    state := nodeResultState succeeded
    owner := none
    leaseUntil := none
    resultArtifactId := some artifactId }

/-- A row that was fenced off in a state. -/
def NodeRow.fenced (row : NodeRow) (state : NodeState) : NodeRow :=
  { row with state := state, fence := row.fence + 1, owner := none, leaseUntil := none }

/-- An artifact with its decision. -/
def GraphArtifactRow.decided (artifact : GraphArtifactRow) (accepted : Bool)
    (reportJson : String) : GraphArtifactRow :=
  { artifact with accepted := intOfBool accepted, validationJson := some reportJson }

/-- The state a decision leads to. -/
def decidedState (accepted : Bool) : NodeState := if accepted then .succeeded else .rejected

/-- A saved report with this decision. -/
def ReportSays (reportJson : String) (accepted : Bool) : Prop :=
  ∃ report, loads reportJson = some report ∧
    report.get? "decision" = some (.str (if accepted then "accepted" else "rejected"))

/-! ### Transitions -/

section Transitions

variable (key : String × String)

/-- A transition of a node that does not make it run. -/
inductive QuietStep : NodeView → NodeView → Prop
  | create {view : NodeView} (row : NodeRow) (habsent : view.row = none) (hkey : row.key = key)
      (hstate : row.state = .blocked ∨ row.state = .ready) (hfence : row.fence = 0)
      (howner : row.owner = none) (hlease : row.leaseUntil = none)
      (hartifact : row.resultArtifactId = none) :
      QuietStep view { view with row := some row }
  | release {view : NodeView} {row : NodeRow} (state : NodeState) (hrow : view.row = some row)
      (hblocked : row.state = .blocked) (hstate : state = .ready ∨ state = .skipped) :
      QuietStep view { view with row := some (row.moved state) }
  | complete {view : NodeView} {row : NodeRow} (succeeded : Bool) (artifact : GraphArtifactRow)
      (hrow : view.row = some row) (hstate : row.state = .running) (hnode : artifact.node = key)
      (haccepted : artifact.accepted = 0) (hreport : artifact.validationJson = none) :
      QuietStep view
        ⟨some (row.completed succeeded artifact.id), view.artifacts ++ [artifact]⟩
  | validate {view : NodeView} {row : NodeRow} {artifact : GraphArtifactRow} (accepted : Bool)
      (reportJson : String) (hrow : view.row = some row) (hstate : row.state = .awaitingValidation)
      (hnamed : row.resultArtifactId = some artifact.id) (hmem : artifact ∈ view.artifacts)
      (hreport : ReportSays reportJson accepted) :
      QuietStep view
        ⟨some (row.moved (decidedState accepted)), view.artifacts.map fun found =>
          if found.id = artifact.id then found.decided accepted reportJson else found⟩
  | cancel {view : NodeView} {row : NodeRow} (hrow : view.row = some row)
      (hstate : row.state.isCancellable = true) :
      QuietStep view { view with row := some (row.fenced .cancelled) }
  | recover {view : NodeView} {row : NodeRow} (hrow : view.row = some row)
      (hstate : row.state = .running) :
      QuietStep view { view with row := some (row.fenced .uncertain) }

/-- A transition of a node. -/
inductive NodeStep : NodeView → NodeView → Prop
  | quiet {view later : NodeView} (hstep : QuietStep key view later) : NodeStep view later
  | claim {view : NodeView} {row : NodeRow} (owner : String) (expiry : Instant)
      (hrow : view.row = some row) (hstate : row.state = .ready) :
      NodeStep view { view with row := some (row.claimed owner expiry) }

end Transitions

/-! ### What each state looks like -/

/-- Nobody holds the node. -/
def NodeRow.Unowned (row : NodeRow) : Prop := row.owner = none ∧ row.leaseUntil = none

/-- No result yet. -/
def NodeView.Bare (view : NodeView) (row : NodeRow) : Prop :=
  view.artifacts = [] ∧ row.resultArtifactId = none

/-- The one artifact of a node that produced a result. -/
structure Produced (view : NodeView) (row : NodeRow) (artifact : GraphArtifactRow) : Prop where
  only : view.artifacts = [artifact]
  named : row.resultArtifactId = some artifact.id

/-- An artifact without a decision. -/
def GraphArtifactRow.Open (artifact : GraphArtifactRow) : Prop :=
  artifact.accepted = 0 ∧ artifact.validationJson = none

/-- An artifact with a decision, and the report that says so. -/
def GraphArtifactRow.Says (artifact : GraphArtifactRow) (accepted : Bool) : Prop :=
  artifact.accepted = intOfBool accepted ∧
    ∃ reportJson, artifact.validationJson = some reportJson ∧ ReportSays reportJson accepted

/-- What a view looks like in the state of its row. -/
def NodeStage (view : NodeView) (row : NodeRow) : Prop :=
  match row.state with
  | .blocked | .ready => row.fence = 0 ∧ row.Unowned ∧ view.Bare row
  | .running => row.fence = 1 ∧ row.owner.isSome = true ∧
      (∃ expiry : Instant, row.leaseUntil = some expiry.isoformat) ∧ view.Bare row
  | .skipped | .uncertain => row.Unowned ∧ view.Bare row
  | .awaitingValidation | .failed =>
      row.Unowned ∧ ∃ artifact, Produced view row artifact ∧ artifact.Open
  | .succeeded => row.Unowned ∧ ∃ artifact, Produced view row artifact ∧ artifact.Says true
  | .rejected => row.Unowned ∧ ∃ artifact, Produced view row artifact ∧ artifact.Says false
  | .cancelled => row.Unowned ∧
      (view.Bare row ∨ ∃ artifact, Produced view row artifact ∧ artifact.Open)

/-- The invariant of a view. -/
structure NodeValid (key : String × String) (view : NodeView) : Prop where
  absent : view.row = none → view.artifacts = []
  nodes : ∀ artifact ∈ view.artifacts, artifact.node = key
  stage : ∀ row ∈ view.row, NodeStage view row

/-! ### Every transition keeps the invariant -/

variable {key : String × String} {view later : NodeView} {row : NodeRow}

theorem NodeValid.of_absent : NodeValid key ⟨none, []⟩ where
  absent _ := rfl
  nodes artifact h := by cases h
  stage row h := by cases h

theorem NodeValid.of_row (hrow : view.row = some row)
    (hnodes : ∀ artifact ∈ view.artifacts, artifact.node = key) (hstage : NodeStage view row) :
    NodeValid key view where
  absent h := by rw [hrow] at h; cases h
  nodes := hnodes
  stage row' h := by
    rw [hrow, Option.mem_some_iff] at h
    exact h ▸ hstage

theorem NodeValid.stage_of (h : NodeValid key view) (hrow : view.row = some row)
    {state : NodeState} (hstate : row.state = state) :
    NodeStage view { row with state := state } := by
  subst hstate
  exact h.stage row hrow

/-- A decided artifact says what the report says. -/
theorem GraphArtifactRow.decided_says (artifact : GraphArtifactRow) {accepted : Bool}
    {reportJson : String} (hreport : ReportSays reportJson accepted) :
    (artifact.decided accepted reportJson).Says accepted :=
  ⟨rfl, reportJson, rfl, hreport⟩

/-- **Step lemma.**  Every quiet transition keeps the invariant. -/
theorem QuietStep.valid (hstep : QuietStep key view later) (h : NodeValid key view) :
    NodeValid key later := by
  cases hstep with
  | create row habsent hkey hstate hfence howner hlease hartifact =>
      refine NodeValid.of_row rfl h.nodes ?_
      unfold NodeStage
      rcases hstate with hstate | hstate
      · rw [hstate]
        exact ⟨hfence, ⟨howner, hlease⟩, h.absent habsent, hartifact⟩
      · rw [hstate]
        exact ⟨hfence, ⟨howner, hlease⟩, h.absent habsent, hartifact⟩
  | @release row state hrow hblocked hstate =>
      obtain ⟨hfence, hunowned, hbare⟩ := h.stage_of hrow hblocked
      refine NodeValid.of_row rfl h.nodes ?_
      rcases hstate with rfl | rfl
      · exact ⟨hfence, hunowned, hbare⟩
      · exact ⟨hunowned, hbare⟩
  | @complete row succeeded artifact hrow hstate hnode haccepted hreport =>
      obtain ⟨-, -, -, hbare⟩ := h.stage_of hrow hstate
      have hproduced : Produced
          ⟨some (row.completed succeeded artifact.id), view.artifacts ++ [artifact]⟩
          (row.completed succeeded artifact.id) artifact := by
        refine ⟨?_, rfl⟩
        rw [hbare.1]
        rfl
      refine NodeValid.of_row rfl (fun other hother => ?_) ?_
      · rw [hbare.1, List.nil_append, List.mem_singleton] at hother
        exact hother ▸ hnode
      · cases succeeded with
        | true => exact ⟨⟨rfl, rfl⟩, artifact, hproduced, haccepted, hreport⟩
        | false => exact ⟨⟨rfl, rfl⟩, artifact, hproduced, haccepted, hreport⟩
  | @validate row artifact accepted reportJson hrow hstate hnamed hmem hreport =>
      obtain ⟨hunowned, artifact', hproduced, -⟩ := h.stage_of hrow hstate
      obtain rfl : artifact = artifact' := by
        rw [hproduced.only, List.mem_singleton] at hmem
        exact hmem
      have honly : (view.artifacts.map fun found =>
          if found.id = artifact.id then found.decided accepted reportJson else found) =
          [artifact.decided accepted reportJson] := by
        rw [hproduced.only, List.map_singleton, if_pos rfl]
      refine NodeValid.of_row rfl (fun other hother => ?_) ?_
      · rw [honly, List.mem_singleton] at hother
        subst hother
        exact h.nodes artifact hmem
      · have hsays := artifact.decided_says hreport
        cases accepted with
        | true => exact ⟨hunowned, _, ⟨honly, hnamed⟩, hsays⟩
        | false => exact ⟨hunowned, _, ⟨honly, hnamed⟩, hsays⟩
  | @cancel row hrow hstate =>
      refine NodeValid.of_row rfl h.nodes ⟨⟨rfl, rfl⟩, ?_⟩
      -- a cancelled node keeps the artifact that awaited its validation
      cases hown : row.state with
      | ready => exact Or.inl (h.stage_of hrow hown).2.2
      | running => exact Or.inl (h.stage_of hrow hown).2.2.2
      | awaitingValidation =>
          obtain ⟨-, artifact, hproduced, hopen⟩ := h.stage_of hrow hown
          exact Or.inr ⟨artifact, ⟨hproduced.only, hproduced.named⟩, hopen⟩
      | blocked | succeeded | failed | rejected | cancelled | uncertain | skipped =>
          rw [hown] at hstate
          cases hstate
  | @recover row hrow hstate =>
      obtain ⟨-, -, -, hbare⟩ := h.stage_of hrow hstate
      exact NodeValid.of_row rfl h.nodes ⟨⟨rfl, rfl⟩, hbare⟩

/-- **Step lemma.**  Every transition keeps the invariant. -/
theorem NodeStep.valid (hstep : NodeStep key view later) (h : NodeValid key view) :
    NodeValid key later := by
  cases hstep with
  | quiet hstep => exact hstep.valid h
  | @claim row owner expiry hrow hstate =>
      obtain ⟨hfence, -, hbare⟩ := h.stage_of hrow hstate
      refine NodeValid.of_row rfl h.nodes ⟨?_, rfl, ⟨expiry, rfl⟩, hbare⟩
      have hzero : row.fence = 0 := hfence
      change row.fence + 1 = 1
      omega

/-! ### What a chain of transitions keeps -/

/-- A node that runs. -/
def NodeView.Running (view : NodeView) : Prop := ∃ row, view.row = some row ∧ row.state = .running

/-- A node that was claimed, skipped or ended. -/
def NodeView.Started (view : NodeView) : Prop :=
  ∃ row, view.row = some row ∧ row.state ≠ .blocked ∧ row.state ≠ .ready

/-- No quiet transition ends with a running node. -/
theorem QuietStep.not_running (hstep : QuietStep key view later) : ¬ later.Running := by
  rintro ⟨row', hrow', hrunning⟩
  cases hstep with
  | create row habsent hkey hstate hfence howner hlease hartifact =>
      obtain rfl := Option.some.inj hrow'
      rcases hstate with hstate | hstate
      · rw [hstate] at hrunning
        cases hrunning
      · rw [hstate] at hrunning
        cases hrunning
  | @release row state hrow hblocked hstate =>
      obtain rfl := Option.some.inj hrow'
      rcases hstate with rfl | rfl
      · cases hrunning
      · cases hrunning
  | @complete row succeeded artifact hrow hstate hnode haccepted hreport =>
      obtain rfl := Option.some.inj hrow'
      cases succeeded with
      | true => cases hrunning
      | false => cases hrunning
  | @validate row artifact accepted reportJson hrow hstate hnamed hmem hreport =>
      obtain rfl := Option.some.inj hrow'
      cases accepted with
      | true => cases hrunning
      | false => cases hrunning
  | cancel hrow hstate =>
      obtain rfl := Option.some.inj hrow'
      cases hrunning
  | recover hrow hstate =>
      obtain rfl := Option.some.inj hrow'
      cases hrunning

/-- No quiet transition makes a started node blocked or ready. -/
theorem QuietStep.started (hstep : QuietStep key view later) (h : view.Started) :
    later.Started := by
  obtain ⟨row, hrow, hblocked, hready⟩ := h
  cases hstep with
  | create row' habsent hkey hstate hfence howner hlease hartifact =>
      rw [hrow] at habsent
      cases habsent
  | @release row' state hrow' hblocked' hstate =>
      rw [hrow] at hrow'
      obtain rfl := Option.some.inj hrow'
      exact absurd hblocked' hblocked
  | @complete row' succeeded artifact hrow' hstate hnode haccepted hreport =>
      refine ⟨_, rfl, ?_, ?_⟩
      · cases succeeded <;> exact NodeState.noConfusion
      · cases succeeded <;> exact NodeState.noConfusion
  | @validate row' artifact accepted reportJson hrow' hstate hnamed hmem hreport =>
      refine ⟨_, rfl, ?_, ?_⟩
      · cases accepted <;> exact NodeState.noConfusion
      · cases accepted <;> exact NodeState.noConfusion
  | cancel hrow' hstate => exact ⟨_, rfl, NodeState.noConfusion, NodeState.noConfusion⟩
  | recover hrow' hstate => exact ⟨_, rfl, NodeState.noConfusion, NodeState.noConfusion⟩

theorem NodeStep.started (hstep : NodeStep key view later) (h : view.Started) :
    later.Started := by
  cases hstep with
  | quiet hstep => exact hstep.started h
  | claim owner expiry hrow hstate =>
      exact ⟨_, rfl, NodeState.noConfusion, NodeState.noConfusion⟩

/-- A quiet chain that ends with a running node did nothing. -/
theorem quiet_chain_of_running (hchain : ReflTransGen (QuietStep key) view later)
    (h : later.Running) : view = later := by
  rcases ReflTransGen.cases_tail hchain with hsame | ⟨middle, -, hstep⟩
  · exact hsame.symm
  · exact absurd h hstep.not_running

theorem quiet_chain_not_running (hchain : ReflTransGen (QuietStep key) view later)
    (h : ¬ view.Running) : ¬ later.Running := by
  intro hrunning
  rw [quiet_chain_of_running hchain hrunning] at h
  exact h hrunning

theorem node_chain_valid (hchain : ReflTransGen (NodeStep key) view later)
    (h : NodeValid key view) : NodeValid key later := by
  induction hchain with
  | refl => exact h
  | tail _ hstep ih => exact hstep.valid ih

theorem node_chain_started (hchain : ReflTransGen (NodeStep key) view later)
    (h : view.Started) : later.Started := by
  induction hchain with
  | refl => exact h
  | tail _ hstep ih => exact hstep.started ih

end Workflows
end Ryuk
