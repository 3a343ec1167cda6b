import Ryuk.Workflows.GraphRefinement

/-!
# Guarantees for graph nodes

Along every run of the graph store each node is claimed at most once, what its
row says about owner, lease and artifact fits its state, and only the claimed
execution completes it, in time and unless it was withdrawn.
-/

namespace Ryuk
namespace Workflows

open Foundation Foundation.Json Foundation.Datetime Foundation.Transaction Relation

variable {platform : Platform} {tables final : GraphTables} {key : String × String}
  {view : NodeView} {row : NodeRow}

/-! ### Calls and runs -/

/-- What a returning claim did. -/
def ClaimedBy (tables final : GraphTables) (call : GraphCall) (answer : GraphAnswer) : Prop :=
  ∃ tenant graphId nodeId owner leaseSeconds now fence row current expiry,
    call = .claimGraphNode tenant graphId nodeId owner leaseSeconds now ∧ answer = .fence fence ∧
    NodeClaim tenant owner leaseSeconds fence now tables final (graphId, nodeId) row current expiry

/-- **Refinement.**  A call that returns is a claim of one node or quiet. -/
theorem graphCall_ok {call : GraphCall} {answer : GraphAnswer} (hvalid : AllNodesValid tables)
    (h : call.body platform tables = .ok (answer, final)) :
    Quiet tables final ∨ ClaimedBy tables final call answer := by
  cases call with
  | createGraph tenant idempotencyKey graph budget binding now uuid4 =>
      obtain ⟨id, hcreate, -⟩ := map_ok.mp h
      exact Or.inl (createGraph_ok hcreate)
  | bindGraphBudget tenant graphId budget now =>
      obtain ⟨row, hbind, -⟩ := map_ok.mp h
      exact Or.inl (bindGraphBudget_ok hbind)
  | claimGraphNode tenant graphId nodeId owner leaseSeconds now =>
      obtain ⟨fence, hclaim, rfl⟩ := map_ok.mp h
      obtain ⟨row, current, expiry, hclaimed⟩ := claimGraphNode_ok hclaim
      exact Or.inr ⟨tenant, graphId, nodeId, owner, leaseSeconds, now, fence, row, current, expiry,
        rfl, rfl, hclaimed⟩
  | completeGraphNode tenant graphId nodeId owner fence result succeeded now uuid4 =>
      obtain ⟨ref, hcomplete, -⟩ := map_ok.mp h
      obtain ⟨row, artifact, hrow, -, hstate, -, -, -, hnode, haccepted, hreport, hmoves⟩ :=
        completeGraphNode_ok hcomplete
      exact Or.inl (hmoves.quiet
        (QuietStep.complete succeeded artifact hrow hstate hnode haccepted hreport))
  | validateGraphNode tenant graphId nodeId policy =>
      obtain ⟨report, hvalidate, -⟩ := map_ok.mp h
      rcases validateGraphNode_ok hvalid hvalidate with rfl | ⟨row, artifact, accepted, reportJson,
        hrow, -, hstate, hnamed, hmem, hreport, hmoves⟩
      · exact Or.inl (Quiet.refl _)
      · exact Or.inl (hmoves.quiet
          (QuietStep.validate accepted reportJson hrow hstate hnamed hmem hreport))
  | cancelGraph tenant graphId =>
      obtain ⟨state, hcancel, -⟩ := map_ok.mp h
      exact Or.inl (cancelGraph_ok hcancel).1
  | recoverGraphNodesStartup limit now =>
      obtain ⟨names, hrecover, -⟩ := map_ok.mp h
      exact Or.inl (recoverGraphNodesStartup_ok hrecover).1

/-- A call that returns ran its body. -/
theorem graphBody_of_answer {call : GraphCall} {answer : GraphAnswer}
    (h : (graphStore platform).answer tables call = .ok answer) :
    call.body platform tables = .ok (answer, (graphStore platform).next tables call) :=
  commit_ok (Prod.ext h rfl)

/-- One step of the store is a claim of one node or quiet. -/
theorem graphNext_ok (hvalid : AllNodesValid tables) (call : GraphCall) :
    Quiet tables ((graphStore platform).next tables call) ∨
      ∃ answer, (graphStore platform).answer tables call = .ok answer ∧
        ClaimedBy tables ((graphStore platform).next tables call) call answer := by
  rcases commit_cases (call.body platform) tables with ⟨answer, hanswer, hok⟩ | ⟨-, hsame⟩
  · rcases graphCall_ok hvalid hok with hquiet | hclaimed
    · exact Or.inl hquiet
    · exact Or.inr ⟨answer, hanswer, hclaimed⟩
  · refine Or.inl ?_
    change Quiet tables (commit (call.body platform) tables).2
    rw [hsame]
    exact Quiet.refl _

/-- One step of the store is a chain of transitions of every node. -/
theorem graphNext_chain (hvalid : AllNodesValid tables) (call : GraphCall)
    (key : String × String) :
    ReflTransGen (NodeStep key) (tables.view key)
      (((graphStore platform).next tables call).view key) := by
  rcases @graphNext_ok platform tables hvalid call with hquiet | ⟨answer, -, hclaimed⟩
  · exact ReflTransGen.mono (fun _ _ => NodeStep.quiet) _ _ (hquiet key)
  · obtain ⟨tenant, graphId, nodeId, owner, leaseSeconds, now, fence, row, current, expiry, -, -,
      hclaim⟩ := hclaimed
    by_cases hkey : key = (graphId, nodeId)
    · subst hkey
      rw [hclaim.self]
      exact ReflTransGen.single (NodeStep.claim owner expiry hclaim.found hclaim.ready)
    · rw [hclaim.others key hkey]

/-- **Step lemma** of the graph store. -/
theorem graphNext_valid (tables : GraphTables) (call : GraphCall) (h : AllNodesValid tables) :
    AllNodesValid ((graphStore platform).next tables call) :=
  fun key => node_chain_valid (graphNext_chain h call key) (h key)

theorem graphEmpty_valid : AllNodesValid GraphTables.empty := fun _ => NodeValid.of_absent

/-- **Run lemma.**  Every view of a reachable store is valid. -/
theorem graphReachable_valid (calls : List GraphCall) :
    AllNodesValid ((graphStore platform).after GraphTables.empty calls) :=
  Machine.after_invariant graphNext_valid graphEmpty_valid calls

/-! ### Claims -/

/-- A call that claims a node, and returns. -/
def claimsNode (platform : Platform) (key : String × String) (tables : GraphTables)
    (call : GraphCall) : Bool :=
  match call with
  | .claimGraphNode _ graphId nodeId _ _ _ =>
      decide ((graphId, nodeId) = key) && ((graphStore platform).answer tables call).isOk
  | _ => false

theorem claimsNode_started {call : GraphCall} (h : claimsNode platform key tables call = true) :
    (∃ row, (tables.view key).row = some row ∧ row.state = .ready) ∧
      (((graphStore platform).next tables call).view key).Started := by
  cases call with
  | claimGraphNode tenant graphId nodeId owner leaseSeconds now =>
      simp only [claimsNode, Bool.and_eq_true, decide_eq_true_eq] at h
      obtain ⟨rfl, hok⟩ := h
      obtain ⟨answer, hanswer⟩ := isOk_iff.mp hok
      obtain ⟨fence, hclaim, -⟩ := map_ok.mp (graphBody_of_answer hanswer)
      obtain ⟨row, current, expiry, hclaimed⟩ := claimGraphNode_ok hclaim
      refine ⟨⟨row, hclaimed.found, hclaimed.ready⟩, row.claimed owner expiry, ?_, ?_, ?_⟩
      · rw [hclaimed.self]
      · exact NodeState.noConfusion
      · exact NodeState.noConfusion
  | createGraph _ _ _ _ _ _ _ | bindGraphBudget _ _ _ _ | completeGraphNode _ _ _ _ _ _ _ _ _
  | validateGraphNode _ _ _ _ | cancelGraph _ _ | recoverGraphNodesStartup _ _ => cases h

theorem started_graphNext (h : AllNodesValid tables) (call : GraphCall)
    (hstarted : (tables.view key).Started) :
    (((graphStore platform).next tables call).view key).Started :=
  node_chain_started (graphNext_chain h call key) hstarted

/-- A node is claimed at most once in a run. -/
theorem claimsNode_le_one (key : String × String) (calls : List GraphCall) :
    (graphStore platform).count (claimsNode platform key) GraphTables.empty calls ≤ 1 := by
  have hspent : ∀ state call, AllNodesValid state → (state.view key).Started →
      (((graphStore platform).next state call).view key).Started :=
    fun _ call hvalid => started_graphNext hvalid call
  have hnone : ∀ state call, AllNodesValid state → (state.view key).Started →
      claimsNode platform key state call = false := by
    intro state call _ hstarted
    by_contra hclaims
    obtain ⟨⟨row, hrow, hready⟩, -⟩ := claimsNode_started (by simpa using hclaims)
    obtain ⟨row', hrow', -, hnot⟩ := hstarted
    rw [hrow, Option.some.injEq] at hrow'
    exact hnot (hrow' ▸ hready)
  have hevent : ∀ state call, AllNodesValid state → claimsNode platform key state call = true →
      (((graphStore platform).next state call).view key).Started :=
    fun _ _ _ hclaims => (claimsNode_started hclaims).2
  exact @Machine.count_le_one _ _ _ (graphStore platform) AllNodesValid
    (fun state => (state.view key).Started) (claimsNode platform key) graphNext_valid hspent hnone
    hevent GraphTables.empty graphEmpty_valid calls

/-! ### What the states say -/

theorem NodeValid.artifacts_length (h : NodeValid key view) : view.artifacts.length ≤ 1 := by
  cases hrow : view.row with
  | none =>
      rw [h.absent hrow]
      exact Nat.zero_le 1
  | some row =>
      have hstage := h.stage row hrow
      have hbare : view.Bare row → view.artifacts.length ≤ 1 := fun hbare => by
        rw [hbare.1]
        exact Nat.zero_le 1
      have hproduced : ∀ artifact, Produced view row artifact → view.artifacts.length ≤ 1 :=
        fun artifact hproduced => by
          rw [hproduced.only]
          exact Nat.le_refl 1
      unfold NodeStage at hstage
      cases hstate : row.state with
      | blocked | ready =>
          rw [hstate] at hstage
          exact hbare hstage.2.2
      | running =>
          rw [hstate] at hstage
          exact hbare hstage.2.2.2
      | skipped | uncertain =>
          rw [hstate] at hstage
          exact hbare hstage.2
      | awaitingValidation | failed | succeeded | rejected =>
          rw [hstate] at hstage
          obtain ⟨-, artifact, hone, -⟩ := hstage
          exact hproduced artifact hone
      | cancelled =>
          rw [hstate] at hstage
          rcases hstage.2 with hnone | ⟨artifact, hone, -⟩
          · exact hbare hnone
          · exact hproduced artifact hone

/-- A node that runs has an owner and a lease; any other has neither. -/
theorem NodeValid.held_iff (h : NodeValid key view) (hrow : view.row = some row) :
    (row.owner ≠ none ↔ row.state = .running) ∧ (row.leaseUntil ≠ none ↔ row.state = .running) := by
  have hstage := h.stage row hrow
  have hfree : row.Unowned → row.state ≠ .running →
      (row.owner ≠ none ↔ row.state = .running) ∧
        (row.leaseUntil ≠ none ↔ row.state = .running) := fun hunowned hnot =>
    ⟨⟨fun howner => absurd hunowned.1 howner, fun hrunning => absurd hrunning hnot⟩,
      ⟨fun hlease => absurd hunowned.2 hlease, fun hrunning => absurd hrunning hnot⟩⟩
  unfold NodeStage at hstage
  cases hstate : row.state with
  | running =>
      rw [hstate] at hstage
      obtain ⟨-, howner, ⟨expiry, hlease⟩, -⟩ := hstage
      refine ⟨⟨fun _ => rfl, fun _ hnone => ?_⟩, ⟨fun _ => rfl, fun _ hnone => ?_⟩⟩
      · rw [hnone] at howner
        cases howner
      · rw [hnone] at hlease
        cases hlease
  | blocked | ready =>
      rw [hstate] at hstage hfree
      exact hfree hstage.2.1 NodeState.noConfusion
  | skipped | uncertain | awaitingValidation | failed | succeeded | rejected | cancelled =>
      rw [hstate] at hstage hfree
      exact hfree hstage.1 NodeState.noConfusion

/-- A state in which a node has its result. -/
def NodeState.HasResult (state : NodeState) : Prop :=
  state = .awaitingValidation ∨ state = .succeeded ∨ state = .rejected ∨ state = .failed

theorem NodeValid.produced (h : NodeValid key view) (hrow : view.row = some row)
    (hresult : row.state.HasResult) : ∃ artifact, Produced view row artifact := by
  have hstage := h.stage row hrow
  unfold NodeStage at hstage
  rcases hresult with hstate | hstate | hstate | hstate
  all_goals
    rw [hstate] at hstage
    obtain ⟨-, artifact, hproduced, -⟩ := hstage
    exact ⟨artifact, hproduced⟩

/-- The saved report of an artifact says accepted. -/
def GraphArtifactRow.ReportAccepts (artifact : GraphArtifactRow) : Prop :=
  ∃ reportJson report, artifact.validationJson = some reportJson ∧
    loads reportJson = some report ∧ report.get? "decision" = some (.str "accepted")

/-- An artifact is flagged exactly when its node succeeded and its report says
accepted. -/
theorem NodeValid.accepted_iff (h : NodeValid key view) {artifact : GraphArtifactRow}
    (hmem : artifact ∈ view.artifacts) :
    artifact.accepted = 1 ↔
      (∃ row, view.row = some row ∧ row.state = .succeeded) ∧ artifact.ReportAccepts := by
  cases hrow : view.row with
  | none =>
      rw [h.absent hrow] at hmem
      cases hmem
  | some row =>
      have hstage := h.stage row hrow
      -- every state but succeeded leaves the flag at zero
      have hzero : artifact.accepted = 0 → row.state ≠ .succeeded → (artifact.accepted = 1 ↔
          (∃ row', some row = some row' ∧ row'.state = .succeeded) ∧ artifact.ReportAccepts) := by
        intro haccepted hnot
        constructor
        · intro hone
          rw [haccepted] at hone
          cases hone
        · rintro ⟨⟨row', hrow', hstate⟩, -⟩
          obtain rfl := Option.some.inj hrow'
          exact absurd hstate hnot
      have hbare : view.Bare row → artifact.accepted = 0 := fun hbare => by
        rw [hbare.1] at hmem
        cases hmem
      have hsame : ∀ other, Produced view row other → artifact = other := fun other hproduced => by
        rw [hproduced.only, List.mem_singleton] at hmem
        exact hmem
      unfold NodeStage at hstage
      cases hstate : row.state with
      | blocked | ready =>
          rw [hstate] at hstage hzero
          exact hzero (hbare hstage.2.2) NodeState.noConfusion
      | running =>
          rw [hstate] at hstage hzero
          exact hzero (hbare hstage.2.2.2) NodeState.noConfusion
      | skipped | uncertain =>
          rw [hstate] at hstage hzero
          exact hzero (hbare hstage.2) NodeState.noConfusion
      | awaitingValidation | failed =>
          rw [hstate] at hstage hzero
          obtain ⟨-, other, hproduced, hopen⟩ := hstage
          exact hzero (hsame other hproduced ▸ hopen.1) NodeState.noConfusion
      | rejected =>
          rw [hstate] at hstage hzero
          obtain ⟨-, other, hproduced, hsays⟩ := hstage
          exact hzero (hsame other hproduced ▸ hsays.1) NodeState.noConfusion
      | cancelled =>
          rw [hstate] at hstage hzero
          rcases hstage.2 with hnone | ⟨other, hproduced, hopen⟩
          · exact hzero (hbare hnone) NodeState.noConfusion
          · exact hzero (hsame other hproduced ▸ hopen.1) NodeState.noConfusion
      | succeeded =>
          rw [hstate] at hstage
          obtain ⟨-, other, hproduced, haccepted, reportJson, hreport, report, hloads, hdecision⟩ :=
            hstage
          obtain rfl := hsame other hproduced
          exact ⟨fun _ => ⟨⟨row, rfl, hstate⟩, reportJson, report, hreport, hloads, hdecision⟩,
            fun _ => haccepted⟩

/-! ### Who completes a node -/

/-- A call that withdraws a node: it cancels the graph of the node, or recovers
the node, and returns. -/
def withdrawsNode (platform : Platform) (tenant : String) (key : String × String)
    (tables : GraphTables) (call : GraphCall) : Bool :=
  match call with
  | .cancelGraph caller graphId =>
      decide (caller = tenant) && decide (graphId = key.1) &&
        ((graphStore platform).answer tables call).isOk
  | .recoverGraphNodesStartup _ _ =>
      match (graphStore platform).answer tables call with
      | .ok (.recovered names) => names.any fun name => decide ((name.graphId, name.nodeId) = key)
      | _ => false
  | _ => false

/-- A withdrawn node does not run. -/
theorem withdrawsNode_ends {tenant : String} {call : GraphCall}
    (hrow : (tables.view key).row = some row) (howned : row.tenant = tenant)
    (h : withdrawsNode platform tenant key tables call = true) :
    ¬ (((graphStore platform).next tables call).view key).Running := by
  obtain ⟨graphId, nodeId⟩ := key
  cases call with
  | cancelGraph caller target =>
      simp only [withdrawsNode, Bool.and_eq_true, decide_eq_true_eq] at h
      obtain ⟨⟨rfl, rfl⟩, hok⟩ := h
      obtain ⟨answer, hanswer⟩ := isOk_iff.mp hok
      obtain ⟨state, hcancel, -⟩ := map_ok.mp (graphBody_of_answer hanswer)
      exact (cancelGraph_ok hcancel).2 nodeId row hrow howned
  | recoverGraphNodesStartup limit now =>
      simp only [withdrawsNode] at h
      split at h
      · rename_i names hanswer
        obtain ⟨names', hrecover, hnames⟩ := map_ok.mp (graphBody_of_answer hanswer)
        obtain rfl := GraphAnswer.recovered.inj hnames
        obtain ⟨name, hmem, hname⟩ := List.any_eq_true.mp h
        rw [decide_eq_true_eq] at hname
        rw [← hname]
        exact (recoverGraphNodesStartup_ok hrecover).2 name hmem
      · cases h
  | createGraph _ _ _ _ _ _ _ | bindGraphBudget _ _ _ _ | claimGraphNode _ _ _ _ _ _
  | completeGraphNode _ _ _ _ _ _ _ _ _ | validateGraphNode _ _ _ _ => cases h

/-- A claim that made a node run with a row. -/
def ClaimOf (platform : Platform) (key : String × String) (row : NodeRow) (tables : GraphTables)
    (call : GraphCall) : Prop :=
  ∃ owner leaseSeconds now current expiry,
    call = .claimGraphNode row.tenant key.1 key.2 owner leaseSeconds now ∧
    (graphStore platform).answer tables call = .ok (.fence row.fence) ∧
    row.owner = some owner ∧ utcNow now = .ok current ∧
    current.shift (leaseSeconds * 1000000) = some expiry ∧
    row.leaseUntil = some expiry.isoformat

/-- **Step lemma.**  A running row was there before, or the call claimed it. -/
theorem claimOf_next (tables : GraphTables) (call : GraphCall) (hvalid : AllNodesValid tables)
    (hrunning : row.state = .running)
    (hrow : (((graphStore platform).next tables call).view key).row = some row) :
    (tables.view key).row = some row ∨ ClaimOf platform key row tables call := by
  rcases @graphNext_ok platform tables hvalid call with hquiet | ⟨answer, hanswer, tenant, graphId,
    nodeId, owner, leaseSeconds, now, fence, row', current, expiry, rfl, rfl, hclaim⟩
  · have hsame := quiet_chain_of_running (hquiet key) ⟨row, hrow, hrunning⟩
    exact Or.inl (by rw [hsame]; exact hrow)
  · by_cases hkey : key = (graphId, nodeId)
    · subst hkey
      rw [hclaim.self] at hrow
      obtain rfl := Option.some.inj hrow
      have htenant : (row'.claimed owner expiry).tenant = tenant := hclaim.owned
      have hfence : (row'.claimed owner expiry).fence = fence := hclaim.fence.symm
      refine Or.inr ⟨owner, leaseSeconds, now, current, expiry, ?_, ?_, rfl, hclaim.time,
        hclaim.lease, rfl⟩
      · rw [htenant]
      · rw [hfence]
        exact hanswer
    · rw [hclaim.others key hkey] at hrow
      exact Or.inl hrow

/-- A lease that has not run out ends after the current time. -/
theorem lease_live {claimed expiry : Instant} {seconds : Int} {now : DateTime}
    (hlease : claimed.shift (seconds * 1000000) = some expiry)
    (hlive : leaseExpired (some expiry.isoformat) now = .ok false) :
    ∃ current, utcNow now = .ok current ∧
      (current.micros : Int) < claimed.micros + seconds * 1000000 := by
  unfold leaseExpired at hlive
  simp only [fromisoformat_isoformat] at hlive
  rw [except_bind_ok] at hlive
  obtain ⟨current, hcurrent, hlive⟩ := hlive
  have hlater : ¬ ((expiry.micros : Int) - 0 ≤ current.micros) := by
    simpa [Instant.utc] using Except.ok.inj hlive
  refine ⟨current, hcurrent, ?_⟩
  have hshift := Instant.shift_micros hlease
  omega

/-- A node that was started and does not run never runs again. -/
theorem stopped_after {tables : GraphTables} (hvalid : AllNodesValid tables)
    (hstarted : (tables.view key).Started) (hstopped : ¬ (tables.view key).Running)
    (calls : List GraphCall) :
    ¬ (((graphStore platform).after tables calls).view key).Running := by
  have hstep : ∀ state call,
      (AllNodesValid state ∧ (state.view key).Started ∧ ¬ (state.view key).Running) →
        AllNodesValid ((graphStore platform).next state call) ∧
          (((graphStore platform).next state call).view key).Started ∧
          ¬ (((graphStore platform).next state call).view key).Running := by
    rintro state call ⟨hvalid, hstarted, hstopped⟩
    refine ⟨graphNext_valid state call hvalid, started_graphNext hvalid call hstarted, ?_⟩
    rintro ⟨row, hrow, hrunning⟩
    rcases claimOf_next state call hvalid hrunning hrow with hbefore | hclaim
    · exact hstopped ⟨row, hbefore, hrunning⟩
    · -- a claim needs a ready node
      obtain ⟨owner, leaseSeconds, now, current, expiry, rfl, hanswer, -⟩ := hclaim
      have hclaims : claimsNode platform key state
          (.claimGraphNode row.tenant key.1 key.2 owner leaseSeconds now) = true := by
        simp only [claimsNode, hanswer, Except.isOk, Except.toBool, decide_true, Bool.and_self]
      obtain ⟨⟨row', hrow', hready⟩, -⟩ := claimsNode_started hclaims
      obtain ⟨row'', hrow'', -, hnot⟩ := hstarted
      rw [hrow', Option.some.injEq] at hrow''
      exact hnot (hrow'' ▸ hready)
  exact (Machine.after_invariant hstep ⟨hvalid, hstarted, hstopped⟩ calls).2.2

/-- What entitles an execution to complete a node: the claim that answered its
fence, a lease that has not ended, and no withdrawal. -/
structure Entitled (platform : Platform) (calls : List GraphCall) (tenant : String)
    (key : String × String) (owner : String) (fence : Int) (now : DateTime)
    (before later : List GraphCall) (claim : GraphCall) : Prop where
  split : calls = before ++ claim :: later
  answered : (graphStore platform).answer
    ((graphStore platform).after GraphTables.empty before) claim = .ok (.fence fence)
  lease : ∃ leaseSeconds claimedAt claimed current,
    claim = .claimGraphNode tenant key.1 key.2 owner leaseSeconds claimedAt ∧
    utcNow claimedAt = .ok claimed ∧ utcNow now = .ok current ∧
    (current.micros : Int) < claimed.micros + leaseSeconds * 1000000
  kept : (graphStore platform).count (withdrawsNode platform tenant key)
    ((graphStore platform).after GraphTables.empty (before ++ [claim])) later = 0
  never : ∀ earlier rest, calls = earlier ++ rest → ∀ row,
    ((graphStore platform).after GraphTables.empty earlier).nodes.find key = some row →
      row.state ≠ .cancelled ∧ row.state ≠ .uncertain

/-- A node that runs at the end of a run was claimed in it, and ran ever since. -/
theorem running_origin {calls : List GraphCall} (hrunning : row.state = .running)
    (hrow : (((graphStore platform).after GraphTables.empty calls).view key).row = some row) :
    ∃ before claim later, calls = before ++ claim :: later ∧
      ClaimOf platform key row ((graphStore platform).after GraphTables.empty before) claim ∧
      ∀ middle last, later = middle ++ last →
        (((graphStore platform).after GraphTables.empty (before ++ claim :: middle)).view key).row =
          some row := by
  have hstart : ¬ (GraphTables.empty.view key).row = some row := fun h => by cases h
  exact @Machine.after_origin _ _ _ (graphStore platform) AllNodesValid
    (fun state => (state.view key).row = some row) (ClaimOf platform key row) GraphTables.empty
    graphNext_valid (fun state call hvalid => claimOf_next state call hvalid hrunning)
    graphEmpty_valid hstart calls hrow

theorem completion_entitled {calls : List GraphCall} {tenant graphId nodeId owner uuid4 : String}
    {fence : Int} {result : List (String × Json)} {succeeded : Bool} {now : DateTime}
    {answer : GraphAnswer}
    (h : (graphStore platform).answer ((graphStore platform).after GraphTables.empty calls)
      (.completeGraphNode tenant graphId nodeId owner fence result succeeded now uuid4) =
        .ok answer) :
    ∃ before later claim,
      Entitled platform calls tenant (graphId, nodeId) owner fence now before later claim := by
  obtain ⟨ref, hcomplete, -⟩ := map_ok.mp (graphBody_of_answer h)
  obtain ⟨row, artifact, hrow, rfl, hrunning, howner, rfl, hlive, -⟩ :=
    completeGraphNode_ok hcomplete
  obtain ⟨before, claim, later, hsplit, hclaim, hsince⟩ := running_origin hrunning hrow
  obtain ⟨owner', leaseSeconds, claimedAt, claimed, expiry, hcall, hanswer, howner', hclaimed,
    hlease, hleaseUntil⟩ := hclaim
  rw [howner, Option.some.injEq] at howner'
  subst howner'
  rw [hleaseUntil] at hlive
  obtain ⟨current, hcurrent, hbefore⟩ := lease_live hlease hlive
  refine ⟨before, later, claim, hsplit, hanswer, ⟨leaseSeconds, claimedAt, claimed, current, hcall,
    hclaimed, hcurrent, hbefore⟩, ?_, ?_⟩
  · apply Machine.count_eq_zero_of_forall
    intro middle call last hlater
    by_contra hwithdraws
    -- the node runs before the call and after it
    have hbefore' := hsince middle (call :: last) hlater
    have hafter := hsince (middle ++ [call]) last (by rw [hlater]; simp)
    have hstep : (graphStore platform).after GraphTables.empty
        (before ++ claim :: (middle ++ [call])) =
        (graphStore platform).next ((graphStore platform).after GraphTables.empty
          (before ++ claim :: middle)) call := by
      rw [← List.cons_append, ← List.append_assoc, Machine.after_append]
      rfl
    have hsame : (graphStore platform).after ((graphStore platform).after GraphTables.empty
        (before ++ [claim])) middle =
        (graphStore platform).after GraphTables.empty (before ++ claim :: middle) := by
      rw [← Machine.after_append]
      simp
    rw [hsame] at hwithdraws
    rw [hstep] at hafter
    exact withdrawsNode_ends hbefore' rfl (by simpa using hwithdraws) ⟨row, hafter, hrunning⟩
  · intro earlier rest hcalls row' hrow'
    -- a withdrawn node would not run now
    have hnever : row'.state ≠ .blocked → row'.state ≠ .ready → row'.state = .running := by
      intro hblocked hready
      by_contra hnot
      have hvalid : AllNodesValid ((graphStore platform).after GraphTables.empty earlier) :=
        graphReachable_valid earlier
      have hstopped := @stopped_after platform (graphId, nodeId) _ hvalid
        ⟨row', hrow', hblocked, hready⟩ (fun hrun => by
          obtain ⟨row'', hrow'', hstate⟩ := hrun
          obtain rfl := Option.some.inj (hrow'.symm.trans hrow'')
          exact hnot hstate) rest
      rw [← Machine.after_append, ← hcalls] at hstopped
      exact hstopped ⟨row, hrow, hrunning⟩
    constructor
    · intro hstate
      rw [hstate] at hnever
      exact NodeState.noConfusion (hnever NodeState.noConfusion NodeState.noConfusion)
    · intro hstate
      rw [hstate] at hnever
      exact NodeState.noConfusion (hnever NodeState.noConfusion NodeState.noConfusion)

/-- **Graph nodes.**  In every store that a run from empty tables reaches: a node
was claimed at most once and has at most one artifact; it has an owner and a
lease exactly while it runs; a node with a result has exactly one artifact, the
one it names; an artifact is flagged exactly when its node succeeded and its
report says accepted; and a completion is answered only for the owner and the
fence of the claim of that node, before its lease ends and before the node is
cancelled or recovered. -/
theorem graph_nodes_claimed_once (platform : Platform) (graphId nodeId : String)
    (calls : List GraphCall) :
    let store := graphStore platform
    let tables := store.after GraphTables.empty calls
    let artifacts := tables.artifacts.select fun row => decide (row.node = (graphId, nodeId))
    store.count (claimsNode platform (graphId, nodeId)) GraphTables.empty calls ≤ 1 ∧
      artifacts.length ≤ 1 ∧
      (∀ row, tables.nodes.find (graphId, nodeId) = some row →
        (row.owner ≠ none ↔ row.state = .running) ∧
        (row.leaseUntil ≠ none ↔ row.state = .running) ∧
        (row.state.HasResult →
          ∃ artifact, artifacts = [artifact] ∧ row.resultArtifactId = some artifact.id)) ∧
      (∀ artifact ∈ artifacts, artifact.accepted = 1 ↔
        (∃ row, tables.nodes.find (graphId, nodeId) = some row ∧ row.state = .succeeded) ∧
          artifact.ReportAccepts) ∧
      ∀ tenant owner fence result succeeded now uuid4 answer,
        store.answer tables (.completeGraphNode tenant graphId nodeId owner fence result succeeded
          now uuid4) = .ok answer →
        ∃ before later claim,
          Entitled platform calls tenant (graphId, nodeId) owner fence now before later claim := by
  intro store tables artifacts
  have hvalid : NodeValid (graphId, nodeId) (tables.view (graphId, nodeId)) :=
    graphReachable_valid calls (graphId, nodeId)
  refine ⟨claimsNode_le_one (graphId, nodeId) calls, hvalid.artifacts_length, ?_, ?_, ?_⟩
  · intro row hrow
    obtain ⟨howner, hlease⟩ := hvalid.held_iff hrow
    refine ⟨howner, hlease, fun hresult => ?_⟩
    obtain ⟨artifact, hproduced⟩ := hvalid.produced hrow hresult
    exact ⟨artifact, hproduced.only, hproduced.named⟩
  · intro artifact hmem
    exact hvalid.accepted_iff hmem
  · intro tenant owner fence result succeeded now uuid4 answer hanswer
    exact completion_entitled hanswer

end Workflows
end Ryuk
