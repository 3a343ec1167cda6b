import Ryuk.Foundation.IsoOrder
import Ryuk.Workflows.GraphOperations
import Ryuk.Workflows.Progress
import Ryuk.Workflows.SingleTask

/-!
# Leases and their recovery

A lease is checked by parsing the stored text and comparing times, and recovered
by comparing texts in SQL.  The order of ISO texts is the order of the times, so
the two tests split every moment: a running row either still has its lease or is
selected by a recovery, never both and never neither.
-/

namespace Ryuk
namespace Workflows

open Foundation Foundation.Json Foundation.Datetime Foundation.Transaction Relation

variable {platform : Platform}

/-- A UTC reading is the wall clock less the offset. -/
theorem utcNow_micros {now : DateTime} {current : Instant} {offset : Int}
    (hoffset : now.utcoffset = some offset) (h : utcNow now = .ok current) :
    (current.micros : Int) = now.reading.micros - offset := by
  unfold utcNow at h
  simp only [hoffset] at h
  split at h
  · rename_i instant hinstant
    obtain rfl := Except.ok.inj h
    exact Instant.ofMicros_micros hinstant
  · cases h

theorem utcNow_of_astimezone {now : DateTime} {current : Instant} {offset : Int}
    (hoffset : now.utcoffset = some offset)
    (h : DateTime.astimezoneUtc now.reading offset = some current) : utcNow now = .ok current := by
  unfold utcNow
  simp only [hoffset, h]

theorem utcNow_utc (t : Instant) : utcNow t.utc = .ok t :=
  utcNow_of_astimezone rfl (DateTime.astimezoneUtc_zero t)

/-- **Lease lemma.**  The parsed test says "run out" exactly when the text test
does. -/
theorem leaseExpired_iff {expiry current : Instant} {now : DateTime}
    (hnow : utcNow now = .ok current) :
    leaseExpired (some expiry.isoformat) now =
      .ok (decide (expiry.isoformat ≤ current.isoformat)) := by
  have horder : ((expiry.micros : Int) - 0 ≤ current.micros) ↔
      expiry.isoformat ≤ current.isoformat := by
    rw [isoformat_le_iff, Instant.le_iff]
    omega
  unfold leaseExpired
  simp only [fromisoformat_isoformat, hnow, Instant.utc]
  rw [← decide_eq_decide.mpr horder]
  rfl

/-! ### Single-task workflows -/

section Tasks

variable {workflowId : String} {view later : View} {tables : Tables}

/-- **Step lemma.**  A workflow that was started and runs after a transition had
the same row before it: only a claim writes an owner or a lease. -/
theorem Step.running_row {row row' : WorkflowRow} (hstep : Step platform workflowId view later)
    (hrow : view.row = some row) (hstarted : row.state ≠ .ready) (hlater : later.row = some row')
    (hrunning : row'.state = .running) : row' = row := by
  have hmoved : ∀ {other : WorkflowRow}, some other = some row' → other = row' := Option.some.inj
  cases hstep with
  | create fresh binding habsent =>
      rw [hrow] at habsent
      cases habsent
  | @claim found owner expiry hfound hready =>
      rw [hrow, Option.some.injEq] at hfound
      exact absurd (hfound ▸ hready) hstarted
  | @beginDispatch found budget hfound hstate hnone =>
      rw [hrow, Option.some.injEq] at hfound
      exact (hfound.trans (hmoved hlater)).symm
  | @recordOutcome found journal encoded succeeded hfound hstate hjournal hopen hobject =>
      rw [hrow, Option.some.injEq] at hfound
      exact (hfound.trans (hmoved hlater)).symm
  | @complete found encoded succeeded artifactId hfound hstate hjournal hobject =>
      obtain rfl := hmoved hlater
      cases succeeded with
      | true => cases hrunning
      | false => cases hrunning
  | @reconcile found journal encoded succeeded artifactId hfound hstate hjournal hholds hobject =>
      obtain rfl := hmoved hlater
      cases succeeded with
      | true => cases hrunning
      | false => cases hrunning
  | @validate found artifact snapshot findings reportJson hfound hstate hmem hnamed =>
      obtain rfl := hmoved hlater
      unfold WorkflowRow.decided at hrunning
      simp only at hrunning
      split_ifs at hrunning
  | cancel hfound hstate =>
      obtain rfl := hmoved hlater
      cases hrunning
  | expire hfound hstate =>
      obtain rfl := hmoved hlater
      cases hrunning

/-- A workflow that was started and runs now has the row it had. -/
theorem chain_running_row {row row' : WorkflowRow}
    (hchain : ReflTransGen (Step platform workflowId) view later)
    (hvalid : Valid platform workflowId view) (hrow : view.row = some row)
    (hstarted : row.state ≠ .ready) (hlater : later.row = some row')
    (hrunning : row'.state = .running) : row' = row := by
  induction hchain generalizing row' with
  | refl => exact Option.some.inj (hlater.symm.trans hrow)
  | @tail middle final hchain hstep ih =>
      obtain ⟨between, hbetween, hadvance⟩ := (chain_advances hchain hvalid).row row hrow
      obtain rfl : row' = between :=
        hstep.running_row hbetween (hadvance.started hstarted) hlater hrunning
      exact ih hbetween hrunning

/-- **Run lemma.**  While a claimed workflow runs, its row is the claimed one. -/
theorem running_row_after {row row' : WorkflowRow} (hvalid : AllValid platform tables)
    (hrow : (tables.view workflowId).row = some row) (hstarted : row.state ≠ .ready)
    (calls : List Call)
    (hlater : (((store platform).after tables calls).view workflowId).row = some row')
    (hrunning : row'.state = .running) : row' = row := by
  induction calls generalizing tables row with
  | nil => exact Option.some.inj (hlater.symm.trans hrow)
  | cons call rest ih =>
      obtain ⟨between, hbetween, hadvance⟩ :=
        (next_advances tables call hvalid workflowId).row row hrow
      obtain rfl : row' = between :=
        ih (next_valid tables call hvalid) hbetween (hadvance.started hstarted) hlater
      exact chain_running_row (next_refines tables call workflowId) (hvalid workflowId) hrow
        hstarted hbetween hrunning

/-- The lease check of a running row, and what SQL selects. -/
theorem requireLease_iff {owner : String} {row : WorkflowRow} {now : DateTime}
    {current expiry : Instant}
    (hrow : tables.workflows.find workflowId = some row) (hrunning : row.state = .running)
    (howner : row.owner = some owner) (hlease : row.leaseUntil = some expiry.isoformat)
    (hnow : utcNow now = .ok current) :
    requireLease row.tenant workflowId owner row.fence now tables = .ok ((), tables) ↔
      ¬ expiredAt current.isoformat row = true := by
  have hfound : tables.workflows.fetchone (ownedBy row.tenant workflowId) = some row :=
    fetchone_owned_iff.mpr ⟨hrow, rfl⟩
  have hexpired : expiredAt current.isoformat row =
      decide (expiry.isoformat ≤ current.isoformat) := by
    unfold expiredAt
    simp only [hrunning, hlease, decide_true, Bool.true_and]
  rw [hexpired]
  unfold requireLease selectWorkflow
  simp only [query_bind_ok, hfound, require_bind_ok, lift_bind_ok, require_ok, hrunning, howner,
    hlease, leaseExpired_iff hnow, decide_true, Bool.and_self, true_and, and_true,
    Except.ok.injEq, exists_eq_left', Bool.not_eq_true', decide_eq_true_eq,
    decide_eq_false_iff_not]

end Tasks

/-! ### Graph nodes -/

section Nodes

variable {tables : GraphTables} {graphId nodeId : String}

/-- The lease check of a running node, and what SQL selects. -/
theorem requireGraphLease_iff {owner : String} {row : NodeRow} {now : DateTime}
    {current expiry : Instant} (hrow : tables.nodes.find (graphId, nodeId) = some row)
    (hrunning : row.state = .running) (howner : row.owner = some owner)
    (hlease : row.leaseUntil = some expiry.isoformat) (hnow : utcNow now = .ok current) :
    requireGraphLease row.tenant graphId nodeId owner row.fence now tables = .ok ((), tables) ↔
      ¬ nodeExpiredAt current.isoformat row = true := by
  have hfound : tables.nodes.fetchone (nodeOf row.tenant graphId nodeId) = some row := by
    have hfixed : ∀ other : NodeRow, nodeOf row.tenant graphId nodeId other = true →
        other.key = (graphId, nodeId) := fun other hother => (nodeOf_iff.mp hother).2
    rw [Table.fetchone_of_key hfixed, hrow]
    simp [Option.filter, nodeOf_iff.mpr ⟨rfl, Table.find_key hrow⟩]
  have hexpired : nodeExpiredAt current.isoformat row =
      decide (expiry.isoformat ≤ current.isoformat) := by
    unfold nodeExpiredAt
    simp only [hrunning, hlease, decide_true, Bool.true_and]
  rw [hexpired]
  unfold requireGraphLease selectNode
  simp only [query_bind_ok, hfound, require_bind_ok, lift_bind_ok, require_ok, hrunning, howner,
    hlease, leaseExpired_iff hnow, decide_true, Bool.and_self, true_and, and_true,
    Except.ok.injEq, exists_eq_left', Bool.not_eq_true', decide_eq_true_eq,
    decide_eq_false_iff_not]

end Nodes

/-! ### Held or recovered -/

/-- At this time every workflow that still runs under a claim either holds its
lease or is selected by a recovery, not both. -/
def TaskLeasesSplit (platform : Platform) (now : DateTime) : Prop :=
  ∀ (start tables : Tables) (tenant workflowId owner : String) (leaseSeconds fence : Int)
    (claimedAt : DateTime) (row : WorkflowRow),
    (store platform).Reachable Tables.empty start →
    (store platform).answer start (.claim tenant workflowId owner leaseSeconds claimedAt) =
      .ok (.fence fence) →
    (store platform).Reachable
      ((store platform).next start (.claim tenant workflowId owner leaseSeconds claimedAt))
      tables →
    tables.workflows.find workflowId = some row → row.state = .running →
    Xor (requireLease tenant workflowId owner fence now tables = .ok ((), tables))
      (∃ current, utcNow now = .ok current ∧
        row ∈ tables.workflows.select (expiredAt current.isoformat))

/-- The same of graph nodes. -/
def NodeLeasesSplit (platform : Platform) (now : DateTime) : Prop :=
  ∀ (start tables : GraphTables) (tenant graphId nodeId owner : String)
    (leaseSeconds fence : Int) (claimedAt : DateTime) (row : NodeRow),
    (graphOperations platform).Reachable GraphTables.empty start →
    (graphOperations platform).answer start
        (.call (.claimGraphNode tenant graphId nodeId owner leaseSeconds claimedAt)) =
      .ok (.fence fence) →
    (graphOperations platform).Reachable ((graphOperations platform).next start
        (.call (.claimGraphNode tenant graphId nodeId owner leaseSeconds claimedAt))) tables →
    tables.nodes.find (graphId, nodeId) = some row → row.state = .running →
    Xor (requireGraphLease tenant graphId nodeId owner fence now tables = .ok ((), tables))
      (∃ current, utcNow now = .ok current ∧
        row ∈ tables.nodes.select (nodeExpiredAt current.isoformat))

/-- The two tests exclude each other and leave no third case. -/
theorem xor_of_iff_not {held : Prop} {selected : Instant → Prop} {now : DateTime}
    {current : Instant} (hnow : utcNow now = .ok current) (h : held ↔ ¬ selected current) :
    Xor held (∃ reading, utcNow now = .ok reading ∧ selected reading) := by
  have hselected : (∃ reading, utcNow now = .ok reading ∧ selected reading) ↔
      selected current := by
    rw [hnow]
    simp only [Except.ok.injEq, exists_eq_left']
  rw [hselected, xor_iff_iff_not]
  exact h

theorem taskLeasesSplit {now : DateTime} {current : Instant} (hnow : utcNow now = .ok current) :
    TaskLeasesSplit platform now := by
  intro start tables tenant workflowId owner leaseSeconds fence claimedAt row hstart hanswer hlater
    hrow hrunning
  have hvalid : AllValid platform start := reachable_valid hstart
  obtain ⟨found, hclaim, hfence⟩ := map_ok.mp (commit_of_answer hanswer)
  obtain rfl : found = fence := Answer.fence.inj hfence
  obtain ⟨ready, expiry, -, rfl, -, rfl, hmoves⟩ := claim_ok hclaim
  have hclaimed : (((store platform).next start (.claim ready.tenant workflowId owner leaseSeconds
      claimedAt)).view workflowId).row = some (ready.claimed owner expiry) :=
    congrArg View.row hmoves.self
  -- the row the claim wrote is still the row
  obtain ⟨calls, rfl⟩ := hlater
  obtain rfl : row = ready.claimed owner expiry :=
    running_row_after (next_valid start _ hvalid) hclaimed (by intro h; cases h) calls hrow hrunning
  refine xor_of_iff_not hnow ?_
  rw [Table.mem_select, and_iff_right (Table.mem_of_find hrow)]
  exact requireLease_iff hrow hrunning rfl rfl hnow

theorem nodeLeasesSplit {now : DateTime} {current : Instant} (hnow : utcNow now = .ok current) :
    NodeLeasesSplit platform now := by
  intro start tables tenant graphId nodeId owner leaseSeconds fence claimedAt row hstart hanswer
    hlater hrow hrunning
  obtain ⟨found, hclaim, hfence⟩ := map_ok.mp (commit_of_answer hanswer)
  obtain rfl : found = fence := GraphAnswer.fence.inj hfence
  obtain ⟨ready, time, expiry, hnode⟩ := claimGraphNode_ok hclaim
  obtain rfl := hnode.owned
  obtain rfl := hnode.fence
  have hclaimed : (((graphOperations platform).next start (.call (.claimGraphNode ready.tenant
      graphId nodeId owner leaseSeconds claimedAt))).view (graphId, nodeId)).row =
      some (ready.claimed owner expiry) :=
    congrArg NodeView.row hnode.self
  obtain ⟨operations, rfl⟩ := hlater
  obtain ⟨row', hrow', -, hsame⟩ := @graphOperations_after_continues platform _
    operations (graphId, nodeId) _ hclaimed ⟨by simp [NodeRow.claimed], by simp [NodeRow.claimed]⟩
  obtain rfl : row = row' := Option.some.inj (hrow.symm.trans hrow')
  obtain rfl : row = ready.claimed owner expiry := hsame hrunning
  refine xor_of_iff_not hnow ?_
  rw [Table.mem_select, and_iff_right (Table.mem_of_find hrow)]
  exact requireGraphLease_iff hrow hrunning rfl rfl hnow

/-- **Lease and recovery.**  At every time that has a reading in UTC a claimed
running workflow or node either holds its lease or is selected by a recovery; and
the ISO texts of two times are ordered as the times are. -/
theorem lease_xor_recovery :
    (∀ (platform : Platform) (now : DateTime) (current : Instant),
        utcNow now = .ok current →
        TaskLeasesSplit platform now ∧ NodeLeasesSplit platform now) ∧
      ∀ (left right : DateTime) (leftOffset rightOffset : Int) (first second : Instant),
        left.utcoffset = some leftOffset → right.utcoffset = some rightOffset →
        utcNow left = .ok first → utcNow right = .ok second →
        (first.isoformat < second.isoformat ↔
            (left.reading.micros : Int) - leftOffset < right.reading.micros - rightOffset) ∧
          (first.isoformat = second.isoformat ↔
            (left.reading.micros : Int) - leftOffset = right.reading.micros - rightOffset) := by
  refine ⟨fun platform now current hnow => ⟨taskLeasesSplit hnow, nodeLeasesSplit hnow⟩, ?_⟩
  intro left right leftOffset rightOffset first second hleft hright hfirst hsecond
  have hleft' := utcNow_micros hleft hfirst
  have hright' := utcNow_micros hright hsecond
  constructor
  · rw [← hleft', ← hright', ← not_le, isoformat_le_iff, Instant.le_iff]
    omega
  · rw [← hleft', ← hright']
    constructor
    · intro h
      rw [isoformat_strictMono.injective h]
    · intro h
      rw [Instant.ext (by omega : first.micros = second.micros)]

theorem zero_bounded : 0 < maxOrdinal * microsPerDay := by decide

/-- Midnight of the first day. -/
def firstInstant : Instant := ⟨0, zero_bounded⟩

/-- A lease is not held at a time without a reading in UTC: the check raises. -/
theorem requireLease_unread {now : DateTime} (hnow : ∀ current, utcNow now ≠ .ok current)
    {tables final : Tables} {tenant workflowId owner : String} {fence : Int} :
    requireLease tenant workflowId owner fence now tables ≠ .ok ((), final) := by
  intro h
  have hbind : (requireLease tenant workflowId owner fence now >>= pure) tables =
      .ok ((), final) := by
    rw [bind_ok]
    exact ⟨(), final, h, rfl⟩
  obtain ⟨row, -, -, -, -, -, -, hlease, -⟩ := requireLease_bind_ok hbind
  unfold leaseExpired at hlease
  split at hlease
  · cases hlease
  · split at hlease
    · cases hlease
    · rw [except_bind_ok] at hlease
      obtain ⟨current, hcurrent, -⟩ := hlease
      exact hnow current hcurrent

/-- At a time without a reading in UTC a claimed workflow neither holds its lease
nor is selected. -/
theorem not_taskLeasesSplit {now : DateTime} (hnow : ∀ current, utcNow now ≠ .ok current) :
    ¬ TaskLeasesSplit platform now := by
  intro hsplit
  obtain ⟨packet, hpacket⟩ : ∃ packet : TaskPacket, packet.Storable :=
    ⟨TaskPacket.short, TaskPacket.short_storable⟩
  -- one packet, created and claimed on the first day
  obtain ⟨start, hstart⟩ : ∃ start : Instant, start.micros = 0 := ⟨firstInstant, rfl⟩
  obtain ⟨row, created, hcreate, hrows, hid, htenant, -, hready, ⟨stored, hstored, hdecode⟩, -⟩ :=
    @create_fresh platform "t" "k" "w" packet none Tables.empty (by decide) (by decide) hpacket
      (fun fields hfields => by cases hfields) (fun row hrow => by cases hrow) rfl rfl
  have hrow : (created.view "w").row = some row := by
    show created.workflows.find "w" = some row
    rw [← hid, Table.find_eq_some_iff, hrows]
    exact ⟨by simp, rfl⟩
  obtain ⟨later, hlater⟩ : ∃ later, start.shift (1 * 1000000) = some later := by
    apply Instant.exists_shift
    · omega
    · unfold maxOrdinal microsPerDay
      omega
  obtain ⟨final, hclaim⟩ : ∃ final, claim "t" "w" "o" 1 start.utc created =
      .ok (row.fence + 1, final) :=
    claim_ready (by decide) (by decide) (utcNow_utc start) hlater hrow htenant hready hstored
      hdecode
  have hcreated : ((store platform).step Tables.empty
      (.create "t" "k" packet none "w")) = (.ok (.workflowId "w"), created) :=
    step_of_body (map_ok.mpr ⟨"w", hcreate, rfl⟩)
  have hclaimed : ((store platform).step created
      (.claim "t" "w" "o" 1 start.utc)) = (.ok (.fence (row.fence + 1)), final) :=
    step_of_body (map_ok.mpr ⟨row.fence + 1, hclaim, rfl⟩)
  have hreach : (store platform).Reachable Tables.empty created :=
    ⟨[.create "t" "k" packet none "w"], congrArg Prod.snd hcreated⟩
  obtain ⟨_, _, -, -, -, -, hmoves⟩ := claim_ok hclaim
  have hself := congrArg View.row hmoves.self
  have hxor := hsplit created final "t" "w" "o" 1 (row.fence + 1) start.utc _ hreach
    (Machine.answer_of_step hclaimed) (Machine.Reachable.of_eq (Machine.next_of_step hclaimed))
    hself rfl
  rcases hxor with ⟨hheld, -⟩ | ⟨⟨current, hcurrent, -⟩, -⟩
  · exact requireLease_unread hnow hheld
  · exact hnow current hcurrent

/-- An aware time need not have a reading in UTC: midnight of the first day, in a
zone an hour ahead, has none. -/
theorem lease_gap_before_calendar :
    ¬ ∀ (platform : Platform) (now : DateTime), now.utcoffset.isSome = true →
      TaskLeasesSplit platform now ∧ NodeLeasesSplit platform now := by
  intro h
  obtain ⟨hsplit, -⟩ := h ⟨id, id, fun _ => true⟩ ⟨firstInstant, some 3600000000⟩ rfl
  refine not_taskLeasesSplit (fun current hcurrent => ?_) hsplit
  have hmicros : (current.micros : Int) = firstInstant.micros - 3600000000 :=
    utcNow_micros rfl hcurrent
  have hzero : firstInstant.micros = 0 := rfl
  simp only [hzero] at hmicros
  omega

end Workflows
end Ryuk
