import Ryuk.Workflows.Lifecycle

/-!
# Store calls as transitions

Every store call that returns is a chain of transitions of single workflows:
`call_refines` reads it off the tables, and with it the invariant and the
progress of the views hold along every run of the store.

For each operation there is one lemma that says what it checked and wrote; the
tables occur in no later proof.
-/

namespace Ryuk
namespace Workflows

open Foundation Foundation.Json Foundation.Datetime Foundation.Transaction Relation Audit

variable {platform : Platform} {tables next final : Tables} {tenant workflowId : String}

/-! ### Reading one workflow -/

theorem fetchone_owned_iff {row : WorkflowRow} :
    tables.workflows.fetchone (ownedBy tenant workflowId) = some row ↔
      (tables.view workflowId).row = some row ∧ row.tenant = tenant := by
  have hfixed : ∀ row : WorkflowRow, ownedBy tenant workflowId row = true → row.id = workflowId := by
    intro row hrow
    simp only [ownedBy, Bool.and_eq_true, decide_eq_true_eq] at hrow
    exact hrow.2
  rw [Table.fetchone_of_key hfixed, Option.filter_eq_some_iff]
  refine and_congr_right fun hfind => ?_
  have hid : row.id = workflowId := Table.find_key hfind
  simp only [ownedBy, Bool.and_eq_true, decide_eq_true_eq, hid, and_true]

theorem fetchone_owned {row : WorkflowRow}
    (h : tables.workflows.fetchone (ownedBy tenant workflowId) = some row) :
    (tables.view workflowId).row = some row ∧ row.tenant = tenant ∧ row.id = workflowId := by
  obtain ⟨hrow, htenant⟩ := fetchone_owned_iff.mp h
  exact ⟨hrow, htenant, Table.find_key hrow⟩

theorem fetchone_journal :
    tables.dispatches.fetchone (journalOf tenant workflowId) =
      (tables.view workflowId).dispatch.filter fun row => decide (row.tenant = tenant) := by
  have hfixed : ∀ row : DispatchRow, journalOf tenant workflowId row = true →
      row.workflowId = workflowId := by
    intro row hrow
    simp only [journalOf, Bool.and_eq_true, decide_eq_true_eq] at hrow
    exact hrow.2
  rw [Table.fetchone_of_key hfixed]
  change (tables.dispatches.find workflowId).filter _ = (tables.dispatches.find workflowId).filter _
  cases hfind : tables.dispatches.find workflowId with
  | none => rfl
  | some row =>
      have hid := Table.find_key hfind
      simp [Option.filter, journalOf, hid]

theorem fetchone_journal_some {journal : DispatchRow}
    (h : tables.dispatches.fetchone (journalOf tenant workflowId) = some journal) :
    (tables.view workflowId).dispatch = some journal ∧ journal.tenant = tenant := by
  rw [fetchone_journal, Option.filter_eq_some_iff, decide_eq_true_eq] at h
  exact h

/-! ### Writing one workflow -/

/-- A change of the row and its event. -/
theorem view_moved {row row' : WorkflowRow} {change : WorkflowRow → WorkflowRow}
    {hkey : ∀ row, (change row).id = row.id} {label : EventLabel} {fence : Int}
    (hrow : (tables.view workflowId).row = some row) (htenant : row.tenant = tenant)
    (hid : row.id = workflowId) (hchange : change row = row') (hkeep : row'.tenant = row.tenant)
    (hfence : row'.fence = fence) :
    ((tables.setWorkflow tenant workflowId change hkey).log tenant workflowId label fence).view
      workflowId = (tables.view workflowId).moved row' label := by
  have hfind : (tables.workflows.update (ownedBy tenant workflowId) change hkey).find workflowId =
      some row' := by
    rw [Table.find_update_self hrow (by simp [ownedBy, htenant, hid]), hchange]
  have hid' : row'.id = workflowId := by rw [← hchange, hkey, hid]
  unfold Tables.view Tables.log Tables.setWorkflow View.moved
  simp only [hfind, List.filter_append, hid', hkeep, htenant, hfence]
  simp

theorem view_moved_other {change : WorkflowRow → WorkflowRow}
    {hkey : ∀ row, (change row).id = row.id} {label : EventLabel} {fence : Int} {other : String}
    (hother : other ≠ workflowId) :
    ((tables.setWorkflow tenant workflowId change hkey).log tenant workflowId label fence).view
      other = tables.view other := by
  have hfind : (tables.workflows.update (ownedBy tenant workflowId) change hkey).find other =
      tables.workflows.find other := by
    have hfixed : ∀ row : WorkflowRow, ownedBy tenant workflowId row = true →
        row.id = workflowId := by
      intro row hrow
      simp only [ownedBy, Bool.and_eq_true, decide_eq_true_eq] at hrow
      exact hrow.2
    exact Table.find_update_other hfixed hother
  unfold Tables.view Tables.log Tables.setWorkflow
  simp only [hfind, List.filter_append]
  simp [Ne.symm hother]

/-- An event alone. -/
theorem view_marked {row : WorkflowRow} {label : EventLabel} {fence : Int}
    (hrow : (tables.view workflowId).row = some row) (htenant : row.tenant = tenant)
    (hid : row.id = workflowId) (hfence : row.fence = fence) :
    (tables.log tenant workflowId label fence).view workflowId =
      (tables.view workflowId).moved row label := by
  have hfind : tables.workflows.find workflowId = some row := hrow
  unfold Tables.view Tables.log View.moved
  simp only [hfind, List.filter_append, hid, htenant, hfence]
  simp

theorem view_marked_other {label : EventLabel} {fence : Int} {other : String}
    (hother : other ≠ workflowId) :
    (tables.log tenant workflowId label fence).view other = tables.view other := by
  unfold Tables.view Tables.log
  simp only [List.filter_append]
  simp [Ne.symm hother]

theorem view_addArtifact {row : ArtifactRow} (h : tables.addArtifact row = some next)
    (other : String) :
    next.view other = { tables.view other with
      artifacts := (tables.view other).artifacts ++
        (if row.workflowId = other then [row] else []) } := by
  unfold Tables.addArtifact at h
  obtain ⟨artifacts, hinsert, rfl⟩ := Option.map_eq_some_iff.mp h
  unfold Tables.view
  simp only [Table.select_insert hinsert, decide_eq_true_eq]

theorem view_addValidation {row : ValidationRow} (h : tables.addValidation row = some next)
    (other : String) :
    next.view other = { tables.view other with
      validation := if row.workflowId = other then some row else (tables.view other).validation } := by
  unfold Tables.addValidation at h
  obtain ⟨validations, hinsert, rfl⟩ := Option.map_eq_some_iff.mp h
  unfold Tables.view
  simp only [Table.find_insert hinsert]

theorem view_addDispatch {row : DispatchRow} (h : tables.addDispatch row = some next)
    (other : String) :
    next.view other = { tables.view other with
      dispatch := if row.workflowId = other then some row else (tables.view other).dispatch } := by
  unfold Tables.addDispatch at h
  obtain ⟨dispatches, hinsert, rfl⟩ := Option.map_eq_some_iff.mp h
  unfold Tables.view
  simp only [Table.find_insert hinsert]

theorem view_addBinding {row : BindingRow} (h : tables.addBinding row = some next)
    (other : String) :
    next.view other = { tables.view other with
      binding := if row.workflowId = other then some row else (tables.view other).binding } := by
  unfold Tables.addBinding at h
  obtain ⟨bindings, hinsert, rfl⟩ := Option.map_eq_some_iff.mp h
  unfold Tables.view
  simp only [Table.find_insert hinsert]

theorem view_addWorkflow {row : WorkflowRow} (h : tables.addWorkflow row = some next)
    (other : String) :
    next.view other = { tables.view other with
      row := if row.id = other then some row else (tables.view other).row } := by
  unfold Tables.addWorkflow at h
  obtain ⟨workflows, hinsert, rfl⟩ := Option.map_eq_some_iff.mp h
  unfold Tables.view
  simp only [Table.find_insert hinsert]

theorem view_setDispatch {journal : DispatchRow} {change : DispatchRow → DispatchRow}
    {hkey : ∀ row, (change row).workflowId = row.workflowId}
    (hjournal : (tables.view workflowId).dispatch = some journal)
    (htenant : journal.tenant = tenant) :
    (tables.setDispatch tenant workflowId change hkey).view workflowId =
      { tables.view workflowId with dispatch := some (change journal) } := by
  have hfind : tables.dispatches.find workflowId = some journal := hjournal
  unfold Tables.view Tables.setDispatch
  simp only [Table.find_update_self hfind
    (show journalOf tenant workflowId journal = true by
      simp [journalOf, htenant, Table.find_key hfind])]

theorem view_setDispatch_other {change : DispatchRow → DispatchRow}
    {hkey : ∀ row, (change row).workflowId = row.workflowId} {other : String}
    (hother : other ≠ workflowId) :
    (tables.setDispatch tenant workflowId change hkey).view other = tables.view other := by
  have hfind : (tables.dispatches.update (journalOf tenant workflowId) change hkey).find other =
      tables.dispatches.find other := by
    have hfixed : ∀ row : DispatchRow, journalOf tenant workflowId row = true →
        row.workflowId = workflowId := by
      intro row hrow
      simp only [journalOf, Bool.and_eq_true, decide_eq_true_eq] at hrow
      exact hrow.2
    exact Table.find_update_other hfixed hother
  unfold Tables.view Tables.setDispatch
  simp only [hfind]

/-! ### Refinement -/

/-- One workflow gets a new view and every other keeps its own. -/
structure Moves (tables final : Tables) (workflowId : String) (view : View) : Prop where
  self : final.view workflowId = view
  others : ∀ other, other ≠ workflowId → final.view other = tables.view other

/-- Every workflow makes a chain of transitions. -/
def Refines (platform : Platform) (tables final : Tables) : Prop :=
  ∀ workflowId, ReflTransGen (Step platform workflowId) (tables.view workflowId)
    (final.view workflowId)

theorem Refines.refl (tables : Tables) : Refines platform tables tables :=
  fun _ => ReflTransGen.refl

theorem Moves.refines {view : View} (h : Moves tables final workflowId view)
    (hstep : Step platform workflowId (tables.view workflowId) view) :
    Refines platform tables final := by
  intro other
  by_cases hother : other = workflowId
  · subst hother
    rw [h.self]
    exact ReflTransGen.single hstep
  · rw [h.others other hother]

/-! ### The operations -/

theorem objectText_of_canonicalJson {fields : List (String × Json)} {text : String}
    (h : canonicalJson (.obj fields) = .ok text) : ObjectText text :=
  ⟨_, loads_dumps (canonicalJson_ok h)⟩

/-- A claim starts a ready workflow. -/
theorem claim_ok {owner : String} {leaseSeconds fence : Int} {now : DateTime}
    (h : claim tenant workflowId owner leaseSeconds now tables = .ok (fence, final)) :
    ∃ row expiry, (tables.view workflowId).row = some row ∧ row.tenant = tenant ∧
      row.state = .ready ∧ fence = row.fence + 1 ∧
      Moves tables final workflowId
        ((tables.view workflowId).moved (row.claimed owner expiry) (.state .running)) := by
  unfold claim identifier selectWorkflow updateWorkflow event at h
  simp only [require_bind_ok, lift_bind_ok, query_bind_ok] at h
  obtain ⟨-, -, current, -, expiry, -, h⟩ := h
  cases hfound : tables.workflows.fetchone (ownedBy tenant workflowId) with
  | none => simp only [hfound, fail_ok] at h
  | some row =>
      simp only [hfound, require_bind_ok, lift_bind_ok, write_bind_ok, pure_ok,
        decide_eq_true_eq] at h
      obtain ⟨hstate, -, -, -, -, hfence, rfl⟩ := h
      obtain ⟨hrow, htenant, hid⟩ := fetchone_owned hfound
      exact ⟨row, expiry, hrow, htenant, hstate, hfence.symm,
        view_moved hrow htenant hid rfl rfl rfl, fun other hother => view_moved_other hother⟩

/-- A held lease: the workflow runs for this owner under this fence, and the
lease has not run out. -/
theorem requireLease_bind_ok {owner : String} {fence : Int} {now : DateTime} {α : Type}
    {rest : Unit → Tx α} {result : α}
    (h : (requireLease tenant workflowId owner fence now >>= rest) tables = .ok (result, final)) :
    ∃ row, (tables.view workflowId).row = some row ∧ row.tenant = tenant ∧
      row.id = workflowId ∧ row.state = .running ∧ row.owner = some owner ∧ row.fence = fence ∧
      leaseExpired row.leaseUntil now = .ok false ∧ rest () tables = .ok (result, final) := by
  rw [bind_ok] at h
  obtain ⟨_, middle, hlease, hrest⟩ := h
  unfold requireLease selectWorkflow at hlease
  simp only [query_bind_ok] at hlease
  cases hfound : tables.workflows.fetchone (ownedBy tenant workflowId) with
  | none => simp only [hfound, fail_ok] at hlease
  | some row =>
      simp only [hfound, require_bind_ok, lift_bind_ok, require_ok, Bool.and_eq_true,
        decide_eq_true_eq, Bool.not_eq_true'] at hlease
      obtain ⟨⟨⟨hstate, howner⟩, hfence⟩, expired, hexpired, hlive, rfl⟩ := hlease
      obtain ⟨hrow, htenant, hid⟩ := fetchone_owned hfound
      rw [hlive] at hexpired
      exact ⟨row, hrow, htenant, hid, hstate, howner, hfence, hexpired, hrest⟩

/-- A dispatch opens the journal of a running workflow. -/
theorem beginDispatch_ok {owner : String} {fence : Int} {budget : List (String × Json)}
    {now : DateTime}
    (h : beginDispatch tenant workflowId owner fence budget now tables = .ok ((), final)) :
    ∃ row encoded, (tables.view workflowId).row = some row ∧ row.tenant = tenant ∧
      row.state = .running ∧ row.owner = some owner ∧ row.fence = fence ∧
      (tables.view workflowId).dispatch = none ∧
      Moves tables final workflowId
        { (tables.view workflowId).moved row .dispatchStarted with
          dispatch := some ⟨row.id, row.tenant, row.fence, encoded, none, none, none⟩ } := by
  unfold beginDispatch event at h
  simp only [lift_bind_ok] at h
  obtain ⟨encoded, -, h⟩ := h
  obtain ⟨row, hrow, htenant, hid, hstate, howner, hfence, -, h⟩ := requireLease_bind_ok h
  simp only [query_bind_ok, require_bind_ok, attempt_bind_ok, write_ok] at h
  obtain ⟨-, next, hadd, rfl⟩ := h
  have hnone : (tables.view workflowId).dispatch = none := by
    unfold Tables.addDispatch at hadd
    obtain ⟨_, hinsert, -⟩ := Option.map_eq_some_iff.mp hadd
    exact Table.insert_fresh hinsert
  have hview := view_addDispatch hadd
  have hrow' : (next.view workflowId).row = some row := by rw [hview, hrow]
  refine ⟨row, encoded, hrow, htenant, hstate, howner, hfence, hnone, ?_, ?_⟩
  · rw [view_marked hrow' htenant hid hfence, hview]
    simp only [if_true, View.moved, htenant, hid, hfence]
  · intro other hother
    rw [view_marked_other hother, hview]
    simp only [Ne.symm hother, if_false]

/-- A recorded outcome closes the open journal of a running workflow, or repeats
the recorded one. -/
theorem recordOutcome_ok {owner : String} {fence : Int} {result : List (String × Json)}
    {succeeded : Bool} {now : DateTime}
    (h : recordOutcome platform tenant workflowId owner fence result succeeded now tables =
      .ok ((), final)) :
    ∃ row journal encoded, (tables.view workflowId).row = some row ∧ row.tenant = tenant ∧
      row.state = .running ∧ row.owner = some owner ∧ row.fence = fence ∧
      (tables.view workflowId).dispatch = some journal ∧ journal.fence = fence ∧
      canonicalJson (.obj result) = .ok encoded ∧
      ((journal.Holds encoded succeeded ∧ final = tables) ∨
        (journal.outcomeJson = none ∧
          Moves tables final workflowId
            { (tables.view workflowId).moved row .outcomeRecorded with
              dispatch := some (journal.recorded platform encoded succeeded) })) := by
  unfold recordOutcome selectDispatch event at h
  simp only [lift_bind_ok] at h
  obtain ⟨encoded, hencoded, h⟩ := h
  obtain ⟨row, hrow, htenant, hid, hstate, howner, hfence, -, h⟩ := requireLease_bind_ok h
  simp only [query_bind_ok] at h
  cases hfound : tables.dispatches.fetchone (journalOf tenant workflowId) with
  | none => simp only [hfound, fail_ok] at h
  | some journal =>
      obtain ⟨hjournal, hjtenant⟩ := fetchone_journal_some hfound
      simp only [hfound, require_bind_ok, decide_eq_true_eq] at h
      obtain ⟨hjfence, h⟩ := h
      refine ⟨row, journal, encoded, hrow, htenant, hstate, howner, hfence, hjournal, hjfence,
        hencoded, ?_⟩
      cases houtcome : journal.outcomeJson with
      | some outcome =>
          simp only [houtcome, require_ok, Bool.and_eq_true, decide_eq_true_eq] at h
          obtain ⟨⟨⟨rfl, hsucceeded⟩, -⟩, rfl⟩ := h
          exact Or.inl ⟨⟨houtcome, hsucceeded⟩, rfl⟩
      | none =>
          simp only [houtcome, write_bind_ok, write_ok] at h
          subst h
          refine Or.inr ⟨rfl, ?_, ?_⟩
          · rw [view_marked (by rw [view_setDispatch hjournal hjtenant]; exact hrow) htenant hid
              hfence, view_setDispatch hjournal hjtenant]
            rfl
          · intro other hother
            rw [view_marked_other hother, view_setDispatch_other hother]

/-- A commit stores one artifact and moves the row to the state its flag names. -/
theorem commitResult_ok {row : WorkflowRow} {fence : Int} {encoded uuid4 : String}
    {succeeded : Bool} {ref : ArtifactRef}
    (h : commitResult platform tenant workflowId fence encoded succeeded uuid4 tables =
      .ok (ref, final))
    (hrow : (tables.view workflowId).row = some row) (htenant : row.tenant = tenant)
    (hid : row.id = workflowId) (hfence : row.fence = fence) :
    ref = (row.artifact platform encoded uuid4).ref ∧
      Moves tables final workflowId
        { (tables.view workflowId).moved (row.committed encoded succeeded uuid4)
            (.state (resultState succeeded)) with
          artifacts := (tables.view workflowId).artifacts ++
            [row.artifact platform encoded uuid4] } := by
  unfold commitResult updateWorkflow event at h
  simp only [attempt_bind_ok, write_bind_ok, pure_ok] at h
  obtain ⟨next, hadd, rfl, rfl⟩ := h
  have hview := view_addArtifact hadd
  have hrow' : (next.view workflowId).row = some row := by rw [hview, hrow]
  refine ⟨?_, ?_, ?_⟩
  · rw [← hid]
    rfl
  · have hmoved : (row.committed encoded succeeded uuid4).fence = fence := hfence
    rw [view_moved hrow' htenant hid rfl rfl hmoved, hview]
    simp only [if_true, View.moved, WorkflowRow.artifact, WorkflowRow.committed, htenant, hid]
  · intro other hother
    rw [view_moved_other hother, hview]
    simp only [Ne.symm hother, if_false, List.append_nil]

/-- A completion commits the result of a running workflow, which its journal, if
there is one, must hold. -/
theorem complete_ok {owner uuid4 : String} {fence : Int} {result : List (String × Json)}
    {succeeded : Bool} {now : DateTime} {ref : ArtifactRef}
    (h : complete platform tenant workflowId owner fence result succeeded now uuid4 tables =
      .ok (ref, final)) :
    ∃ row encoded, (tables.view workflowId).row = some row ∧ row.tenant = tenant ∧
      row.state = .running ∧ row.owner = some owner ∧ row.fence = fence ∧
      canonicalJson (.obj result) = .ok encoded ∧
      (∀ journal ∈ (tables.view workflowId).dispatch, journal.tenant = row.tenant →
        journal.Holds encoded succeeded) ∧
      ref = (row.artifact platform encoded uuid4).ref ∧
      Moves tables final workflowId
        { (tables.view workflowId).moved (row.committed encoded succeeded uuid4)
            (.state (resultState succeeded)) with
          artifacts := (tables.view workflowId).artifacts ++
            [row.artifact platform encoded uuid4] } := by
  unfold complete selectDispatch at h
  simp only [lift_bind_ok] at h
  obtain ⟨encoded, hencoded, h⟩ := h
  obtain ⟨row, hrow, htenant, hid, hstate, howner, hfence, -, h⟩ := requireLease_bind_ok h
  simp only [query_bind_ok] at h
  have hholds : (∀ journal ∈ (tables.view workflowId).dispatch, journal.tenant = row.tenant →
      journal.Holds encoded succeeded) ∧
      commitResult platform tenant workflowId fence encoded succeeded uuid4 tables =
        .ok (ref, final) := by
    cases hfound : tables.dispatches.fetchone (journalOf tenant workflowId) with
    | none =>
        simp only [hfound] at h
        refine ⟨?_, h⟩
        intro journal hjournal hjtenant
        rw [fetchone_journal, Option.mem_def.mp hjournal] at hfound
        simp [Option.filter, hjtenant, htenant] at hfound
    | some journal =>
        obtain ⟨hjournal, -⟩ := fetchone_journal_some hfound
        simp only [hfound, require_bind_ok, Bool.and_eq_true, decide_eq_true_eq] at h
        obtain ⟨⟨⟨⟨houtcome, hsucceeded⟩, -⟩, -⟩, h⟩ := h
        refine ⟨?_, h⟩
        intro other hother _
        rw [hjournal, Option.mem_some_iff] at hother
        exact hother ▸ ⟨houtcome, hsucceeded⟩
  obtain ⟨href, hmoves⟩ := commitResult_ok hholds.2 hrow htenant hid hfence
  exact ⟨row, encoded, hrow, htenant, hstate, howner, hfence, hencoded, hholds.1, href, hmoves⟩

/-- The evidence a commit out of recovery rests on. -/
structure Evidence (platform : Platform) (journal : DispatchRow) (encoded : String)
    (fence : Int) : Prop where
  outcome : journal.outcomeJson = some encoded
  fence : journal.fence + 1 = fence
  digest : journal.outcomeSha256 = some (platform.sha256 encoded)
  flag : journal.succeeded = some 0 ∨ journal.succeeded = some 1
  object : ObjectText encoded

theorem objectText_iff {text : String} :
    ObjectText text ↔ ∃ value, loadsJson text = .ok value ∧ isObject value = true := by
  unfold ObjectText loadsJson
  cases loads text with
  | none => simp
  | some value =>
      cases value with
      | obj fields => simp [isObject]
      | null | bool _ | int _ | float _ | str _ | arr _ => simp [isObject]

theorem Evidence.holds {journal : DispatchRow} {encoded : String} {fence : Int}
    (h : Evidence platform journal encoded fence) :
    journal.Holds encoded (decide (journal.succeeded = some 1)) := by
  refine ⟨h.outcome, ?_⟩
  rcases h.flag with hflag | hflag
  · rw [hflag]
    rfl
  · rw [hflag]
    rfl

theorem outcomeEvidence_iff {journal : DispatchRow} {encoded : String} {fence : Int}
    (houtcome : journal.outcomeJson = some encoded) :
    outcomeEvidence platform journal encoded fence = .ok true ↔
      Evidence platform journal encoded fence := by
  unfold outcomeEvidence
  constructor
  · intro h
    split_ifs at h with hfence hdigest hflag
    · cases h
    · cases h
    · cases h
    · cases hloads : loadsJson encoded with
      | error error =>
          rw [hloads] at h
          cases h
      | ok value =>
          rw [hloads] at h
          refine ⟨houtcome, not_not.mp hfence, (not_not.mp hdigest).symm, by tauto, ?_⟩
          exact objectText_iff.mpr ⟨value, hloads, Except.ok.inj h⟩
  · intro h
    obtain ⟨value, hloads, hobject⟩ := objectText_iff.mp h.object
    rw [if_neg (not_not.mpr h.fence), if_neg (not_not.mpr h.digest.symm),
      if_neg (by rcases h.flag with hflag | hflag <;> simp [hflag]), hloads]
    exact congrArg Except.ok hobject

/-- The two evidence tests agree. -/
theorem validEvidence_iff {journal : DispatchRow} {encoded : String} {fence : Int}
    (houtcome : journal.outcomeJson = some encoded) :
    validEvidence platform journal encoded fence = true ↔
      Evidence platform journal encoded fence := by
  unfold validEvidence
  constructor
  · intro h
    simp only [Bool.and_eq_true, Bool.or_eq_true, decide_eq_true_eq] at h
    obtain ⟨⟨⟨hfence, hdigest⟩, hflag⟩, hloads⟩ := h
    refine ⟨houtcome, hfence, hdigest.symm, hflag, ?_⟩
    cases hvalue : loadsJson encoded with
    | error error => simp [hvalue] at hloads
    | ok value =>
        rw [hvalue] at hloads
        exact objectText_iff.mpr ⟨value, hvalue, hloads⟩
  · intro h
    obtain ⟨value, hloads, hobject⟩ := objectText_iff.mp h.object
    simp [h.fence, h.digest, h.flag, hloads, hobject]

/-- A reconciliation reports the state of a workflow that is not uncertain or
has no recorded outcome, and commits a recorded one. -/
theorem reconcileUncertain_ok {uuid4 : String} {answer : WorkflowState}
    (h : reconcileUncertain platform tenant workflowId uuid4 tables = .ok (answer, final)) :
    ∃ row, (tables.view workflowId).row = some row ∧ row.tenant = tenant ∧
      ((final = tables ∧ answer = row.state ∧ (row.state = .uncertain →
          ∀ journal ∈ (tables.view workflowId).dispatch, journal.tenant = tenant →
            journal.outcomeJson = none)) ∨
        ∃ journal encoded, row.state = .uncertain ∧
          (tables.view workflowId).dispatch = some journal ∧ journal.tenant = tenant ∧
          Evidence platform journal encoded row.fence ∧
          answer = resultState (decide (journal.succeeded = some 1)) ∧
          Moves tables final workflowId
            { (tables.view workflowId).moved
                (row.committed encoded (decide (journal.succeeded = some 1)) uuid4)
                (.state (resultState (decide (journal.succeeded = some 1)))) with
              artifacts := (tables.view workflowId).artifacts ++
                [row.artifact platform encoded uuid4] }) := by
  unfold reconcileUncertain selectWorkflow selectDispatch at h
  simp only [query_bind_ok] at h
  cases hfound : tables.workflows.fetchone (ownedBy tenant workflowId) with
  | none => simp only [hfound, fail_ok] at h
  | some row =>
      obtain ⟨hrow, htenant, hid⟩ := fetchone_owned hfound
      refine ⟨row, hrow, htenant, ?_⟩
      simp only [hfound] at h
      by_cases hstate : row.state = .uncertain
      · simp only [hstate, ne_eq, not_true_eq_false, if_false, query_bind_ok] at h
        cases hjournal : tables.dispatches.fetchone (journalOf tenant workflowId) with
        | none =>
            simp only [hjournal, pure_ok] at h
            obtain ⟨rfl, rfl⟩ := h
            refine Or.inl ⟨rfl, hstate.symm, fun _ journal hmem hjtenant => ?_⟩
            rw [fetchone_journal, Option.mem_def.mp hmem] at hjournal
            simp [Option.filter, hjtenant] at hjournal
        | some journal =>
            obtain ⟨hdispatch, hjtenant⟩ := fetchone_journal_some hjournal
            simp only [hjournal] at h
            cases houtcome : journal.outcomeJson with
            | none =>
                simp only [houtcome, pure_ok] at h
                obtain ⟨rfl, rfl⟩ := h
                refine Or.inl ⟨rfl, hstate.symm, fun _ other hmem _ => ?_⟩
                rw [hdispatch, Option.mem_some_iff] at hmem
                exact hmem ▸ houtcome
            | some encoded =>
                simp only [houtcome, lift_bind_ok, require_bind_ok] at h
                obtain ⟨valid, hvalid, rfl, h⟩ := h
                rw [bind_ok] at h
                obtain ⟨ref, middle, hcommit, h⟩ := h
                obtain ⟨hanswer, rfl⟩ := pure_ok.mp h
                obtain ⟨-, hmoves⟩ := commitResult_ok hcommit hrow htenant hid rfl
                exact Or.inr ⟨journal, encoded, hstate, hdispatch, hjtenant,
                  (outcomeEvidence_iff houtcome).mp hvalid, hanswer.symm, hmoves⟩
      · simp only [ne_eq, hstate, not_false_eq_true, if_true, pure_ok] at h
        obtain ⟨rfl, rfl⟩ := h
        exact Or.inl ⟨rfl, rfl, fun hcontra => absurd hcontra hstate⟩

/-! ### Validation and cancellation -/

theorem getBinding_bind_ok {α : Type} {rest : Option Json → Tx α} {result : α}
    (h : (getBinding tenant workflowId >>= rest) tables = .ok (result, final)) :
    ∃ value, rest value tables = .ok (result, final) ∧
      ((value = none ∧ ∀ bound ∈ (tables.view workflowId).binding, bound.tenant ≠ tenant) ∨
        ∃ bound found, value = some found ∧ (tables.view workflowId).binding = some bound ∧
          bound.tenant = tenant ∧ loadsJson bound.bindingJson = .ok found) := by
  rw [bind_ok] at h
  obtain ⟨value, middle, hbinding, hrest⟩ := h
  have hfixed : ∀ row : BindingRow,
      (decide (row.tenant = tenant) && decide (row.workflowId = workflowId)) = true →
        row.workflowId = workflowId := by
    intro row hrow
    simp only [Bool.and_eq_true, decide_eq_true_eq] at hrow
    exact hrow.2
  unfold getBinding at hbinding
  simp only [query_bind_ok] at hbinding
  cases hfound : tables.bindings.fetchone (fun row =>
      decide (row.tenant = tenant) && decide (row.workflowId = workflowId)) with
  | none =>
      simp only [hfound, pure_ok] at hbinding
      obtain ⟨rfl, rfl⟩ := hbinding
      refine ⟨none, hrest, Or.inl ⟨rfl, fun bound hbound htenant => ?_⟩⟩
      have hfind : tables.bindings.find workflowId = some bound := hbound
      rw [Table.fetchone_of_key hfixed, hfind] at hfound
      simp [Option.filter, htenant, Table.find_key hfind] at hfound
  | some bound =>
      simp only [hfound, lift_bind_ok, pure_ok] at hbinding
      obtain ⟨found, hloads, rfl, rfl⟩ := hbinding
      rw [Table.fetchone_of_key hfixed, Option.filter_eq_some_iff] at hfound
      obtain ⟨hfind, htenant⟩ := hfound
      simp only [Bool.and_eq_true, decide_eq_true_eq] at htenant
      exact ⟨some found, hrest, Or.inr ⟨bound, found, rfl, hfind, htenant.1, hloads⟩⟩

theorem getArtifact_bind_ok {artifactId : Option String} {α : Type}
    {rest : Option (StoredArtifact platform) → Tx α} {result : α}
    (h : (getArtifact platform tenant workflowId artifactId >>= rest) tables =
      .ok (result, final)) :
    ∃ value, rest value tables = .ok (result, final) ∧
      ∀ artifact, value = some artifact → ∃ row ∈ (tables.view workflowId).artifacts,
        artifactId = some row.id ∧ artifact.ref = row.ref := by
  rw [bind_ok] at h
  obtain ⟨value, middle, hartifact, hrest⟩ := h
  unfold getArtifact selectArtifact at hartifact
  simp only [query_bind_ok] at hartifact
  cases hfound : tables.artifacts.fetchone (fun row => decide (row.tenant = tenant) &&
      decide (row.workflowId = workflowId) && decide (some row.id = artifactId)) with
  | none =>
      simp only [hfound, pure_ok] at hartifact
      obtain ⟨rfl, rfl⟩ := hartifact
      refine ⟨none, hrest, fun artifact hartifact => ?_⟩
      cases hartifact
  | some row =>
      simp only [hfound, lift_bind_ok, pure_ok] at hartifact
      obtain ⟨artifact, hnew, rfl, rfl⟩ := hartifact
      have hrow := List.find?_some hfound
      simp only [Bool.and_eq_true, decide_eq_true_eq] at hrow
      refine ⟨some artifact, hrest, fun found hsome => ?_⟩
      obtain rfl := Option.some.inj hsome
      refine ⟨row, ?_, hrow.2.symm, ?_⟩
      · exact List.mem_filter.mpr ⟨List.mem_of_find?_eq_some hfound, by simpa using hrow.1.2⟩
      · unfold StoredArtifact.new at hnew
        split_ifs at hnew
        split at hnew
        · obtain rfl := Except.ok.inj hnew
          rfl
        · cases hnew
        · cases hnew

/-- The snapshot of a validation is canonical or bound, and is the bound one
when there is a binding. -/
theorem validationSnapshot_ok {policy : Option ValidationPolicy} {snapshot : Json}
    {value : Option Json} (h : validationSnapshot value policy = .ok snapshot) :
    (value = none ∧ canon snapshot = snapshot) ∨
      ∃ found, value = some found ∧ subscript found "policy" = .ok snapshot := by
  unfold validationSnapshot at h
  cases value with
  | none =>
      cases policy with
      | none => cases h
      | some policy =>
          refine Or.inl ⟨rfl, ?_⟩
          rw [policySnapshot_ok h, canon_canon]
  | some found =>
      refine Or.inr ⟨found, rfl, ?_⟩
      cases policy with
      | none => exact h
      | some policy =>
          simp only [bind, Except.bind, pure, Except.pure, throw, throwThe,
            MonadExceptOf.throw] at h
          cases hsubscript : subscript found "policy" with
          | error error => simp [hsubscript] at h
          | ok inner =>
              cases hgiven : policySnapshot policy with
              | error error => simp [hsubscript, hgiven] at h
              | ok given =>
                  simp only [hsubscript, hgiven] at h
                  split_ifs at h
                  rw [Except.ok.inj h]

/-- A validation repeats the recorded report or records the decision on the one
artifact. -/
theorem validate_ok {policy : Option ValidationPolicy} {report : Json}
    (h : validate platform tenant workflowId policy tables = .ok (report, final)) :
    (final = tables ∧ ∃ previous, (tables.view workflowId).validation = some previous ∧
        loadsJson previous.reportJson = .ok report) ∨
      ∃ row artifact snapshot findings reportJson,
        (tables.view workflowId).row = some row ∧ row.tenant = tenant ∧
        row.state = .awaitingValidation ∧ artifact ∈ (tables.view workflowId).artifacts ∧
        row.resultArtifactId = some artifact.id ∧
        (canon snapshot = snapshot ∨
          ∃ bound ∈ (tables.view workflowId).binding, bound.Policy snapshot) ∧
        (∀ bound ∈ (tables.view workflowId).binding, bound.tenant = row.tenant →
          bound.Policy snapshot) ∧
        report = reportDict artifact.ref snapshot findings ∧
        dumps report = some reportJson ∧
        Moves tables final workflowId
          { (tables.view workflowId).moved (row.decided findings.isEmpty)
              (.state (row.decided findings.isEmpty).state) with
            validation := some ⟨row.id, row.tenant, reportJson⟩ } := by
  unfold validate at h
  obtain ⟨value, h, hbinding⟩ := getBinding_bind_ok h
  simp only [lift_bind_ok] at h
  obtain ⟨snapshot, hsnapshot, h⟩ := h
  unfold selectWorkflow at h
  simp only [query_bind_ok] at h
  cases hfound : tables.workflows.fetchone (ownedBy tenant workflowId) with
  | none => simp only [hfound, fail_ok] at h
  | some row =>
      obtain ⟨hrow, htenant, hid⟩ := fetchone_owned hfound
      simp only [hfound, query_bind_ok] at h
      obtain ⟨stored, h, hstored⟩ := getArtifact_bind_ok h
      cases stored with
      | none => simp only [fail_ok] at h
      | some stored =>
          obtain ⟨artifact, hmem, hnamed, href⟩ := hstored stored rfl
          simp only at h
          have hfixed : ∀ row : ValidationRow,
              (decide (row.tenant = tenant) && decide (row.workflowId = workflowId)) = true →
                row.workflowId = workflowId := by
            intro row hrow
            simp only [Bool.and_eq_true, decide_eq_true_eq] at hrow
            exact hrow.2
          cases hprevious : tables.validations.fetchone (fun row =>
              decide (row.tenant = tenant) && decide (row.workflowId = workflowId)) with
          | some previous =>
              simp only [hprevious, lift_bind_ok, require_bind_ok, pure_ok] at h
              obtain ⟨found, hloads, same, -, -, rfl, rfl⟩ := h
              rw [Table.fetchone_of_key hfixed, Option.filter_eq_some_iff] at hprevious
              exact Or.inl ⟨rfl, previous, hprevious.1, hloads⟩
          | none =>
              unfold updateWorkflow event at h
              simp only [hprevious, lift_bind_ok, require_bind_ok, attempt_bind_ok,
                write_bind_ok, pure_ok, decide_eq_true_eq] at h
              obtain ⟨hstate, found, hvalidate, decision, hdecision, reportJson, hjson, next,
                hadd, rfl, rfl⟩ := h
              obtain ⟨findings, hreport⟩ := validateArtifact_ok hvalidate
              have hview := view_addValidation hadd
              have hrow' : (next.view workflowId).row = some row := by rw [hview, hrow]
              have hdecided : (if decision = .str "accepted" then WorkflowState.succeeded
                  else .rejected) = (row.decided findings.isEmpty).state := by
                have hvalue : decision =
                    .str (if findings.isEmpty then "accepted" else "rejected") := by
                  rw [hreport] at hdecision
                  exact (Except.ok.inj hdecision).symm
                unfold WorkflowRow.decided
                rw [hvalue]
                cases findings.isEmpty with
                | true => rfl
                | false => rfl
              refine Or.inr ⟨row, artifact, snapshot, findings, reportJson, hrow, htenant,
                hstate, hmem, hnamed, ?_, ?_, by rw [hreport, href], canonicalJson_ok hjson,
                ?_, ?_⟩
              · rcases validationSnapshot_ok hsnapshot with ⟨-, hcanon⟩ | ⟨inner, rfl, hinner⟩
                · exact Or.inl hcanon
                · rcases hbinding with ⟨hnone, -⟩ | ⟨bound, found, hsome, hbound, -, hloads⟩
                  · cases hnone
                  · obtain rfl := Option.some.inj hsome
                    exact Or.inr ⟨bound, hbound, inner, hloads, hinner⟩
              · intro bound hbound hbtenant
                rcases hbinding with ⟨-, hnone⟩ | ⟨other, found, hsome, hother, -, hloads⟩
                · exact absurd (hbtenant.trans htenant) (hnone bound hbound)
                · rw [hother, Option.mem_some_iff] at hbound
                  subst hbound
                  rcases validationSnapshot_ok hsnapshot with ⟨hnone, -⟩ | ⟨inner, hinner, hpolicy⟩
                  · rw [hnone] at hsome
                    cases hsome
                  · rw [hsome, Option.some.injEq] at hinner
                    subst hinner
                    exact ⟨found, hloads, hpolicy⟩
              · have hfence : (row.decided findings.isEmpty).fence = row.fence := rfl
                rw [hdecided, view_moved hrow' htenant hid rfl rfl hfence, hview]
                simp only [if_true, View.moved, WorkflowRow.decided, htenant, hid]
              · intro other hother
                rw [view_moved_other hother, hview]
                simp only [Ne.symm hother, if_false]

/-- A cancellation changes nothing, or ends a workflow that has no decision and
no uncertain outcome. -/
theorem cancel_ok {answer : Bool}
    (h : cancel tenant workflowId tables = .ok (answer, final)) :
    final = tables ∨ ∃ row, (tables.view workflowId).row = some row ∧ row.tenant = tenant ∧
      (row.state = .ready ∨ row.state = .running ∨ row.state = .awaitingValidation) ∧
      Moves tables final workflowId
        ((tables.view workflowId).moved row.cancelled (.state .cancelled)) := by
  unfold cancel selectWorkflow updateWorkflow event at h
  simp only [query_bind_ok] at h
  cases hfound : tables.workflows.fetchone (ownedBy tenant workflowId) with
  | none =>
      simp only [hfound, pure_ok] at h
      exact Or.inl h.2.symm
  | some row =>
      obtain ⟨hrow, htenant, hid⟩ := fetchone_owned hfound
      have hcancelled : ∀ final, Tables.log tenant workflowId (.state .cancelled) (row.fence + 1)
          (tables.setWorkflow tenant workflowId (fun found => { found with
            state := .cancelled, fence := row.fence + 1, owner := none, leaseUntil := none })
            fun _ => rfl) = final → Moves tables final workflowId
              ((tables.view workflowId).moved row.cancelled (.state .cancelled)) := by
        rintro _ rfl
        exact ⟨view_moved hrow htenant hid rfl rfl rfl, fun _ hother => view_moved_other hother⟩
      cases hstate : row.state with
      | cancelled | uncertain | failed | succeeded | rejected =>
          simp only [hfound, hstate, pure_ok] at h
          exact Or.inl h.2.symm
      | ready =>
          simp only [hfound, hstate, write_bind_ok, pure_ok] at h
          exact Or.inr ⟨row, hrow, htenant, Or.inl hstate, hcancelled _ h.2⟩
      | running =>
          simp only [hfound, hstate, write_bind_ok, pure_ok] at h
          exact Or.inr ⟨row, hrow, htenant, Or.inr (Or.inl hstate), hcancelled _ h.2⟩
      | awaitingValidation =>
          simp only [hfound, hstate, write_bind_ok, pure_ok] at h
          exact Or.inr ⟨row, hrow, htenant, Or.inr (Or.inr hstate), hcancelled _ h.2⟩

/-! ### Creation -/

/-- The row `create` inserts. -/
def freshRow (workflowId tenant key digest encoded : String) : WorkflowRow :=
  ⟨workflowId, tenant, key, digest, encoded, .ready, 0, none, none, none, none⟩

/-- The binding of a workflow after the insertion of an optional row. -/
def bindingAfter (inserted : Option BindingRow) (workflowId : String)
    (binding : Option BindingRow) : Option BindingRow :=
  match inserted with
  | none => binding
  | some row => if row.workflowId = workflowId then some row else binding

theorem insertBinding_bind_ok {inserted : Option BindingRow} {α : Type} {rest : Unit → Tx α}
    {result : α}
    (h : (insertBinding inserted >>= rest) tables = .ok (result, final)) :
    ∃ next, rest () next = .ok (result, final) ∧
      ∀ other, next.view other = { tables.view other with
        binding := bindingAfter inserted other (tables.view other).binding } := by
  cases inserted with
  | none =>
      rw [bind_ok] at h
      obtain ⟨_, next, hpure, hrest⟩ := h
      obtain ⟨-, rfl⟩ := pure_ok.mp hpure
      exact ⟨tables, hrest, fun other => rfl⟩
  | some row =>
      simp only [insertBinding, attempt_bind_ok] at h
      obtain ⟨next, hadd, hrest⟩ := h
      exact ⟨next, hrest, view_addBinding hadd⟩

/-- A creation finds the workflow of its key or starts a new one. -/
theorem create_ok {key uuid4 answer : String} {packet : TaskPacket}
    {binding : Option (List (String × Json))}
    (h : create platform tenant key packet binding uuid4 tables = .ok (answer, final)) :
    final = tables ∨ ∃ digest encoded bound, answer = uuid4 ∧
      (tables.view uuid4).row = none ∧
      (∀ row ∈ bound, row ∈ (tables.view uuid4).binding ∨
        (row.tenant = tenant ∧ ∃ fields, dumps (.obj fields) = some row.bindingJson)) ∧
      Moves tables final uuid4
        { (tables.view uuid4).moved (freshRow uuid4 tenant key digest encoded) (.state .ready)
          with
          binding := bound } := by
  unfold create identifier event at h
  simp only [require_bind_ok, lift_bind_ok, query_bind_ok] at h
  obtain ⟨-, -, dict, -, validated, -, value, -, encoded, -, text, htext, hashed, -, h⟩ := h
  cases hfound : tables.workflows.fetchone (fun row =>
      decide (row.tenant = tenant) && decide (row.idempotencyKey = key)) with
  | some row =>
      simp only [hfound, require_bind_ok, pure_ok] at h
      exact Or.inl h.2.2.symm
  | none =>
      simp only [hfound, attempt_bind_ok] at h
      obtain ⟨next, hadd, h⟩ := h
      obtain ⟨middle, hrest, hbound⟩ := insertBinding_bind_ok h
      simp only [write_bind_ok, pure_ok] at hrest
      obtain ⟨rfl, rfl⟩ := hrest
      have hview := view_addWorkflow hadd
      have hnone : (tables.view uuid4).row = none := by
        unfold Tables.addWorkflow at hadd
        obtain ⟨_, hinsert, -⟩ := Option.map_eq_some_iff.mp hadd
        exact Table.insert_fresh hinsert
      have hrow : (middle.view uuid4).row =
          some (freshRow uuid4 tenant key (platform.sha256 hashed) encoded) := by
        rw [hbound, hview]
        simp only [if_true]
        rfl
      refine Or.inr ⟨platform.sha256 hashed, encoded, (middle.view uuid4).binding, rfl, hnone,
        ?_, ?_, ?_⟩
      · intro row hrow
        rw [hbound, hview] at hrow
        cases text with
        | none => exact Or.inl hrow
        | some bound =>
            have hrow' : (⟨uuid4, tenant, bound⟩ : BindingRow) = row := by
              simpa only [Option.map_some, bindingAfter, if_true, Option.mem_some_iff] using hrow
            subst hrow'
            refine Or.inr ⟨rfl, ?_⟩
            cases binding with
            | none => cases htext
            | some fields =>
                refine ⟨fields, canonicalJson_ok ?_⟩
                change Except.map some (canonicalJson (.obj fields)) = _ at htext
                cases hcanon : canonicalJson (.obj fields) with
                | error error =>
                    rw [hcanon] at htext
                    cases htext
                | ok found =>
                    rw [hcanon] at htext
                    exact congrArg Except.ok (Option.some.inj (Except.ok.inj htext))
      · have htenant : (freshRow uuid4 tenant key (platform.sha256 hashed) encoded).tenant =
            tenant := rfl
        have hid : (freshRow uuid4 tenant key (platform.sha256 hashed) encoded).id = uuid4 := rfl
        have hfence : (freshRow uuid4 tenant key (platform.sha256 hashed) encoded).fence = 0 := rfl
        rw [view_marked hrow htenant hid hfence, hbound, hview]
        simp only [View.moved, freshRow]
      · intro other hother
        rw [view_marked_other hother, hbound, hview]
        cases text with
        | none => simp only [Option.map_none, bindingAfter, Ne.symm hother, if_false]
        | some bound => simp only [Option.map_some, bindingAfter, Ne.symm hother, if_false]

end Workflows
end Ryuk
