import Ryuk.Context.Indistinguishable
import Ryuk.Foundation.Numbering

/-!
# Integrity of conversations

The writers check what they attach, so the readers never find a reason to refuse:
in every reachable store the entries of a conversation are numbered in the order
they were appended, and each attaches a source that belongs to the conversation.
-/

namespace Ryuk
namespace Context

open Foundation Foundation.Numbering Foundation.Transaction Inference

/-- The entries of a conversation, in the order they were appended. -/
def entriesOf (tenantId conversationId : String) (tables : ContextTables) : List EntryRow :=
  tables.entries.select fun row =>
    decide (row.tenantId = tenantId) && decide (row.conversationId = conversationId)

/-- What a source that is attached to a conversation has in common with it. -/
structure Belongs (conversation : ConversationRow) (row : SourceRow) : Prop where
  tenant : row.tenantId = conversation.tenantId
  project : row.projectId = conversation.projectId
  shared : conversation.scope = .project → row.scope = .project
  owned : conversation.scope ≠ .project → row.scope = .project ∨ row.ownerId = conversation.ownerId

/-- An entry attaches a stored source to a stored conversation, to which it belongs. -/
def EntryRow.Attaches (tables : ContextTables) (entry : EntryRow) : Prop :=
  ∃ conversation row, tables.conversations.find entry.conversationKey = some conversation ∧
    tables.sources.find entry.sourceKey = some row ∧ Belongs conversation row

/-- What every reachable store keeps. -/
structure ContextTables.Integrity (platform : Platform) (tables : ContextTables) : Prop where
  numbered : ∀ tenantId conversationId,
    Numbered EntryRow.sequence (entriesOf tenantId conversationId tables)
  attaches : ∀ entry ∈ tables.entries.rows, entry.Attaches tables
  sound : ∀ row ∈ tables.sources.rows, row.Sound platform

section Integrity

variable {platform : Platform} {actor : ContextPrincipal} {tables next : ContextTables}
  {conversationId : String} {conversation : ConversationRow} {row : SourceRow}

theorem integrity_empty : ContextTables.Integrity platform ContextTables.empty :=
  ⟨fun _ _ => numbered_nil, fun _ h => (List.not_mem_nil h).elim,
    fun _ h => (List.not_mem_nil h).elim⟩

theorem Opened.tenant (h : Opened actor conversationId tables conversation) :
    conversation.tenantId = actor.tenantId := by
  have hkey : conversation.key = (actor.tenantId, conversationId) := Table.find_key h.stored
  exact congrArg Prod.fst hkey

/-- A source that may be seen in a conversation belongs to it. -/
theorem belongs_of_visible (h : Opened actor conversationId tables conversation)
    (hvisible : visibleIn conversation actor row = true) : Belongs conversation row := by
  have haccessible := accessible_of_visible hvisible
  refine ⟨haccessible.tenant.trans h.tenant.symm, haccessible.project, haccessible.shared,
    fun hscope => ?_⟩
  -- who opens a conversation that is not of the project owns it
  have howner : conversation.ownerId = actor.userId := by
    have hallowed := h.allowed
    unfold conversationAllowed allowed at hallowed
    split_ifs at hallowed
    cases hcase : conversation.scope with
    | project => exact absurd hcase hscope
    | user =>
        rw [hcase] at hallowed
        exact of_decide_eq_true hallowed
  rw [howner]
  exact haccessible.owner

/-- Stored rows stay, so an entry attaches what it attached. -/
theorem EntryRow.Attaches.extends {entry : EntryRow} (h : entry.Attaches tables)
    (hextends : tables.Extends next) : entry.Attaches next := by
  obtain ⟨conversation, row, hconversation, hrow, hbelongs⟩ := h
  exact ⟨conversation, row, hextends.conversations _ _ hconversation, hextends.sources _ _ hrow,
    hbelongs⟩

theorem addConversation_integrity {conversation : ConversationRow}
    (h : tables.Integrity platform) (hadd : tables.addConversation conversation = some next) :
    next.Integrity platform := by
  have hextends := addConversation_extends hadd
  obtain ⟨-, hsources, hentries⟩ := addConversation_ok hadd
  refine ⟨fun tenantId conversationId => ?_, fun entry hentry => ?_, fun row hrow => ?_⟩
  · unfold entriesOf
    rw [hentries]
    exact h.numbered tenantId conversationId
  · rw [hentries] at hentry
    exact (h.attaches entry hentry).extends hextends
  · rw [hsources] at hrow
    exact h.sound row hrow

theorem addSource_integrity (h : tables.Integrity platform) (hsound : row.Sound platform)
    (hadd : tables.addSource row = some next) : next.Integrity platform := by
  have hextends := addSource_extends hadd
  obtain ⟨-, hinsert, -, hentries⟩ := addSource_ok hadd
  refine ⟨fun tenantId conversationId => ?_, fun entry hentry => ?_, fun other hother => ?_⟩
  · unfold entriesOf
    rw [hentries]
    exact h.numbered tenantId conversationId
  · rw [hentries] at hentry
    exact (h.attaches entry hentry).extends hextends
  · rcases (Table.mem_insert hinsert).mp hother with hold | rfl
    · exact h.sound other hold
    · exact hsound

/-- An entry with the next number for a source that belongs to the conversation. -/
theorem addEntry_integrity {createdAt : String} (h : tables.Integrity platform)
    (hopened : Opened actor conversationId tables conversation)
    (hrow : tables.sources.find (actor.tenantId, row.sourceId, row.revision) = some row)
    (hvisible : visibleIn conversation actor row = true)
    (hadd : tables.addEntry (row.entryIn actor conversationId createdAt tables) = some next) :
    next.Integrity platform := by
  have hextends := addEntry_extends hadd
  obtain ⟨-, hinsert, -, hsources⟩ := addEntry_ok hadd
  refine ⟨fun tenantId other => ?_, fun entry hentry => ?_, fun other hother => ?_⟩
  · unfold entriesOf
    rw [Table.select_insert hinsert]
    split_ifs with hhere
    · rw [Bool.and_eq_true, decide_eq_true_eq, decide_eq_true_eq] at hhere
      obtain ⟨rfl, rfl⟩ := hhere
      apply (h.numbered _ _).append
      exact (h.numbered _ _).next
    · rw [List.append_nil]
      exact h.numbered tenantId other
  · rcases (Table.mem_insert hinsert).mp hentry with hold | rfl
    · exact (h.attaches entry hold).extends hextends
    · exact ⟨conversation, row, hextends.conversations _ _ hopened.stored,
        hextends.sources _ _ hrow, belongs_of_visible hopened hvisible⟩
  · rw [hsources] at hother
    exact h.sound other hother

theorem Opened.extends (h : Opened actor conversationId tables conversation)
    (hextends : tables.Extends next) : Opened actor conversationId next conversation :=
  ⟨hextends.conversations _ _ h.stored, h.allowed⟩

/-- **Step lemma.** -/
theorem next_integrity (h : tables.Integrity platform) (call : ContextCall) :
    ((contextStore platform).next tables call).Integrity platform := by
  cases @next_effect platform tables call with
  | unchanged hsame =>
      rw [hsame]
      exact h
  | conversation row hadd => exact addConversation_integrity h hadd
  | source row hsound hadd => exact addSource_integrity h hsound hadd
  | message actor conversationId createdAt conversation row middle hopened hsound htenant hvisible
      hadd hentry =>
      have hextends := addSource_extends hadd
      have hrow : middle.sources.find (actor.tenantId, row.sourceId, row.revision) = some row := by
        rw [← htenant]
        show middle.sources.find row.key = some row
        rw [Table.find_insert (addSource_ok hadd).2.1, if_pos rfl]
      exact addEntry_integrity (addSource_integrity h hsound hadd) (hopened.extends hextends) hrow
        hvisible hentry
  | attached actor conversationId createdAt conversation row hopened hrow hvisible hentry =>
      exact addEntry_integrity h hopened hrow hvisible hentry

/-- **Run lemma.** -/
theorem reachable_integrity (h : (contextStore platform).Reachable ContextTables.empty tables) :
    tables.Integrity platform :=
  h.invariant (fun (state : ContextTables) call (hstate : state.Integrity platform) =>
    next_integrity hstate call) integrity_empty

/-! ### Reading -/

/-- Who may open a conversation and is a member of its project may see what belongs
to it. -/
theorem visible_of_belongs (h : Opened actor conversationId tables conversation)
    (hmember : conversation.projectId ∈ actor.projectIds) (hbelongs : Belongs conversation row) :
    visibleIn conversation actor row = true := by
  have hallowed := h.allowed
  unfold conversationAllowed allowed at hallowed
  unfold visibleIn sourceAllowed allowed
  rw [hbelongs.tenant, hbelongs.project, h.tenant]
  split_ifs at hallowed
  cases hrow : row.scope with
  | project => simpa using hmember
  | user =>
      cases hconversation : conversation.scope with
      | project =>
          rw [hbelongs.shared hconversation] at hrow
          cases hrow
      | user =>
          -- a source of the user in a conversation of the user
          rw [hconversation] at hallowed
          have howner : row.ownerId = conversation.ownerId := by
            rcases hbelongs.owned (by rw [hconversation]; simp) with hproject | howner
            · rw [hrow] at hproject
              cases hproject
            · exact howner
          rw [howner]
          simpa using hallowed

/-- A segment is what a read makes of a selected source. -/
def Reads (platform : Platform) (actor : ContextPrincipal) (tables : ContextTables)
    (selection : Selection) (segment : ContextSegment) : Prop :=
  ∃ row, tables.sources.find (actor.tenantId, selection.sourceId, selection.revision) = some row ∧
    asSegment platform row selection.required selection.priority = .ok segment

theorem readSegments_iff {selections : List Selection} {segments : List ContextSegment}
    {final : ContextTables} :
    readSegments platform actor selections tables = .ok (segments, final) ↔
      final = tables ∧ List.Forall₂ (Reads platform actor tables) selections segments := by
  induction selections generalizing segments final with
  | nil =>
      rw [List.forall₂_nil_left_iff, readSegments, pure_ok]
      exact ⟨fun h => ⟨h.2.symm, h.1.symm⟩, fun h => ⟨h.2.symm, h.1.symm⟩⟩
  | cons selection rest ih =>
      rw [List.forall₂_cons_left_iff]
      unfold readSegments selectSource
      rw [query_bind_ok, fetch_source]
      cases hfound : tables.sources.find (actor.tenantId, selection.sourceId,
          selection.revision) with
      | none =>
          simp only [fail_ok, false_iff, not_and, not_exists]
          rintro - segment others ⟨row, hrow, -⟩
          rw [hfound] at hrow
          cases hrow
      | some row =>
          rw [lift_bind_ok]
          constructor
          · rintro ⟨segment, hsegment, h⟩
            rw [bind_ok] at h
            obtain ⟨others, middle, hothers, h⟩ := h
            obtain ⟨rfl, hrest⟩ := ih.mp hothers
            obtain ⟨rfl, rfl⟩ := pure_ok.mp h
            exact ⟨rfl, segment, others, ⟨row, hfound, hsegment⟩, hrest, rfl⟩
          · rintro ⟨rfl, segment, others, ⟨row', hrow', hsegment⟩, hrest, rfl⟩
            obtain rfl := Option.some.inj (hfound.symm.trans hrow')
            refine ⟨segment, hsegment, ?_⟩
            rw [bind_ok]
            exact ⟨others, final, ih.mpr ⟨rfl, hrest⟩, rfl⟩

/-- A sound source makes a segment. -/
theorem SourceRow.Sound.segment (h : row.Sound platform) (priority : Int) :
    ∃ segment, asSegment platform row false priority = .ok segment := by
  refine ⟨⟨row.sourceId, row.revision, row.role, row.content, row.trust, false, priority,
    h.checked⟩, ?_⟩
  unfold asSegment requireThat
  rw [if_pos (decide_eq_true h.digest), context_bind_ok]
  exact ⟨(), rfl, ContextSegment.new_of_checked h.checked⟩

/-- The entry is shown by the segment: the segment is made from the source that the
entry attaches. -/
def EntryRow.ShownBy (platform : Platform) (tables : ContextTables) (priority : Int)
    (entry : EntryRow) (segment : ContextSegment) : Prop :=
  ∃ row, tables.sources.find entry.sourceKey = some row ∧
    asSegment platform row false priority = .ok segment

/-- What a read of recent messages joins, in chronological order. -/
theorem recentSources_reverse (h : tables.Integrity platform) (limit : Int) :
    List.Forall₂ (fun entry row => tables.sources.find entry.sourceKey = some row)
      ((entriesOf actor.tenantId conversationId tables).drop
        ((entriesOf actor.tenantId conversationId tables).length - limit.toNat))
      (recentSources actor.tenantId conversationId limit tables).reverse := by
  have hjoined : List.Forall₂ (fun entry row => tables.sources.find entry.sourceKey = some row)
      (entriesOf actor.tenantId conversationId tables)
      ((entriesOf actor.tenantId conversationId tables).filterMap fun entry =>
        tables.sources.find entry.sourceKey) := by
    refine forall₂_filterMap fun entry hentry => ?_
    obtain ⟨-, row, -, hrow, -⟩ := h.attaches entry (Table.mem_select.mp hentry).1
    exact ⟨row, hrow⟩
  have hnewest : newestEntries actor.tenantId conversationId tables =
      (entriesOf actor.tenantId conversationId tables).reverse :=
    (h.numbered actor.tenantId conversationId).newest_first
  unfold recentSources
  rw [hnewest, newest_reversed, ← hjoined.length_eq]
  exact List.forall₂_drop _ hjoined

/-- The conversation that an actor may open, opened. -/
theorem requireConversation_opened (hid : isIdentifier conversationId = true)
    (h : Opened actor conversationId tables conversation) :
    requireConversation actor conversationId tables = .ok (conversation, tables) := by
  unfold requireConversation
  rw [bind_ok]
  refine ⟨some conversation, tables, ?_, rfl⟩
  unfold conversationRow
  rw [lift_bind_ok]
  refine ⟨(), ?_, ?_⟩
  · unfold identifier requireThat
    rw [if_pos hid]
  · rw [query_bind_ok, fetch_conversation, h.stored, pure_ok]
    exact ⟨Option.filter_some_pos h.allowed, rfl⟩

/-- The segments that the entries and their sources make. -/
theorem shownBy_total (h : tables.Integrity platform) (priority : Int) {entries : List EntryRow}
    {rows : List SourceRow}
    (hjoined : List.Forall₂ (fun entry row => tables.sources.find entry.sourceKey = some row)
      entries rows)
    (htenant : ∀ row ∈ rows,
      tables.sources.find (actor.tenantId, row.sourceId, row.revision) = some row) :
    ∃ segments, List.Forall₂ (EntryRow.ShownBy platform tables priority) entries segments ∧
      List.Forall₂ (Reads platform actor tables)
        (rows.map fun row => ⟨row.sourceId, row.revision, false, priority⟩) segments := by
  induction hjoined with
  | nil => exact ⟨[], List.Forall₂.nil, List.Forall₂.nil⟩
  | @cons entry row entries rows hfound _ ih =>
      obtain ⟨segments, hshown, hreads⟩ := ih fun other hother =>
        htenant other (List.mem_cons_of_mem _ hother)
      have hrow := htenant row (List.mem_cons_self ..)
      obtain ⟨segment, hsegment⟩ := (h.sound row (Table.mem_of_find hrow)).segment priority
      exact ⟨segment :: segments, List.Forall₂.cons ⟨row, hfound, hsegment⟩ hshown,
        List.Forall₂.cons ⟨row, hrow, hsegment⟩ hreads⟩

/-- **Recent messages of a member.**  The sources are visible, and the segments are
those of the newest entries in chronological order. -/
theorem recentMessages_total (h : tables.Integrity platform)
    (hid : isIdentifier conversationId = true)
    (hopened : Opened actor conversationId tables conversation)
    (hmember : conversation.projectId ∈ actor.projectIds) {limit : Int} (priority : Int)
    (hlimit : 0 ≤ limit ∧ limit ≤ 100) :
    ∃ segments, recentMessages platform actor conversationId limit priority tables =
        .ok (segments, tables) ∧
      List.Forall₂ (EntryRow.ShownBy platform tables priority)
        ((entriesOf actor.tenantId conversationId tables).drop
          ((entriesOf actor.tenantId conversationId tables).length - limit.toNat)) segments := by
  have hjoined := @recentSources_reverse platform actor tables conversationId h limit
  have hmem : ∀ row ∈ (recentSources actor.tenantId conversationId limit tables).reverse,
      tables.sources.find (actor.tenantId, row.sourceId, row.revision) = some row := by
    intro row hrow
    exact recentSources_mem (List.mem_reverse.mp hrow)
  obtain ⟨segments, hshown, hreads⟩ := shownBy_total h priority hjoined hmem
  refine ⟨segments, ?_, hshown⟩
  unfold recentMessages
  rw [require_bind_ok]
  refine ⟨by simpa using hlimit, ?_⟩
  rw [bind_of_ok (requireConversation_opened hid hopened)]
  split_ifs with hzero
  · -- no entry is read, and none is shown
    rw [hzero, Int.toNat_zero, Nat.sub_zero, List.drop_length, List.forall₂_nil_left_iff] at hshown
    rw [hshown]
    rfl
  · rw [query_bind_ok, require_bind_ok]
    refine ⟨?_, readSegments_iff.mpr ⟨rfl, hreads⟩⟩
    rw [List.all_eq_true]
    intro row hrow
    -- the row is the source of an entry, which belongs to the conversation
    obtain ⟨entry, hentry, hfound⟩ := List.mem_filterMap.mp (List.mem_of_mem_take hrow)
    have hselected := Table.mem_select.mp ((List.mergeSort_perm _ _).mem_iff.mp hentry)
    obtain ⟨other, row', hother, hrow', hbelongs⟩ := h.attaches entry hselected.1
    obtain rfl := Option.some.inj (hfound.symm.trans hrow')
    have hkey : entry.conversationKey = (actor.tenantId, conversationId) := by
      have hcondition := hselected.2
      rw [Bool.and_eq_true, decide_eq_true_eq, decide_eq_true_eq] at hcondition
      exact Prod.ext hcondition.1 hcondition.2
    rw [hkey] at hother
    obtain rfl := Option.some.inj (hopened.stored.symm.trans hother)
    exact visible_of_belongs hopened hmember hbelongs

/-- A read outside the limits is refused as such. -/
theorem recentMessages_outside {limit : Int} (priority : Int)
    (hlimit : ¬ (0 ≤ limit ∧ limit ≤ 100)) :
    recentMessages platform actor conversationId limit priority tables =
      .error (.valueError "Recent message limit must be between 0 and 100.") := by
  unfold recentMessages require
  rw [if_neg (by simpa using hlimit)]
  rfl

theorem getConversation_some {record : ConversationRecord}
    (h : (getConversation actor conversationId).outcome tables = .ok (some record)) :
    isIdentifier conversationId = true ∧ ∃ conversation,
      Opened actor conversationId tables conversation ∧
        record.projectId = conversation.projectId := by
  obtain ⟨final, h⟩ := outcome_ok h
  unfold getConversation at h
  rw [bind_ok] at h
  obtain ⟨found, middle, hfound, hrecord⟩ := h
  refine ⟨?_, ?_⟩
  · unfold conversationRow identifier requireThat at hfound
    rw [lift_bind_ok] at hfound
    obtain ⟨_, hid, -⟩ := hfound
    split_ifs at hid with htest
    exact htest
  · obtain ⟨-, hopened⟩ := conversationRow_ok hfound
    obtain ⟨hrecord, -⟩ := pure_ok.mp hrecord
    obtain ⟨conversation, hconversation, rfl⟩ := Option.map_eq_some_iff.mp hrecord
    exact ⟨conversation, hopened conversation hconversation, rfl⟩

end Integrity

/-! ### Conversation integrity -/

/-- Whatever the actors call, in every store they reach: the entries of a
conversation are numbered in the order they were appended, no source revision is
attached twice, a source never changes, and every attached source belongs to its
conversation.  A member of the project who may open a conversation reads its
newest entries in chronological order and is never refused. -/
def ConversationIntegrity (platform : Platform) : Prop :=
  ∀ tables, (contextStore platform).Reachable ContextTables.empty tables →
    (∀ tenantId conversationId,
      Numbered EntryRow.sequence (entriesOf tenantId conversationId tables) ∧
        ((entriesOf tenantId conversationId tables).map fun entry =>
          (entry.sourceId, entry.sourceRevision)).Nodup) ∧
    (∀ calls key row, tables.sources.find key = some row →
      ((contextStore platform).after tables calls).sources.find key = some row) ∧
    (∀ entry ∈ tables.entries.rows, entry.Attaches tables) ∧
    ∀ actor conversationId record,
      (getConversation actor conversationId).outcome tables = .ok (some record) →
      record.projectId ∈ actor.projectIds → ∀ limit priority,
        (recentMessages platform actor conversationId limit priority).outcome tables ≠
          .error .accessDenied ∧
        (0 ≤ limit ∧ limit ≤ 100 → ∃ segments,
          (recentMessages platform actor conversationId limit priority).outcome tables =
            .ok segments ∧
          segments.length = min limit.toNat
            (entriesOf actor.tenantId conversationId tables).length ∧
          List.Forall₂ (EntryRow.ShownBy platform tables priority)
            ((entriesOf actor.tenantId conversationId tables).drop
              ((entriesOf actor.tenantId conversationId tables).length - limit.toNat)) segments)

/-- **Integrity of conversations.** -/
theorem conversation_integrity (platform : Platform) : ConversationIntegrity platform := by
  intro tables hreach
  have h := reachable_integrity hreach
  refine ⟨fun tenantId conversationId => ⟨h.numbered tenantId conversationId, ?_⟩,
    fun calls key row hrow => (after_extends tables calls).sources key row hrow, h.attaches, ?_⟩
  · -- the uniqueness of attachments, in one conversation
    have hnodup : ((entriesOf tenantId conversationId tables).map EntryRow.attachment).Nodup :=
      tables.attached.sublist (List.filter_sublist.map _)
    refine List.Nodup.map_on (fun first hfirst second hsecond hsame => ?_) (List.Nodup.of_map _ hnodup)
    rw [Prod.mk.injEq] at hsame
    have hfirst' := (Table.mem_select.mp hfirst).2
    have hsecond' := (Table.mem_select.mp hsecond).2
    rw [Bool.and_eq_true, decide_eq_true_eq, decide_eq_true_eq] at hfirst' hsecond'
    refine List.inj_on_of_nodup_map hnodup hfirst hsecond ?_
    unfold EntryRow.attachment
    rw [hfirst'.1, hfirst'.2, hsecond'.1, hsecond'.2, hsame.1, hsame.2]
  · intro actor conversationId record hopen hmember limit priority
    obtain ⟨hid, conversation, hopened, hproject⟩ := getConversation_some hopen
    rw [hproject] at hmember
    by_cases hlimit : 0 ≤ limit ∧ limit ≤ 100
    · obtain ⟨segments, hread, hshown⟩ :=
        recentMessages_total h hid hopened hmember priority hlimit
      have houtcome : (recentMessages platform actor conversationId limit priority).outcome tables =
          .ok segments := by
        unfold Transaction.outcome
        rw [hread]
        rfl
      refine ⟨?_, fun _ => ⟨segments, houtcome, ?_, hshown⟩⟩
      · rw [houtcome]
        simp
      · rw [← hshown.length_eq, List.length_drop]
        omega
    · have houtcome : (recentMessages platform actor conversationId limit priority).outcome tables =
          .error (.valueError "Recent message limit must be between 0 and 100.") := by
        unfold Transaction.outcome
        rw [recentMessages_outside priority hlimit]
        rfl
      refine ⟨?_, fun hinside => absurd hinside hlimit⟩
      rw [houtcome]
      simp

end Context
end Ryuk
