import Ryuk.Context.Builder

/-!
# Context isolation

Rows of the context store are never changed, so what a read authorizes stays
authorized by the same rows.  Every segment of a built context is a policy segment
of the project or comes from a source that the actor may read in it.
-/

namespace Ryuk
namespace Context

open Foundation Foundation.Transaction Inference

/-! ### Nothing stored changes -/

/-- Every conversation and source is still stored as it was. -/
structure ContextTables.Extends (tables next : ContextTables) : Prop where
  conversations : ∀ key row, tables.conversations.find key = some row →
    next.conversations.find key = some row
  sources : ∀ key row, tables.sources.find key = some row → next.sources.find key = some row

theorem ContextTables.Extends.refl (tables : ContextTables) : tables.Extends tables :=
  ⟨fun _ _ h => h, fun _ _ h => h⟩

theorem ContextTables.Extends.trans {first second third : ContextTables}
    (h : first.Extends second) (h' : second.Extends third) : first.Extends third :=
  ⟨fun key row hrow => h'.conversations key row (h.conversations key row hrow),
    fun key row hrow => h'.sources key row (h.sources key row hrow)⟩

section Store

variable {platform : Platform} {actor : ContextPrincipal} {tables next final : ContextTables}
  {conversationId : String} {conversation : ConversationRow}

/-- A row that is found is found after an insertion. -/
theorem find_insert_some {ρ κ : Type} [DecidableEq κ] {key : ρ → κ} {table next : Table ρ κ key}
    {row other : ρ} {k : κ} (hinsert : table.insert row = some next)
    (hfound : table.find k = some other) : next.find k = some other := by
  rw [Table.find_insert hinsert, if_neg]
  · exact hfound
  · intro hsame
    have hfresh := Table.insert_fresh hinsert
    rw [hsame, hfound] at hfresh
    cases hfresh

theorem addConversation_ok {row : ConversationRow} (h : tables.addConversation row = some next) :
    tables.conversations.insert row = some next.conversations ∧ next.sources = tables.sources ∧
      next.entries = tables.entries := by
  unfold ContextTables.addConversation at h
  split at h
  · cases h
  · rename_i conversations hinsert
    obtain rfl := Option.some.inj h
    exact ⟨hinsert, rfl, rfl⟩

theorem addSource_ok {row : SourceRow} (h : tables.addSource row = some next) :
    row.permitted = true ∧ tables.sources.insert row = some next.sources ∧
      next.conversations = tables.conversations ∧ next.entries = tables.entries := by
  unfold ContextTables.addSource at h
  split_ifs at h with hpermitted
  split at h
  · cases h
  · rename_i sources hinsert
    obtain rfl := Option.some.inj h
    exact ⟨hpermitted, hinsert, rfl, rfl⟩

theorem addEntry_ok {row : EntryRow} (h : tables.addEntry row = some next) :
    tables.Admits row ∧ tables.entries.insert row = some next.entries ∧
      next.conversations = tables.conversations ∧ next.sources = tables.sources := by
  unfold ContextTables.addEntry at h
  split_ifs at h with hadmits
  split at h
  · cases h
  · rename_i entries hinsert
    obtain rfl := Option.some.inj h
    exact ⟨hadmits, hinsert, rfl, rfl⟩

theorem addConversation_extends {row : ConversationRow} (h : tables.addConversation row = some next) :
    tables.Extends next := by
  obtain ⟨hinsert, hsources, -⟩ := addConversation_ok h
  refine ⟨fun key other hother => find_insert_some hinsert hother, fun key other hother => ?_⟩
  rw [hsources]
  exact hother

theorem addSource_extends {row : SourceRow} (h : tables.addSource row = some next) :
    tables.Extends next := by
  obtain ⟨-, hinsert, hconversations, -⟩ := addSource_ok h
  refine ⟨fun key other hother => ?_, fun key other hother => find_insert_some hinsert hother⟩
  rw [hconversations]
  exact hother

theorem addEntry_extends {row : EntryRow} (h : tables.addEntry row = some next) :
    tables.Extends next := by
  obtain ⟨-, -, hconversations, hsources⟩ := addEntry_ok h
  refine ⟨fun key other hother => ?_, fun key other hother => ?_⟩
  · rw [hconversations]
    exact hother
  · rw [hsources]
    exact hother

/-- What a conversation that was opened is. -/
structure Opened (actor : ContextPrincipal) (conversationId : String) (tables : ContextTables)
    (conversation : ConversationRow) : Prop where
  stored : tables.conversations.find (actor.tenantId, conversationId) = some conversation
  allowed : conversationAllowed conversation actor = true

theorem fetch_conversation :
    tables.conversations.fetchone (conversationOf actor.tenantId conversationId) =
      tables.conversations.find (actor.tenantId, conversationId) := by
  have hmatch : ∀ row, conversationOf actor.tenantId conversationId row = true ↔
      row.key = (actor.tenantId, conversationId) := by
    intro row
    unfold conversationOf ConversationRow.key
    rw [Bool.and_eq_true, decide_eq_true_eq, decide_eq_true_eq, Prod.mk.injEq]
  rw [Table.fetchone_of_key fun row hrow => (hmatch row).mp hrow]
  cases hfound : tables.conversations.find (actor.tenantId, conversationId) with
  | none => rfl
  | some row => exact Option.filter_eq_some_iff.mpr ⟨rfl, (hmatch row).mpr (Table.find_key hfound)⟩

theorem fetch_source {sourceId revision : String} :
    tables.sources.fetchone (sourceOf actor.tenantId sourceId revision) =
      tables.sources.find (actor.tenantId, sourceId, revision) := by
  have hmatch : ∀ row, sourceOf actor.tenantId sourceId revision row = true ↔
      row.key = (actor.tenantId, sourceId, revision) := by
    intro row
    unfold sourceOf SourceRow.key
    rw [Bool.and_eq_true, Bool.and_eq_true, decide_eq_true_eq, decide_eq_true_eq,
      decide_eq_true_eq, Prod.mk.injEq, Prod.mk.injEq, and_assoc]
  rw [Table.fetchone_of_key fun row hrow => (hmatch row).mp hrow]
  cases hfound : tables.sources.find (actor.tenantId, sourceId, revision) with
  | none => rfl
  | some row => exact Option.filter_eq_some_iff.mpr ⟨rfl, (hmatch row).mpr (Table.find_key hfound)⟩

theorem conversationRow_ok {found : Option ConversationRow}
    (h : conversationRow actor conversationId tables = .ok (found, final)) :
    final = tables ∧ ∀ row, found = some row → Opened actor conversationId tables row := by
  unfold conversationRow at h
  simp only [lift_bind_ok, query_bind_ok, pure_ok] at h
  obtain ⟨-, -, hfound, rfl⟩ := h
  refine ⟨rfl, fun row hrow => ?_⟩
  rw [← hfound, fetch_conversation, Option.filter_eq_some_iff] at hrow
  exact ⟨hrow.1, hrow.2⟩

theorem requireConversation_bind_ok {α : Type} {rest : ConversationRow → ContextTx α} {result : α}
    (h : (requireConversation actor conversationId >>= rest) tables = .ok (result, final)) :
    ∃ conversation, Opened actor conversationId tables conversation ∧
      rest conversation tables = .ok (result, final) := by
  rw [bind_ok] at h
  obtain ⟨conversation, next, hopen, hrest⟩ := h
  unfold requireConversation at hopen
  rw [bind_ok] at hopen
  obtain ⟨found, middle, hrow, hopen⟩ := hopen
  obtain ⟨rfl, hallowed⟩ := conversationRow_ok hrow
  cases found with
  | none => exact (fail_ok.mp hopen).elim
  | some row =>
      obtain ⟨rfl, rfl⟩ := pure_ok.mp hopen
      exact ⟨row, hallowed row rfl, hrest⟩

/-! ### What a call does -/

/-- A source as the store checked it: the digest is that of the content, and it makes
a segment. -/
structure SourceRow.Sound (platform : Platform) (row : SourceRow) : Prop where
  digest : platform.sha256 row.content = row.contentSha256
  checked : ContextSegment.check row.sourceId row.revision row.role row.content row.trust false =
    .ok ()

/-- The entry that `append_message` and `attach_source` add for a source. -/
def SourceRow.entryIn (row : SourceRow) (actor : ContextPrincipal) (conversationId createdAt : String)
    (tables : ContextTables) : EntryRow :=
  ⟨actor.tenantId, conversationId, nextSequence actor.tenantId conversationId tables, row.sourceId,
    row.revision, createdAt⟩

/-- What a call does to the tables. -/
inductive Effect (platform : Platform) (tables next : ContextTables) : Prop
  | unchanged (hsame : next = tables)
  | conversation (row : ConversationRow) (hadd : tables.addConversation row = some next)
  | source (row : SourceRow) (hsound : row.Sound platform)
      (hadd : tables.addSource row = some next)
  | message (actor : ContextPrincipal) (conversationId createdAt : String)
      (conversation : ConversationRow) (row : SourceRow) (middle : ContextTables)
      (hopened : Opened actor conversationId tables conversation) (hsound : row.Sound platform)
      (htenant : row.tenantId = actor.tenantId) (hvisible : visibleIn conversation actor row = true)
      (hadd : tables.addSource row = some middle)
      (hentry : middle.addEntry (row.entryIn actor conversationId createdAt middle) = some next)
  | attached (actor : ContextPrincipal) (conversationId createdAt : String)
      (conversation : ConversationRow) (row : SourceRow)
      (hopened : Opened actor conversationId tables conversation)
      (hrow : tables.sources.find (actor.tenantId, row.sourceId, row.revision) = some row)
      (hvisible : visibleIn conversation actor row = true)
      (hentry : tables.addEntry (row.entryIn actor conversationId createdAt tables) = some next)

/-- What an actor writes into a conversation the actor may see there. -/
theorem visible_of_opened (h : Opened actor conversationId tables conversation) {row : SourceRow}
    (htenant : row.tenantId = actor.tenantId) (hproject : row.projectId = conversation.projectId)
    (howner : row.ownerId = actor.userId) (hscope : row.scope = conversation.scope) :
    visibleIn conversation actor row = true := by
  have hallowed := h.allowed
  unfold conversationAllowed allowed at hallowed
  unfold visibleIn sourceAllowed allowed
  rw [htenant, hproject, howner, hscope]
  split_ifs at hallowed
  cases hcase : conversation.scope with
  | user => simp
  | project =>
      rw [hcase] at hallowed
      simpa using hallowed

/-- **Inversion.**  Every call has one of the effects. -/
theorem next_effect (tables : ContextTables) (call : ContextCall) :
    Effect platform tables ((contextStore platform).next tables call) := by
  show Effect platform tables (commit (call.body platform) tables).2
  rcases commit_cases (call.body platform) tables with ⟨answer, -, h⟩ | ⟨-, hsame⟩
  · generalize (commit (call.body platform) tables).2 = final at h ⊢
    cases call with
    | createConversation actor projectId scope createdAt uuid4 =>
        obtain ⟨record, h, -⟩ := map_ok.mp h
        unfold createConversation at h
        simp only [lift_bind_ok, attempt_bind_ok, pure_ok] at h
        obtain ⟨-, -, next, hadd, -, rfl⟩ := h
        exact Effect.conversation _ hadd
    | addSource actor projectId revision role trust content scope sourceId createdAt uuid4 =>
        obtain ⟨ref, h, -⟩ := map_ok.mp h
        unfold addSource selectSource at h
        simp only [lift_bind_ok, require_bind_ok, query_bind_ok] at h
        obtain ⟨-, -, -, -, -, -, -, segment, hsegment, -, h⟩ := h
        generalize tables.sources.fetchone _ = existing at h
        cases existing with
        | some row =>
            simp only [require_bind_ok] at h
            exact Effect.unchanged (lift_ok.mp h.2).2.symm
        | none =>
            simp only [attempt_bind_ok] at h
            obtain ⟨next, hadd, hlift⟩ := h
            rw [← (lift_ok.mp hlift).2]
            exact Effect.source _ ⟨rfl, ContextSegment.new_checked hsegment⟩ hadd
    | appendMessage actor conversationId role content createdAt uuid4 =>
        obtain ⟨ref, h, -⟩ := map_ok.mp h
        unfold appendMessage at h
        simp only [lift_bind_ok, require_bind_ok] at h
        obtain ⟨-, source, hsegment, -, h⟩ := h
        obtain ⟨conversation, hopened, h⟩ := requireConversation_bind_ok h
        simp only [attempt_bind_ok, query_bind_ok] at h
        obtain ⟨middle, hsource, next, hentry, hlift⟩ := h
        rw [← (lift_ok.mp hlift).2]
        exact Effect.message actor conversationId createdAt conversation _ middle hopened
          ⟨rfl, ContextSegment.new_checked hsegment⟩ rfl (visible_of_opened hopened rfl rfl rfl rfl)
          hsource hentry
    | attachSource actor conversationId ref createdAt =>
        obtain ⟨answer, h, -⟩ := map_ok.mp h
        unfold attachSource at h
        obtain ⟨conversation, hopened, h⟩ := requireConversation_bind_ok h
        unfold selectSource at h
        simp only [query_bind_ok, require_bind_ok, attempt_ok] at h
        obtain ⟨hvisible, hentry⟩ := h
        rw [fetch_source] at hvisible
        obtain ⟨row, hrow, hvisible⟩ := (Option.any_eq_true _ _).mp hvisible
        have hkey : row.key = (actor.tenantId, ref.sourceId, ref.revision) := Table.find_key hrow
        have hnames : row.sourceId = ref.sourceId ∧ row.revision = ref.revision :=
          Prod.mk.inj (Prod.mk.inj hkey).2
        rw [← hnames.1, ← hnames.2] at hrow hentry
        exact Effect.attached actor conversationId createdAt conversation row hopened hrow hvisible
          hentry
  · exact Effect.unchanged hsame

/-- **Step lemma.**  A call changes nothing that is stored. -/
theorem next_extends (tables : ContextTables) (call : ContextCall) :
    tables.Extends ((contextStore platform).next tables call) := by
  cases @next_effect platform tables call with
  | unchanged hsame =>
      rw [hsame]
      exact ContextTables.Extends.refl tables
  | conversation row hadd => exact addConversation_extends hadd
  | source row _ hadd => exact addSource_extends hadd
  | message _ _ _ _ _ _ _ _ _ _ hadd hentry =>
      exact (addSource_extends hadd).trans (addEntry_extends hentry)
  | attached _ _ _ _ _ _ _ _ hentry => exact addEntry_extends hentry

/-- **Run lemma.** -/
theorem after_extends (tables : ContextTables) (calls : List ContextCall) :
    tables.Extends ((contextStore platform).after tables calls) :=
  @Machine.after_related _ _ _ (contextStore platform) (fun _ => True) ContextTables.Extends
    (fun _ _ _ => trivial) ContextTables.Extends.refl (fun _ _ _ h h' => h.trans h')
    (fun tables call _ => next_extends tables call) tables trivial calls

/-! ### What a read hands out -/

/-- The segment says what the source says. -/
structure Shows (segment : ContextSegment) (row : SourceRow) : Prop where
  sourceId : segment.sourceId = row.sourceId
  revision : segment.sourceRevision = row.revision
  role : segment.role = row.role
  content : segment.content = row.content
  trust : segment.trust = row.trust

/-- The segment shows the stored source it names, and the source may be seen in the
conversation. -/
def FromSource (actor : ContextPrincipal) (conversation : ConversationRow)
    (tables : ContextTables) (segment : ContextSegment) : Prop :=
  ∃ row, tables.sources.find (actor.tenantId, segment.sourceId, segment.sourceRevision) = some row ∧
    Shows segment row ∧ visibleIn conversation actor row = true

theorem asSegment_ok {row : SourceRow} {required : Bool} {priority : Int}
    {segment : ContextSegment} (h : asSegment platform row required priority = .ok segment) :
    Shows segment row := by
  unfold asSegment at h
  rw [context_bind_ok] at h
  obtain ⟨-, -, hnew⟩ := h
  obtain ⟨hsource, hrevision, hrole, hcontent, htrust⟩ := ContextSegment.new_ok hnew
  exact ⟨hsource, hrevision, hrole, hcontent, htrust⟩

theorem authorizeSources_ok {refs : List ContextSourceRef}
    (h : authorizeSources actor conversation refs tables = .ok ((), final)) :
    final = tables ∧ ∀ ref ∈ refs, ∃ row,
      tables.sources.find (actor.tenantId, ref.sourceId, ref.revision) = some row ∧
        visibleIn conversation actor row = true := by
  induction refs with
  | nil =>
      refine ⟨(pure_ok.mp h).2.symm, fun ref hmem => ?_⟩
      cases hmem
  | cons first rest ih =>
      unfold authorizeSources selectSource at h
      simp only [query_bind_ok, require_bind_ok, fetch_source] at h
      obtain ⟨hvisible, h⟩ := h
      obtain ⟨hfinal, hrest⟩ := ih h
      refine ⟨hfinal, fun ref hmem => ?_⟩
      rcases List.mem_cons.mp hmem with rfl | hmem
      · exact (Option.any_eq_true _ _).mp hvisible
      · exact hrest ref hmem

theorem readSegments_ok {selections : List Selection} {segments : List ContextSegment}
    (h : readSegments platform actor selections tables = .ok (segments, final)) :
    final = tables ∧ ∀ segment ∈ segments, ∃ selection ∈ selections, ∃ row,
      tables.sources.find (actor.tenantId, selection.sourceId, selection.revision) = some row ∧
        Shows segment row := by
  induction selections generalizing segments final with
  | nil =>
      obtain ⟨rfl, rfl⟩ := pure_ok.mp h
      refine ⟨rfl, fun segment hmem => ?_⟩
      cases hmem
  | cons selection rest ih =>
      unfold readSegments selectSource at h
      simp only [query_bind_ok, fetch_source] at h
      cases hfound : tables.sources.find (actor.tenantId, selection.sourceId, selection.revision) with
      | none =>
          rw [hfound] at h
          exact (fail_ok.mp h).elim
      | some row =>
          rw [hfound] at h
          simp only [lift_bind_ok] at h
          obtain ⟨head, hhead, h⟩ := h
          rw [bind_ok] at h
          obtain ⟨tail, middle, htail, h⟩ := h
          obtain ⟨rfl, hrest⟩ := ih htail
          obtain ⟨rfl, rfl⟩ := pure_ok.mp h
          refine ⟨rfl, fun segment hmem => ?_⟩
          rcases List.mem_cons.mp hmem with rfl | hmem
          · exact ⟨selection, List.mem_cons_self .., row, hfound, asSegment_ok hhead⟩
          · obtain ⟨other, hother, row, hrow, hshows⟩ := hrest segment hmem
            exact ⟨other, List.mem_cons_of_mem _ hother, row, hrow, hshows⟩

/-- **Resolved sources.** -/
theorem resolveSources_ok {refs : List ContextSourceRef} {segments : List ContextSegment}
    (h : resolveSources platform actor conversationId refs tables = .ok (segments, final)) :
    ∃ conversation, Opened actor conversationId tables conversation ∧
      ∀ segment ∈ segments, FromSource actor conversation tables segment := by
  unfold resolveSources at h
  obtain ⟨conversation, hopened, hbody⟩ := requireConversation_bind_ok h
  rw [bind_ok] at hbody
  obtain ⟨_, middle, hauthorized, hsegments⟩ := hbody
  obtain ⟨hsame, hvisible⟩ := authorizeSources_ok hauthorized
  subst hsame
  obtain ⟨-, hread⟩ := readSegments_ok hsegments
  refine ⟨conversation, hopened, fun segment hmem => ?_⟩
  obtain ⟨selection, hselection, row, hrow, hshows⟩ := hread segment hmem
  obtain ⟨ref, href, rfl⟩ := List.mem_map.mp hselection
  obtain ⟨row', hrow', hallowed⟩ := hvisible ref href
  obtain rfl := Option.some.inj (hrow.symm.trans hrow')
  refine ⟨row, ?_, hshows, hallowed⟩
  -- the row is the one the segment names
  have hkey : row.key = (actor.tenantId, ref.sourceId, ref.revision) := Table.find_key hrow
  obtain ⟨-, hsource, hrevision⟩ : row.tenantId = actor.tenantId ∧ row.sourceId = ref.sourceId ∧
      row.revision = ref.revision := by
    unfold SourceRow.key at hkey
    rw [Prod.mk.injEq, Prod.mk.injEq] at hkey
    exact hkey
  rw [hshows.sourceId, hshows.revision, hsource, hrevision]
  exact hrow

theorem recentSources_mem {limit : Int} {row : SourceRow}
    (h : row ∈ recentSources actor.tenantId conversationId limit tables) :
    tables.sources.find (actor.tenantId, row.sourceId, row.revision) = some row := by
  unfold recentSources newestEntries at h
  obtain ⟨entry, hentry, hrow⟩ := List.mem_filterMap.mp (List.mem_of_mem_take h)
  rw [List.mem_mergeSort, Table.mem_select, Bool.and_eq_true, decide_eq_true_eq] at hentry
  have hkey : row.key = entry.sourceKey := Table.find_key hrow
  have htenant : row.tenantId = actor.tenantId := by
    have hfirst := congrArg Prod.fst hkey
    exact hfirst.trans hentry.2.1
  have hself : tables.sources.find row.key = some row := by
    rw [hkey]
    exact hrow
  unfold SourceRow.key at hself
  rw [htenant] at hself
  exact hself

/-- **Recent messages.** -/
theorem recentMessages_ok {limit priority : Int} {segments : List ContextSegment}
    (h : recentMessages platform actor conversationId limit priority tables =
      .ok (segments, final)) :
    ∃ conversation, Opened actor conversationId tables conversation ∧
      ∀ segment ∈ segments, FromSource actor conversation tables segment := by
  unfold recentMessages at h
  simp only [require_bind_ok] at h
  obtain ⟨-, h⟩ := h
  obtain ⟨conversation, hopened, h⟩ := requireConversation_bind_ok h
  refine ⟨conversation, hopened, fun segment hmem => ?_⟩
  split_ifs at h
  · obtain ⟨rfl, -⟩ := pure_ok.mp h
    cases hmem
  · simp only [query_bind_ok, require_bind_ok] at h
    obtain ⟨hall, h⟩ := h
    obtain ⟨-, hread⟩ := readSegments_ok h
    obtain ⟨selection, hselection, row, hrow, hshows⟩ := hread segment hmem
    obtain ⟨entry, hentry, rfl⟩ := List.mem_map.mp hselection
    rw [List.mem_reverse] at hentry
    have hstored := recentSources_mem hentry
    obtain rfl := Option.some.inj (hrow.symm.trans hstored)
    refine ⟨row, ?_, hshows, List.all_eq_true.mp hall row hentry⟩
    rw [hshows.sourceId, hshows.revision]
    exact hrow

end Store

/-! ### What the builder puts together -/

section Builder

variable {ordered appended : List ContextSegment} {segment : ContextSegment}

/-- A new identifier goes to the end. -/
theorem appendUnique_new (hnew : segment.sourceId ∉ ordered.map ContextSegment.sourceId) :
    appendUnique ordered segment = .ok (ordered ++ [segment]) := by
  induction ordered with
  | nil => rfl
  | cons current rest ih =>
      rw [List.map_cons, List.mem_cons, not_or] at hnew
      unfold appendUnique
      rw [if_neg (fun hsame => hnew.1 hsame.symm), ih hnew.2]
      rfl

theorem appendAll_new {segments : List ContextSegment}
    (hdistinct : ((ordered ++ segments).map ContextSegment.sourceId).Nodup) :
    appendAll ordered segments = .ok (ordered ++ segments) := by
  induction segments generalizing ordered with
  | nil => rw [appendAll, List.append_nil]
  | cons segment rest ih =>
      have hnew : segment.sourceId ∉ ordered.map ContextSegment.sourceId := by
        rw [List.map_append, List.map_cons, List.nodup_append] at hdistinct
        intro hmem
        exact hdistinct.2.2 segment.sourceId hmem segment.sourceId (List.mem_cons_self ..) rfl
      have hlonger : ordered ++ [segment] ++ rest = ordered ++ segment :: rest := by
        rw [List.append_assoc, List.singleton_append]
      unfold appendAll
      rw [appendUnique_new hnew]
      show appendAll (ordered ++ [segment]) rest = _
      rw [ih (hlonger ▸ hdistinct), hlonger]

/-- What holds of a segment and of whatever says the same holds of a merged one. -/
theorem appendUnique_all {holds : ContextSegment → Prop}
    (h : appendUnique ordered segment = .ok appended) (hordered : ∀ other ∈ ordered, holds other)
    (hsegment : ∀ other : ContextSegment, other.sourceId = segment.sourceId →
      other.sourceRevision = segment.sourceRevision → other.role = segment.role →
      other.content = segment.content → other.trust = segment.trust → holds other) :
    ∀ other ∈ appended, holds other := by
  induction ordered generalizing appended with
  | nil =>
      obtain rfl := Except.ok.inj h
      intro other hother
      rw [List.mem_singleton.mp hother]
      exact hsegment segment rfl rfl rfl rfl rfl
  | cons current rest ih =>
      unfold appendUnique at h
      split_ifs at h with hsame
      · rw [context_bind_ok] at h
        obtain ⟨_, hagrees, h⟩ := h
        rw [context_bind_ok] at h
        obtain ⟨merged, hnew, hpure⟩ := h
        obtain rfl := Except.ok.inj hpure
        obtain ⟨hsource, hrevision, hrole, hcontent, htrust⟩ := ContextSegment.new_ok hnew
        intro other hother
        rcases List.mem_cons.mp hother with rfl | hother
        · -- the merged segment says what both say
          unfold requireThat at hagrees
          split_ifs at hagrees with hall
          simp only [ContextSegment.agrees, Bool.and_eq_true, decide_eq_true_eq] at hall
          obtain ⟨⟨⟨hrevision', hrole'⟩, hcontent'⟩, htrust'⟩ := hall
          exact hsegment other (hsource.trans hsame) (hrevision.trans hrevision')
            (hrole.trans hrole') (hcontent.trans hcontent') (htrust.trans htrust')
        · exact hordered other (List.mem_cons_of_mem _ hother)
      · rw [context_bind_ok] at h
        obtain ⟨tail, htail, hpure⟩ := h
        obtain rfl := Except.ok.inj hpure
        intro other hother
        rcases List.mem_cons.mp hother with rfl | hother
        · exact hordered other (List.mem_cons_self ..)
        · exact ih htail (fun other hmem => hordered other (List.mem_cons_of_mem _ hmem)) other hother

theorem appendAll_all {holds : ContextSegment → Prop} {segments : List ContextSegment}
    (h : appendAll ordered segments = .ok appended) (hordered : ∀ other ∈ ordered, holds other)
    (hsegments : ∀ segment ∈ segments, ∀ other : ContextSegment,
      other.sourceId = segment.sourceId → other.sourceRevision = segment.sourceRevision →
      other.role = segment.role → other.content = segment.content →
      other.trust = segment.trust → holds other) :
    ∀ other ∈ appended, holds other := by
  induction segments generalizing ordered with
  | nil =>
      obtain rfl := Except.ok.inj h
      exact hordered
  | cons segment rest ih =>
      unfold appendAll at h
      rw [context_bind_ok] at h
      obtain ⟨middle, hfirst, hrest⟩ := h
      exact ih hrest
        (appendUnique_all hfirst hordered (hsegments segment (List.mem_cons_self ..)))
        fun other hmem => hsegments other (List.mem_cons_of_mem _ hmem)

/-- What a source shows, any segment that says the same shows. -/
theorem FromSource.of_same {actor : ContextPrincipal} {conversation : ConversationRow}
    {tables : ContextTables} {other : ContextSegment}
    (h : FromSource actor conversation tables segment) (hsource : other.sourceId = segment.sourceId)
    (hrevision : other.sourceRevision = segment.sourceRevision) (hrole : other.role = segment.role)
    (hcontent : other.content = segment.content) (htrust : other.trust = segment.trust) :
    FromSource actor conversation tables other := by
  obtain ⟨row, hrow, hshows, hvisible⟩ := h
  refine ⟨row, ?_, ⟨hsource.trans hshows.sourceId, hrevision.trans hshows.revision,
    hrole.trans hshows.role, hcontent.trans hshows.content, htrust.trans hshows.trust⟩, hvisible⟩
  rw [hsource, hrevision]
  exact hrow

theorem FromSource.extends {actor : ContextPrincipal} {conversation : ConversationRow}
    {tables next : ContextTables} (h : FromSource actor conversation tables segment)
    (hextends : tables.Extends next) : FromSource actor conversation next segment := by
  obtain ⟨row, hrow, hshows, hvisible⟩ := h
  exact ⟨row, hextends.sources _ row hrow, hshows, hvisible⟩

theorem outcome_ok {α : Type} {body : ContextTx α} {tables : ContextTables} {result : α}
    (h : body.outcome tables = .ok result) : ∃ final, body tables = .ok (result, final) := by
  unfold Transaction.outcome at h
  cases hbody : body tables with
  | error error =>
      rw [hbody] at h
      cases h
  | ok pair =>
      rw [hbody] at h
      obtain ⟨value, final⟩ := pair
      obtain rfl := Except.ok.inj h
      exact ⟨final, rfl⟩

end Builder

/-- What a source in a built context is: of the tenant of the actor and the project
of the conversation, project-scoped or owned by the actor, and project-scoped in a
conversation of the project. -/
structure Accessible (actor : ContextPrincipal) (conversation : ConversationRow) (row : SourceRow) :
    Prop where
  tenant : row.tenantId = actor.tenantId
  project : row.projectId = conversation.projectId
  owner : row.scope = .project ∨ row.ownerId = actor.userId
  shared : conversation.scope = .project → row.scope = .project

theorem accessible_of_visible {actor : ContextPrincipal} {conversation : ConversationRow}
    {row : SourceRow} (h : visibleIn conversation actor row = true) :
    Accessible actor conversation row := by
  unfold visibleIn sourceAllowed allowed at h
  rw [Bool.and_eq_true, Bool.and_eq_true, decide_eq_true_eq] at h
  obtain ⟨⟨hproject, hallowed⟩, hshared⟩ := h
  split_ifs at hallowed with htenant
  push Not at htenant
  refine ⟨htenant, hproject, ?_, fun hconversation => ?_⟩
  · cases hscope : row.scope with
    | project => exact Or.inl rfl
    | user =>
        rw [hscope] at hallowed
        exact Or.inr (of_decide_eq_true hallowed)
  · by_contra hscope
    rw [hconversation, decide_eq_true (rfl : ContextScope.project = .project),
      decide_eq_true hscope] at hshared
    cases hshared

/-- A segment of a built context: a segment of the configured policy, or what an
accessible stored source says. -/
def Isolated (builder : ContextBuilder) (actor : ContextPrincipal) (conversation : ConversationRow)
    (tables : ContextTables) (segment : ContextSegment) : Prop :=
  (∃ policy, builder.policies (conversation.tenantId, conversation.projectId) = some policy ∧
    segment ∈ policy) ∨
  ∃ row, tables.sources.find (actor.tenantId, segment.sourceId, segment.sourceRevision) = some row ∧
    Shows segment row ∧ Accessible actor conversation row

/-- Contexts are isolated, whatever the other actors do before and between the
reads of a build. -/
def ContextIsolation (platform : Platform) : Prop :=
  ∀ (builder : ContextBuilder) (first second third : ContextTables) (actor : ContextPrincipal)
      (conversationId : String) (sources : List ContextSourceRef) (limit : Int)
      (built : BuiltContext),
    (contextStore platform).Reachable ContextTables.empty first →
    (contextStore platform).Reachable first second →
    (contextStore platform).Reachable second third →
    builder.build platform first second third actor conversationId sources limit = .ok built →
    ∃ conversation,
      third.conversations.find (actor.tenantId, conversationId) = some conversation ∧
      conversation.tenantId = actor.tenantId ∧ built.tenantId = actor.tenantId ∧
      built.projectId = conversation.projectId ∧
      conversation.projectId ∈ actor.projectIds ∧
      ∀ segment ∈ built.segments, Isolated builder actor conversation third segment

/-- **Isolation.** -/
theorem context_isolation (platform : Platform) : ContextIsolation platform := by
  intro builder first second third actor conversationId sources limit built _ hsecond hthird h
  have hextends : second.Extends third := by
    obtain ⟨calls, rfl⟩ := hthird
    exact after_extends second calls
  have hextends' : first.Extends second := by
    obtain ⟨calls, rfl⟩ := hsecond
    exact after_extends first calls
  unfold ContextBuilder.build at h
  rw [context_bind_ok] at h
  obtain ⟨found, hfound, h⟩ := h
  obtain ⟨final, hfound⟩ := outcome_ok hfound
  unfold getConversation at hfound
  rw [bind_ok] at hfound
  obtain ⟨row, middle, hrow, hrecord⟩ := hfound
  obtain ⟨-, hopened⟩ := conversationRow_ok hrow
  obtain ⟨rfl, -⟩ := pure_ok.mp hrecord
  cases row with
  | none => cases h
  | some conversation =>
      obtain ⟨hstored, hallowed⟩ := hopened conversation rfl
      simp only [Option.map_some] at h
      rw [context_bind_ok] at h
      obtain ⟨_, hmember, h⟩ := h
      have htenant : conversation.tenantId = actor.tenantId := by
        have hkey : conversation.key = (actor.tenantId, conversationId) := Table.find_key hstored
        exact congrArg Prod.fst hkey
      cases hpolicy : builder.policies (conversation.tenantId, conversation.projectId) with
      | none =>
          rw [hpolicy] at h
          cases h
      | some policy =>
          rw [hpolicy] at h
          simp only [context_bind_ok] at h
          obtain ⟨-, -, resolved, hresolved, recent, hrecent, start, hstart, required, hrequired,
            joined, hjoined, ordered, hordered, hbuilt⟩ := h
          obtain rfl := Except.ok.inj hbuilt
          have hstored' := hextends.conversations _ _ (hextends'.conversations _ _ hstored)
          refine ⟨conversation, hstored', htenant, htenant, rfl, ?_, ?_⟩
          · unfold requireThat at hmember
            split_ifs at hmember with hcontains
            exact List.contains_iff_mem.mp hcontains
          -- the policy comes first, as it is configured
          have hpolicies : start = policy := by
            have hnew := @appendAll_new [] policy
              (builder.policies_checked _ _ hpolicy).distinct
            rw [hnew] at hstart
            exact (Except.ok.inj hstart).symm
          -- what the two reads hand out may be seen in the conversation
          have hreads : (∀ segment ∈ resolved, FromSource actor conversation third segment) ∧
              ∀ segment ∈ recent, FromSource actor conversation third segment := by
            obtain ⟨_, hresolved⟩ := outcome_ok hresolved
            obtain ⟨_, hrecent⟩ := outcome_ok hrecent
            obtain ⟨opened, ⟨hopened, -⟩, hsegments⟩ := resolveSources_ok hresolved
            obtain ⟨opened', ⟨hopened', -⟩, hsegments'⟩ := recentMessages_ok hrecent
            obtain rfl := Option.some.inj
              (hopened.symm.trans (hextends'.conversations _ _ hstored))
            obtain rfl := Option.some.inj (hopened'.symm.trans hstored')
            exact ⟨fun segment hmem => (hsegments segment hmem).extends hextends, hsegments'⟩
          -- each of the four loops keeps what holds of all segments
          have hloop : ∀ (before : List ContextSegment) (segments after : List ContextSegment),
              appendAll before segments = .ok after →
              (∀ segment ∈ segments, FromSource actor conversation third segment) →
              (∀ segment ∈ before, segment ∈ policy ∨
                FromSource actor conversation third segment) →
              ∀ segment ∈ after, segment ∈ policy ∨
                FromSource actor conversation third segment := by
            intro before segments after happend hsegments hbefore
            refine appendAll_all happend hbefore fun segment hmem other hid hrevision hrole hcontent
              htrust => Or.inr ?_
            exact (hsegments segment hmem).of_same hid hrevision hrole hcontent htrust
          have hall := hloop _ _ _ hordered
            (fun segment hmem => hreads.1 segment (List.mem_filter.mp hmem).1)
            (hloop _ _ _ hjoined hreads.2
              (hloop _ _ _ hrequired
                (fun segment hmem => hreads.1 segment (List.mem_filter.mp hmem).1)
                fun segment hmem => Or.inl (hpolicies ▸ hmem)))
          intro segment hmem
          rcases hall segment hmem with hconfigured | ⟨row, hrow, hshows, hvisible⟩
          · exact Or.inl ⟨policy, hpolicy, hconfigured⟩
          · exact Or.inr ⟨row, hrow, hshows, accessible_of_visible hvisible⟩

end Context
end Ryuk
