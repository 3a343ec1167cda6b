import Ryuk.Context.Isolation

/-!
# What reads reveal

An actor can tell two states of a context store apart only by the conversations the
actor may open, their entries, and the sources the actor may read.  A conversation
or source that is there but may not be seen is like one that is not there.
-/

namespace Ryuk
namespace Context

open Foundation Foundation.Transaction Inference

/-! ### What an actor can see -/

/-- The conversation, if the actor may open it. -/
def openable (actor : ContextPrincipal) (tables : ContextTables) (conversationId : String) :
    Option ConversationRow :=
  (tables.conversations.find (actor.tenantId, conversationId)).filter fun row =>
    conversationAllowed row actor

/-- The source, if the actor may read it. -/
def readable (actor : ContextPrincipal) (tables : ContextTables) (sourceId revision : String) :
    Option SourceRow :=
  (tables.sources.find (actor.tenantId, sourceId, revision)).filter fun row =>
    sourceAllowed row actor

/-- The same conversations to open with the same entries, and the same sources to
read. -/
structure Alike (actor : ContextPrincipal) (left right : ContextTables) : Prop where
  conversations : ∀ conversationId,
    openable actor left conversationId = openable actor right conversationId
  entries : ∀ conversationId, (openable actor left conversationId).isSome = true → ∀ sequence,
    left.entries.find (actor.tenantId, conversationId, sequence) =
      right.entries.find (actor.tenantId, conversationId, sequence)
  sources : ∀ sourceId revision,
    readable actor left sourceId revision = readable actor right sourceId revision

/-- Alike, and the actor may open this conversation in both. -/
def AlikeIn (actor : ContextPrincipal) (conversationId : String) (conversation : ConversationRow)
    (left right : ContextTables) : Prop :=
  Alike actor left right ∧ openable actor left conversationId = some conversation

section Reads

variable {platform : Platform} {actor : ContextPrincipal} {left right tables : ContextTables}
  {conversationId : String} {conversation : ConversationRow}

theorem conversationRow_secure :
    Secure (Alike actor) (Alike actor) (conversationRow actor conversationId) := by
  unfold conversationRow
  refine Secure.bind Secure.lift fun _ => ?_
  intro left right h
  have hread : ∀ tables : ContextTables,
      (query (fun tables : ContextTables => tables.conversations.fetchone
          (conversationOf actor.tenantId conversationId)) >>= fun row =>
        (pure (row.filter fun row => conversationAllowed row actor) :
          ContextTx (Option ConversationRow))) tables =
        .ok (openable actor tables conversationId, tables) := by
    intro tables
    unfold openable
    rw [← fetch_conversation]
    rfl
  rw [hread, hread, h.conversations]
  exact Same.returned _ h

/-- A conversation that is opened is opened in both. -/
theorem requireConversation_secure {α : Type} {rest : ConversationRow → ContextTx α}
    (hrest : ∀ conversation, Secure (AlikeIn actor conversationId conversation) (Alike actor)
      (rest conversation)) :
    Secure (Alike actor) (Alike actor) (requireConversation actor conversationId >>= rest) := by
  intro left right h
  have hrun : ∀ tables : ContextTables,
      (requireConversation actor conversationId >>= rest) tables =
        (lift (identifier conversationId "conversation_id") >>= fun _ =>
          (openable actor tables conversationId).elim (fail .accessDenied) rest) tables := by
    intro tables
    have hcases : requireConversation actor conversationId >>= rest =
        conversationRow actor conversationId >>= fun row =>
          row.elim (fail .accessDenied) rest := by
      unfold requireConversation
      rw [bind_assoc]
      congr 1
      funext row
      cases row with
      | none => rfl
      | some row => rfl
    rw [hcases]
    unfold conversationRow openable
    rw [bind_assoc, ← fetch_conversation]
    cases identifier conversationId "conversation_id" with
    | error error => rfl
    | ok _ => rfl
  rw [hrun, hrun, ← h.conversations]
  cases hopen : openable actor left conversationId with
  | none =>
      cases identifier conversationId "conversation_id" with
      | error error => exact Same.raised error
      | ok _ => exact Same.raised ContextError.accessDenied
  | some conversation =>
      cases identifier conversationId "conversation_id" with
      | error error => exact Same.raised error
      | ok _ => exact hrest conversation left right ⟨h, hopen⟩

/-! ### Sources -/

/-- What may be seen of a source, may be read. -/
theorem filter_visible (conversation : ConversationRow) (sourceId revision : String) :
    (tables.sources.find (actor.tenantId, sourceId, revision)).filter
        (visibleIn conversation actor) =
      (readable actor tables sourceId revision).filter (visibleIn conversation actor) := by
  unfold readable
  cases tables.sources.find (actor.tenantId, sourceId, revision) with
  | none => rfl
  | some row =>
      cases hallowed : sourceAllowed row actor with
      | true =>
          have hreadable : (some row).filter (fun row => sourceAllowed row actor) = some row :=
            Option.filter_some_pos hallowed
          rw [hreadable]
      | false =>
          have hvisible : visibleIn conversation actor row = false := by
            unfold visibleIn
            rw [hallowed, Bool.and_false, Bool.false_and]
          have hreadable : (some row).filter (fun row => sourceAllowed row actor) = none := by
            simp only [Option.filter, hallowed, Bool.false_eq_true, if_false]
          rw [hreadable]
          simp only [Option.filter, hvisible, Bool.false_eq_true, if_false]

theorem Alike.filter_visible (h : Alike actor left right) (conversation : ConversationRow)
    (sourceId revision : String) :
    (left.sources.find (actor.tenantId, sourceId, revision)).filter
        (visibleIn conversation actor) =
      (right.sources.find (actor.tenantId, sourceId, revision)).filter
        (visibleIn conversation actor) := by
  rw [Context.filter_visible, Context.filter_visible, h.sources]

/-- Options that a test filters alike pass it alike, and are alike when they do. -/
theorem any_of_filter {α : Type} {test : α → Bool} {first second : Option α}
    (h : first.filter test = second.filter test) :
    first.any test = second.any test ∧ (first.any test = true → first = second) := by
  have hany : ∀ value : Option α, value.any test = (value.filter test).isSome := by
    intro value
    cases value with
    | none => rfl
    | some found =>
        cases htest : test found with
        | true =>
            rw [Option.filter_some_pos htest]
            exact htest
        | false =>
            simp only [Option.filter, Option.any, htest, Bool.false_eq_true, if_false,
              Option.isSome_none]
  have hself : ∀ value : Option α, value.any test = true → value.filter test = value := by
    intro value hvalue
    cases value with
    | none => rfl
    | some found => exact Option.filter_some_pos hvalue
  refine ⟨by rw [hany, hany, h], fun hfirst => ?_⟩
  have hsecond : second.any test = true := by
    rw [hany, ← h, ← hany]
    exact hfirst
  rw [← hself first hfirst, h, hself second hsecond]

/-- Alike, and these sources are stored alike. -/
def AlikeOn (actor : ContextPrincipal) (keys : List (String × String))
    (left right : ContextTables) : Prop :=
  Alike actor left right ∧ ∀ key ∈ keys,
    left.sources.find (actor.tenantId, key) = right.sources.find (actor.tenantId, key)

/-- A source that is checked is stored alike from then on. -/
theorem visible_bind_secure {α : Type} {rest : ContextTx α} {before after : ContextTables →
    ContextTables → Prop} {sourceId revision : String}
    (hbefore : ∀ left right, before left right → Alike actor left right)
    (hrest : Secure (fun left right => before left right ∧
      left.sources.find (actor.tenantId, sourceId, revision) =
        right.sources.find (actor.tenantId, sourceId, revision)) after rest) :
    Secure before after (do
      let metadata ← selectSource actor.tenantId sourceId revision
      require (metadata.any (visibleIn conversation actor)) ContextError.accessDenied
      rest) := by
  apply Secure.checked
  · intro left right h
    rw [fetch_source, fetch_source]
    exact any_of_filter ((hbefore left right h).filter_visible conversation sourceId revision)
  · intro value
    refine hrest.mono fun left right h => ⟨h.1, ?_⟩
    rw [← fetch_source, ← fetch_source, h.2.1, h.2.2]

theorem authorizeSources_secure (refs : List ContextSourceRef) (keys : List (String × String)) :
    Secure (AlikeOn actor keys)
      (AlikeOn actor (keys ++ refs.map fun ref => (ref.sourceId, ref.revision)))
      (authorizeSources actor conversation refs) := by
  induction refs generalizing keys with
  | nil =>
      rw [List.map_nil, List.append_nil]
      exact Secure.pure
  | cons ref rest ih =>
      apply visible_bind_secure fun left right h => h.1
      have hrest := ih (keys ++ [(ref.sourceId, ref.revision)])
      rw [List.append_assoc, List.singleton_append] at hrest
      refine hrest.mono fun left right h => ⟨h.1.1, fun key hkey => ?_⟩
      rcases List.mem_append.mp hkey with hkey | hkey
      · exact h.1.2 key hkey
      · rw [List.mem_singleton.mp hkey]
        exact h.2

theorem readSegments_secure {selections : List Selection} {keys : List (String × String)}
    (hkeys : ∀ selection ∈ selections, (selection.sourceId, selection.revision) ∈ keys) :
    Secure (AlikeOn actor keys) (AlikeOn actor keys) (readSegments platform actor selections) := by
  induction selections with
  | nil => exact Secure.pure
  | cons selection rest ih =>
      refine Secure.bind (Secure.query fun left right h => ?_) fun row => ?_
      · rw [fetch_source, fetch_source]
        exact h.2 _ (hkeys selection (List.mem_cons_self ..))
      · cases row with
        | none => exact Secure.fail
        | some row =>
            refine Secure.bind Secure.lift fun segment => Secure.bind (ih fun other hother =>
              hkeys other (List.mem_cons_of_mem _ hother)) fun segments => Secure.pure

theorem resolveSources_secure {refs : List ContextSourceRef} :
    Secure (Alike actor) (Alike actor) (resolveSources platform actor conversationId refs) := by
  apply requireConversation_secure
  intro conversation
  have hstart : Secure (AlikeOn actor []) (Alike actor)
      (authorizeSources actor conversation refs >>= fun _ =>
        readSegments platform actor (refs.map ContextSourceRef.selection)) := by
    refine Secure.bind (authorizeSources_secure refs []) fun _ => ?_
    refine (readSegments_secure fun selection hselection => ?_).weaken fun left right h => h.1
    obtain ⟨ref, href, rfl⟩ := List.mem_map.mp hselection
    rw [List.nil_append]
    exact List.mem_map_of_mem (f := fun ref : ContextSourceRef => (ref.sourceId, ref.revision)) href
  exact hstart.mono fun left right h => ⟨h.1, fun key hkey => (List.not_mem_nil hkey).elim⟩

theorem getConversation_secure :
    Secure (Alike actor) (Alike actor) (getConversation actor conversationId) :=
  Secure.bind conversationRow_secure fun _ => Secure.pure

/-! ### Entries -/

/-- The same entries in a conversation of a tenant. -/
def SameEntries (tenantId conversationId : String) (left right : ContextTables) : Prop :=
  ∀ sequence, left.entries.find (tenantId, conversationId, sequence) =
    right.entries.find (tenantId, conversationId, sequence)

theorem AlikeIn.sameEntries (h : AlikeIn actor conversationId conversation left right) :
    SameEntries actor.tenantId conversationId left right := by
  apply h.1.entries
  rw [h.2]
  rfl

variable {tenantId : String}

theorem mem_entries {row : EntryRow} :
    row ∈ tables.entries.select (fun row =>
        decide (row.tenantId = tenantId) && decide (row.conversationId = conversationId)) ↔
      tables.entries.find (tenantId, conversationId, row.sequence) = some row := by
  rw [Table.mem_select, Table.find_eq_some_iff, Bool.and_eq_true, decide_eq_true_eq,
    decide_eq_true_eq]
  unfold EntryRow.key
  constructor
  · rintro ⟨hrow, rfl, rfl⟩
    exact ⟨hrow, rfl⟩
  · rintro ⟨hrow, hkey⟩
    rw [Prod.mk.injEq, Prod.mk.injEq] at hkey
    exact ⟨hrow, hkey.1, hkey.2.1⟩

theorem SameEntries.mem (h : SameEntries tenantId conversationId left right) (row : EntryRow) :
    row ∈ left.entries.select (fun row =>
        decide (row.tenantId = tenantId) && decide (row.conversationId = conversationId)) ↔
      row ∈ right.entries.select fun row =>
        decide (row.tenantId = tenantId) && decide (row.conversationId = conversationId) := by
  rw [mem_entries, mem_entries, h row.sequence]

theorem SameEntries.nextSequence (h : SameEntries tenantId conversationId left right) :
    nextSequence tenantId conversationId left = nextSequence tenantId conversationId right := by
  have hmem : ∀ sequence,
      sequence ∈ (left.entries.select fun row => decide (row.tenantId = tenantId) &&
          decide (row.conversationId = conversationId)).map EntryRow.sequence ↔
        sequence ∈ (right.entries.select fun row => decide (row.tenantId = tenantId) &&
          decide (row.conversationId = conversationId)).map EntryRow.sequence := by
    intro sequence
    rw [List.mem_map, List.mem_map]
    exact exists_congr fun row => and_congr (h.mem row) Iff.rfl
  have hmax : ((left.entries.select fun row => decide (row.tenantId = tenantId) &&
        decide (row.conversationId = conversationId)).map EntryRow.sequence).max? =
      ((right.entries.select fun row => decide (row.tenantId = tenantId) &&
        decide (row.conversationId = conversationId)).map EntryRow.sequence).max? := by
    ext sequence
    rw [List.max?_eq_some_iff, List.max?_eq_some_iff]
    exact and_congr (hmem sequence) (forall_congr' fun other => imp_congr (hmem other) Iff.rfl)
  unfold Context.nextSequence
  rw [hmax]

/-- The order of the entries is that of their sequence numbers, which are distinct. -/
theorem SameEntries.newest (h : SameEntries tenantId conversationId left right) :
    newestEntries tenantId conversationId left = newestEntries tenantId conversationId right := by
  unfold newestEntries
  have hnodup : ∀ tables : ContextTables, (tables.entries.select fun row =>
      decide (row.tenantId = tenantId) && decide (row.conversationId = conversationId)).Nodup :=
    fun tables => (List.Nodup.of_map _ tables.entries.unique).filter _
  have hsorted : ∀ rows : List EntryRow, (rows.mergeSort fun left right =>
      decide (right.sequence ≤ left.sequence)).Pairwise fun left right =>
        decide (right.sequence ≤ left.sequence) = true := by
    intro rows
    apply List.pairwise_mergeSort
    · intro first second third hfirst hsecond
      have hfirst := of_decide_eq_true hfirst
      have hsecond := of_decide_eq_true hsecond
      exact decide_eq_true (by omega)
    · intro first second
      rw [Bool.or_eq_true, decide_eq_true_eq, decide_eq_true_eq]
      omega
  have hperm := (List.perm_ext_iff_of_nodup (hnodup left) (hnodup right)).mpr h.mem
  apply List.Perm.eq_of_pairwise _ (hsorted _) (hsorted _)
  · exact (List.mergeSort_perm _ _).trans (hperm.trans (List.mergeSort_perm _ _).symm)
  · intro first second hfirst hsecond hle hge
    have hsequence : first.sequence = second.sequence := by
      have hle := of_decide_eq_true hle
      have hge := of_decide_eq_true hge
      omega
    -- the sequence number is the rest of the key
    have hfirst := mem_entries.mp ((h.mem first).mp ((List.mergeSort_perm _ _).mem_iff.mp hfirst))
    have hsecond := mem_entries.mp ((List.mergeSort_perm _ _).mem_iff.mp hsecond)
    rw [hsequence, hsecond] at hfirst
    exact (Option.some.inj hfirst).symm

/-- Lists of found rows that a test filters alike pass it alike, and are alike when
they do. -/
theorem filterMap_visible {α β : Type} {test : β → Bool} {first second : α → Option β}
    {entries : List α} (n : Nat) (hfirst : ∀ entry ∈ entries, (first entry).isSome = true)
    (hsecond : ∀ entry ∈ entries, (second entry).isSome = true)
    (hsame : ∀ entry ∈ entries, (first entry).filter test = (second entry).filter test) :
    ((entries.filterMap first).take n).all test = ((entries.filterMap second).take n).all test ∧
      (((entries.filterMap first).take n).all test = true →
        (entries.filterMap first).take n = (entries.filterMap second).take n) := by
  induction entries generalizing n with
  | nil => exact ⟨rfl, fun _ => rfl⟩
  | cons entry rest ih =>
      obtain ⟨row, hrow⟩ := Option.isSome_iff_exists.mp (hfirst entry (List.mem_cons_self ..))
      obtain ⟨row', hrow'⟩ := Option.isSome_iff_exists.mp (hsecond entry (List.mem_cons_self ..))
      rw [List.filterMap_cons_some hrow, List.filterMap_cons_some hrow']
      cases n with
      | zero => exact ⟨rfl, fun _ => rfl⟩
      | succ n =>
          obtain ⟨hall, heq⟩ := ih n
            (fun other hother => hfirst other (List.mem_cons_of_mem _ hother))
            (fun other hother => hsecond other (List.mem_cons_of_mem _ hother))
            fun other hother => hsame other (List.mem_cons_of_mem _ hother)
          have hhead := hsame entry (List.mem_cons_self ..)
          rw [hrow, hrow'] at hhead
          obtain ⟨htest, hvalue⟩ := any_of_filter hhead
          rw [Option.any_some, Option.any_some] at htest
          rw [Option.any_some] at hvalue
          rw [List.take_succ_cons, List.take_succ_cons, List.all_cons, List.all_cons, ← htest,
            ← hall]
          refine ⟨rfl, fun hpassed => ?_⟩
          rw [Bool.and_eq_true] at hpassed
          rw [Option.some.inj (hvalue hpassed.1), heq hpassed.2]

theorem recentSources_visible (h : AlikeIn actor conversationId conversation left right)
    (limit : Int) :
    (recentSources actor.tenantId conversationId limit left).all (visibleIn conversation actor) =
        (recentSources actor.tenantId conversationId limit right).all
          (visibleIn conversation actor) ∧
      ((recentSources actor.tenantId conversationId limit left).all
          (visibleIn conversation actor) = true →
        recentSources actor.tenantId conversationId limit left =
          recentSources actor.tenantId conversationId limit right) := by
  have hnewest := h.sameEntries.newest
  have hmem : ∀ (tables : ContextTables) (entry : EntryRow),
      entry ∈ newestEntries actor.tenantId conversationId tables →
        entry ∈ tables.entries.rows ∧ entry.tenantId = actor.tenantId := by
    intro tables entry hentry
    have hselected := Table.mem_select.mp ((List.mergeSort_perm _ _).mem_iff.mp hentry)
    rw [Bool.and_eq_true, decide_eq_true_eq] at hselected
    exact ⟨hselected.1, hselected.2.1⟩
  unfold recentSources
  rw [← hnewest]
  apply filterMap_visible
  · intro entry hentry
    exact left.source_key entry (hmem left entry hentry).1
  · intro entry hentry
    rw [hnewest] at hentry
    exact right.source_key entry (hmem right entry hentry).1
  · intro entry hentry
    unfold EntryRow.sourceKey
    rw [(hmem left entry hentry).2]
    exact h.1.filter_visible conversation _ _

theorem find_recent {limit : Int} {row : SourceRow}
    (h : row ∈ recentSources tenantId conversationId limit tables) :
    tables.sources.find (tenantId, row.sourceId, row.revision) = some row := by
  obtain ⟨entry, hentry, hfound⟩ := List.mem_filterMap.mp (List.mem_of_mem_take h)
  have hselected := mem_entries.mp ((List.mergeSort_perm _ _).mem_iff.mp hentry)
  have htenant : entry.tenantId = tenantId := congrArg Prod.fst (Table.find_key hselected)
  have hkey : row.key = entry.sourceKey := Table.find_key hfound
  have hrow : row.tenantId = tenantId := (congrArg Prod.fst hkey).trans htenant
  rw [← hkey, SourceRow.key, hrow] at hfound
  exact hfound

theorem recentMessages_secure {limit priority : Int} :
    Secure (Alike actor) (Alike actor)
      (recentMessages platform actor conversationId limit priority) := by
  refine Secure.bind Secure.require fun _ => requireConversation_secure fun conversation => ?_
  split_ifs
  · exact Secure.pure.mono fun left right h => h.1
  · apply Secure.checked
    · intro left right h
      exact recentSources_visible h limit
    · intro entries
      have hread : Secure (AlikeOn actor (entries.map fun row => (row.sourceId, row.revision)))
          (Alike actor) (readSegments platform actor (entries.reverse.map fun row =>
            ⟨row.sourceId, row.revision, false, priority⟩)) := by
        refine (readSegments_secure fun selection hselection => ?_).weaken fun left right h => h.1
        obtain ⟨row, hrow, rfl⟩ := List.mem_map.mp hselection
        exact List.mem_map_of_mem (f := fun row : SourceRow => (row.sourceId, row.revision))
          (List.mem_reverse.mp hrow)
      -- both sides found each of the rows
      refine hread.mono fun left right h => ⟨h.1.1, fun key hkey => ?_⟩
      obtain ⟨row, hrow, rfl⟩ := List.mem_map.mp hkey
      have hleft : row ∈ recentSources actor.tenantId conversationId limit left := by
        rw [h.2.1]
        exact hrow
      have hright : row ∈ recentSources actor.tenantId conversationId limit right := by
        rw [h.2.2]
        exact hrow
      exact (find_recent hleft).trans (find_recent hright).symm

/-! ### Attachments -/

/-- An entry is refused or stored by its constraints alone. -/
theorem addEntry_isSome {row : EntryRow} :
    (tables.addEntry row).isSome = true ↔
      tables.Admits row ∧ tables.entries.find row.key = none := by
  constructor
  · intro h
    obtain ⟨next, hnext⟩ := Option.isSome_iff_exists.mp h
    obtain ⟨hadmits, hinsert, -⟩ := addEntry_ok hnext
    exact ⟨hadmits, Table.insert_fresh hinsert⟩
  · rintro ⟨hadmits, hfresh⟩
    obtain ⟨entries, hinsert⟩ := Table.insert_of_fresh hfresh
    unfold ContextTables.addEntry
    rw [dif_pos hadmits]
    split
    · rename_i hnone
      rw [hinsert] at hnone
      cases hnone
    · rfl

/-- A source is attached already in both or in neither. -/
theorem SameEntries.attached (h : SameEntries tenantId conversationId left right)
    (sourceId revision : String) :
    (tenantId, conversationId, sourceId, revision) ∈ left.entries.rows.map EntryRow.attachment ↔
      (tenantId, conversationId, sourceId, revision) ∈
        right.entries.rows.map EntryRow.attachment := by
  have hmem : ∀ tables : ContextTables,
      (tenantId, conversationId, sourceId, revision) ∈
          tables.entries.rows.map EntryRow.attachment ↔
        ∃ row ∈ tables.entries.select (fun row =>
          decide (row.tenantId = tenantId) && decide (row.conversationId = conversationId)),
          row.sourceId = sourceId ∧ row.sourceRevision = revision := by
    intro tables
    rw [List.mem_map]
    apply exists_congr
    intro row
    rw [Table.mem_select, Bool.and_eq_true, decide_eq_true_eq, decide_eq_true_eq]
    unfold EntryRow.attachment
    rw [Prod.mk.injEq, Prod.mk.injEq, Prod.mk.injEq]
    tauto
  rw [hmem, hmem]
  exact exists_congr fun row => and_congr (h.mem row) Iff.rfl

/-- An entry of a conversation the actor may open, for a source that is stored alike. -/
theorem addEntry_alike {row : EntryRow} (h : AlikeIn actor conversationId conversation left right)
    (hsource : left.sources.find row.sourceKey = right.sources.find row.sourceKey)
    (htenant : row.tenantId = actor.tenantId) (hconversation : row.conversationId = conversationId) :
    Option.Rel (Alike actor) (left.addEntry row) (right.addEntry row) := by
  have hopen : ∀ tables : ContextTables, openable actor tables conversationId = some conversation →
      (tables.conversations.find row.conversationKey).isSome = true := by
    intro tables hopen
    unfold EntryRow.conversationKey
    rw [htenant, hconversation, (Option.filter_eq_some_iff.mp hopen).1]
    rfl
  have hopen' : openable actor right conversationId = some conversation := by
    rw [← h.1.conversations]
    exact h.2
  have hadmits : left.Admits row ↔ right.Admits row := by
    have hattached := h.sameEntries.attached row.sourceId row.sourceRevision
    rw [← htenant, ← hconversation] at hattached
    constructor
    · intro hleft
      exact ⟨hopen right hopen', hsource ▸ hleft.source, fun htaken =>
        hleft.fresh (hattached.mpr htaken)⟩
    · intro hright
      exact ⟨hopen left h.2, hsource ▸ hright.source, fun htaken =>
        hright.fresh (hattached.mp htaken)⟩
  have hkey : left.entries.find row.key = right.entries.find row.key := by
    unfold EntryRow.key
    rw [htenant, hconversation]
    exact h.sameEntries row.sequence
  have hsome : (left.addEntry row).isSome = true ↔ (right.addEntry row).isSome = true := by
    rw [addEntry_isSome, addEntry_isSome, hadmits, hkey]
  cases hleft : left.addEntry row with
  | none =>
      cases hright : right.addEntry row with
      | none => exact Option.Rel.none
      | some next =>
          rw [hleft, hright] at hsome
          exact absurd (hsome.mpr rfl) Bool.false_ne_true
  | some next =>
      cases hright : right.addEntry row with
      | none =>
          rw [hleft, hright] at hsome
          exact absurd (hsome.mp rfl) Bool.false_ne_true
      | some next' =>
          obtain ⟨-, hinsert, hconversations, hsources⟩ := addEntry_ok hleft
          obtain ⟨-, hinsert', hconversations', hsources'⟩ := addEntry_ok hright
          apply Option.Rel.some
          refine ⟨fun other => ?_, fun other hother sequence => ?_, fun sourceId revision => ?_⟩
          · unfold openable
            rw [hconversations, hconversations']
            exact h.1.conversations other
          · unfold openable at hother
            rw [hconversations] at hother
            rw [Table.find_insert hinsert, Table.find_insert hinsert',
              h.1.entries other hother sequence]
          · unfold readable
            rw [hsources, hsources']
            exact h.1.sources sourceId revision

theorem attachSource_secure {ref : ContextSourceRef} {createdAt : String} :
    Secure (Alike actor) (Alike actor) (attachSource actor conversationId ref createdAt) := by
  apply requireConversation_secure
  intro conversation
  apply visible_bind_secure fun left right h => h.1
  refine Secure.bind (Secure.query fun left right h => h.1.sameEntries.nextSequence)
    fun sequence => Secure.attempt fun left right h => ?_
  exact addEntry_alike h.1 h.2 rfl rfl

end Reads

/-! ### What the actor cannot see -/

section Hidden

variable {actor : ContextPrincipal} {tables next : ContextTables}

/-- A forbidden source is like one that is missing. -/
theorem addSource_alike {row : SourceRow} (h : tables.addSource row = some next)
    (hforbidden : sourceAllowed row actor = false) : Alike actor tables next := by
  obtain ⟨-, hinsert, hconversations, hentries⟩ := addSource_ok h
  refine ⟨fun conversationId => ?_, fun conversationId _ sequence => ?_,
    fun sourceId revision => ?_⟩
  · unfold openable
    rw [hconversations]
  · rw [hentries]
  · unfold readable
    rw [Table.find_insert hinsert]
    split_ifs with hkey
    · rw [← hkey, Table.insert_fresh hinsert]
      simp only [Option.filter, hforbidden, Bool.false_eq_true, if_false]
    · rfl

/-- A forbidden conversation is like one that is missing. -/
theorem addConversation_alike {row : ConversationRow} (h : tables.addConversation row = some next)
    (hforbidden : conversationAllowed row actor = false) : Alike actor tables next := by
  obtain ⟨hinsert, hsources, hentries⟩ := addConversation_ok h
  refine ⟨fun conversationId => ?_, fun conversationId _ sequence => ?_,
    fun sourceId revision => ?_⟩
  · unfold openable
    rw [Table.find_insert hinsert]
    split_ifs with hkey
    · rw [← hkey, Table.insert_fresh hinsert]
      simp only [Option.filter, hforbidden, Bool.false_eq_true, if_false]
    · rfl
  · rw [hentries]
  · unfold readable
    rw [hsources]

end Hidden

/-! ### The reads -/

/-- The actor gets the same answers from both states, and the same refusals. -/
structure SameAnswers (platform : Platform) (actor : ContextPrincipal)
    (left right : ContextTables) : Prop where
  getConversation : ∀ conversationId,
    (commit (getConversation actor conversationId) left).1 =
      (commit (getConversation actor conversationId) right).1
  resolveSources : ∀ conversationId refs,
    (commit (resolveSources platform actor conversationId refs) left).1 =
      (commit (resolveSources platform actor conversationId refs) right).1
  recentMessages : ∀ conversationId limit priority,
    (commit (recentMessages platform actor conversationId limit priority) left).1 =
      (commit (recentMessages platform actor conversationId limit priority) right).1
  attachSource : ∀ conversationId ref createdAt,
    (commit (attachSource actor conversationId ref createdAt) left).1 =
      (commit (attachSource actor conversationId ref createdAt) right).1

/-- Reads tell an actor nothing about the rows it may not see. -/
structure RevealsNothing (platform : Platform) (actor : ContextPrincipal) : Prop where
  answers : ∀ left right, Alike actor left right → SameAnswers platform actor left right
  build : ∀ (builder : ContextBuilder) (first first' second second' third third' : ContextTables)
    (conversationId : String) (sources : List ContextSourceRef) (limit : Int),
    Alike actor first first' → Alike actor second second' → Alike actor third third' →
    builder.build platform first second third actor conversationId sources limit =
      builder.build platform first' second' third' actor conversationId sources limit
  forbidden_source : ∀ (tables next : ContextTables) (row : SourceRow),
    tables.addSource row = some next → sourceAllowed row actor = false →
      SameAnswers platform actor tables next
  forbidden_conversation : ∀ (tables next : ContextTables) (row : ConversationRow),
    tables.addConversation row = some next → conversationAllowed row actor = false →
      SameAnswers platform actor tables next

theorem Alike.sameAnswers {platform : Platform} {actor : ContextPrincipal}
    {left right : ContextTables} (h : Alike actor left right) :
    SameAnswers platform actor left right where
  getConversation _ := (getConversation_secure.commit (fun _ _ h => h) h).1
  resolveSources _ _ := (resolveSources_secure.commit (fun _ _ h => h) h).1
  recentMessages _ _ _ := (recentMessages_secure.commit (fun _ _ h => h) h).1
  attachSource _ _ _ := (attachSource_secure.commit (fun _ _ h => h) h).1

/-- **Indistinguishability.** -/
theorem reads_reveal_nothing (platform : Platform) (actor : ContextPrincipal) :
    RevealsNothing platform actor := by
  refine ⟨fun left right h => h.sameAnswers, ?_, ?_, ?_⟩
  · intro builder first first' second second' third third' conversationId sources limit hfirst
      hsecond hthird
    -- each of the three reads has the same outcome, and the rest is computed from them
    unfold ContextBuilder.build
    rw [getConversation_secure.outcome hfirst, resolveSources_secure.outcome hsecond,
      recentMessages_secure.outcome hthird]
  · intro tables next row hadd hforbidden
    exact (addSource_alike hadd hforbidden).sameAnswers
  · intro tables next row hadd hforbidden
    exact (addConversation_alike hadd hforbidden).sameAnswers

end Context
end Ryuk
