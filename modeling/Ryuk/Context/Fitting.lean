import Ryuk.Context.Preparation

/-!
# Preparation is an exact fit

What `prepare_context` keeps is determined by the counts alone: of the segments that
lead their classes, it drops the fewest in the order of their priorities that make
the rest fit, and it overflows when none do.
-/

namespace Ryuk
namespace Context

open Foundation Foundation.Selection Inference

/-! ### The fit, without loops -/

/-- What is left when the duplicates are gone: the required segments, and of every
class of optional segments the first of the highest priority. -/
structure Kept (segments kept : List ContextSegment) : Prop where
  sublist : kept.Sublist segments
  mem : ∀ segment ∈ segments, segment ∈ kept ↔ (segment.required = true ∨
    Leads ContextSegment.class ContextSegment.priority (optionalOf segments) segment)

/-- The optional segments that are left, the lowest priority first and the later
position first. -/
structure DropOrder (kept order : List ContextSegment) : Prop where
  perm : order.Perm (optionalOf kept)
  sorted : order.Pairwise (Drops ContextSegment.priority kept)

/-- The segments that are kept when some are gone, in their order. -/
def without (kept gone : List ContextSegment) : List ContextSegment :=
  kept.filter fun segment => decide (segment ∉ gone)

/-- The count of the counter for these segments. -/
def Counts (counter : ContextTokenCounter) (kept : List ContextSegment) (counted : TokenCount) :
    Prop := ∃ input, chatOf kept = .ok input ∧ counter input = counted

/-- The count leaves room for the output and the margin. -/
def Fits (profile : ContextPreparationProfile) (counter : ContextTokenCounter)
    (kept : List ContextSegment) : Prop :=
  ∃ counted, Counts counter kept counted ∧ counted.tokens ≤ profile.available

/-- The counter reports the identity of the profile. -/
def Matches (profile : ContextPreparationProfile) (counter : ContextTokenCounter) : Prop :=
  ∀ chat, (counter chat).counterId = profile.counterId ∧
    (counter chat).counterRevision = profile.counterRevision ∧
    (counter chat).templateId = profile.templateId ∧
    (counter chat).templateRevision = profile.templateRevision

/-! ### Counting -/

section Counting

variable {profile : ContextPreparationProfile} {counter : ContextTokenCounter}
  {kept order : List ContextSegment}

theorem ContextSegment.message (segment : ContextSegment) :
    ∃ message, ChatMessage.new segment.role segment.content = .ok message := by
  have h := segment.checked
  unfold ContextSegment.check requireThat at h
  simp only [context_bind_ok] at h
  obtain ⟨_, -, _, -, _, hblank, -⟩ := h
  split_ifs at hblank with htext
  have hcontent : Text.isBlank segment.content = false := by simpa using htext
  refine ⟨⟨segment.role, segment.content, hcontent⟩, ?_⟩
  unfold ChatMessage.new requireText
  rw [dif_pos hcontent]
  rfl

/-- Segments make a chat. -/
theorem chatOf_total (hkept : kept ≠ []) : ∃ input, chatOf kept = .ok input := by
  have hmessages : ∃ messages, kept.mapM (fun segment =>
      ChatMessage.new segment.role segment.content) = .ok messages ∧
        messages.length = kept.length := by
    clear hkept
    induction kept with
    | nil => exact ⟨[], rfl, rfl⟩
    | cons segment rest ih =>
        obtain ⟨message, hmessage⟩ := segment.message
        obtain ⟨messages, hrest, hlength⟩ := ih
        refine ⟨message :: messages, ?_, by rw [List.length_cons, List.length_cons, hlength]⟩
        rw [List.mapM_cons, hmessage, hrest]
        rfl
  obtain ⟨messages, hmapped, hlength⟩ := hmessages
  have hnonempty : messages ≠ [] := by
    rintro rfl
    exact hkept (List.length_eq_zero_iff.mp hlength.symm)
  refine ⟨⟨messages, hnonempty⟩, ?_⟩
  unfold chatOf ChatInput.new
  rw [hmapped, except_ok_bind, dif_pos hnonempty]

theorem counts_total (hkept : kept ≠ []) : ∃ counted, Counts counter kept counted := by
  obtain ⟨input, hinput⟩ := chatOf_total hkept
  exact ⟨counter input, input, hinput, rfl⟩

theorem Counts.unique {counted counted' : TokenCount} (h : Counts counter kept counted)
    (h' : Counts counter kept counted') : counted = counted' := by
  obtain ⟨input, hinput, rfl⟩ := h
  obtain ⟨input', hinput', rfl⟩ := h'
  rw [hinput, Except.ok.injEq] at hinput'
  rw [hinput']

theorem fits_iff {counted : TokenCount} (h : Counts counter kept counted) :
    Fits profile counter kept ↔ counted.tokens ≤ profile.available := by
  constructor
  · rintro ⟨counted', hcounts, hle⟩
    rw [h.unique hcounts]
    exact hle
  · exact fun hle => ⟨counted, h, hle⟩

/-- A counter that matches the profile is never refused. -/
theorem countKept_of_counts (hmatch : Matches profile counter) {counted : TokenCount}
    (h : Counts counter kept counted) : countKept profile counter kept = .ok counted := by
  obtain ⟨input, hinput, rfl⟩ := h
  have hvalid : validateCounter (counter input) profile = .ok () := if_pos (hmatch input)
  unfold countKept
  rw [hinput]
  show (validateCounter (counter input) profile >>= fun _ => pure (counter input)) = _
  rw [hvalid]
  rfl

end Counting

/-! ### Dropping -/

section Dropping

variable {profile : ContextPreparationProfile} {counter : ContextTokenCounter}
  {kept order : List ContextSegment}

theorem without_nil : without kept [] = kept := by
  unfold without
  simp

/-- Identifiers are unique: a segment is removed by its identifier. -/
theorem filter_without (hunique : (kept.map ContextSegment.sourceId).Nodup)
    {gone : List ContextSegment} {segment : ContextSegment} (hsegment : segment ∈ kept) :
    (without kept gone).filter (fun item => decide (item.sourceId ≠ segment.sourceId)) =
      without kept (gone ++ [segment]) := by
  unfold without
  rw [List.filter_filter]
  refine List.filter_congr fun item hitem => ?_
  rw [← Bool.decide_and, decide_eq_decide, List.mem_append, List.mem_singleton, not_or,
    and_comm]
  refine and_congr_right fun _ => not_congr ?_
  constructor
  · exact fun hid => List.inj_on_of_nodup_map hunique hitem hsegment hid
  · rintro rfl
    rfl

/-- **Loop lemma.**  The loop drops one segment after the other until the rest fits
or nothing is left to drop. -/
theorem dropLoop_spec (hmatch : Matches profile counter)
    (hunique : (kept.map ContextSegment.sourceId).Nodup)
    (hleft : ∃ segment ∈ kept, segment ∉ order) (horder : ∀ segment ∈ order, segment ∈ kept)
    {gone rest : List ContextSegment} {counted : TokenCount} (hsplit : order = gone ++ rest)
    (hcounts : Counts counter (without kept gone) counted)
    (hover : ¬ Fits profile counter (without kept gone)) :
    ∃ m last, gone.length ≤ m ∧ m ≤ order.length ∧
      dropLoop profile counter profile.available rest (without kept gone)
        (gone.map ContextSegment.sourceId) counted =
          .ok (without kept (order.take m), (order.take m).map ContextSegment.sourceId, last) ∧
      Counts counter (without kept (order.take m)) last ∧
      (Fits profile counter (without kept (order.take m)) ∨ m = order.length) ∧
      ∀ j, gone.length ≤ j → j < m → ¬ Fits profile counter (without kept (order.take j)) := by
  induction rest generalizing gone counted with
  | nil =>
      rw [List.append_nil] at hsplit
      subst hsplit
      refine ⟨order.length, counted, le_refl _, le_refl _, ?_, ?_, Or.inr rfl, fun j hle hlt => ?_⟩
      · rw [List.take_length, dropLoop]
      · rwa [List.take_length]
      · omega
  | cons segment rest ih =>
      have hmem : segment ∈ kept := by
        apply horder
        rw [hsplit]
        exact List.mem_append_right _ (List.mem_cons_self ..)
      have hlonger : order = (gone ++ [segment]) ++ rest := by
        rw [hsplit, List.append_assoc, List.singleton_append]
      have htake : order.take (gone.length + 1) = gone ++ [segment] := by
        rw [hlonger, List.take_left' (by simp)]
      have hnonempty : without kept (gone ++ [segment]) ≠ [] := by
        obtain ⟨stays, hkept, hstays⟩ := hleft
        refine List.ne_nil_of_mem (a := stays) (List.mem_filter.mpr ⟨hkept, ?_⟩)
        rw [decide_eq_true_eq]
        intro hgone
        exact hstays (hlonger ▸ List.mem_append_left _ hgone)
      obtain ⟨last, hlast⟩ : ∃ last, Counts counter (without kept (gone ++ [segment])) last :=
        counts_total hnonempty
      have hids : gone.map ContextSegment.sourceId ++ [segment.sourceId] =
          (gone ++ [segment]).map ContextSegment.sourceId := by
        rw [List.map_append, List.map_singleton]
      rw [dropLoop, filter_without hunique hmem, countKept_of_counts hmatch hlast, hids]
      show ∃ m final, _ ∧ _ ∧ (if last.tokens ≤ profile.available then _ else _) = _ ∧ _
      by_cases hfits : last.tokens ≤ profile.available
      · refine ⟨gone.length + 1, last, by omega, ?_, ?_, ?_, Or.inl ?_, fun j hle hlt => ?_⟩
        · rw [hlonger, List.length_append, List.length_append, List.length_singleton]
          omega
        · rw [if_pos hfits, htake]
        · rw [htake]
          exact hlast
        · rw [htake]
          exact (fits_iff hlast).mpr hfits
        · have hj : j = gone.length := by omega
          rw [hj, hsplit, List.take_left]
          exact hover
      · rw [if_neg hfits]
        obtain ⟨m, final, hle, hle', hloop, hfinal, hcase, hearlier⟩ :=
          ih hlonger hlast (fun h => hfits ((fits_iff hlast).mp h))
        rw [List.length_append, List.length_singleton] at hle hearlier
        refine ⟨m, final, by omega, hle', hloop, hfinal, hcase, fun j hj hlt => ?_⟩
        by_cases hnow : j = gone.length
        · rw [hnow, hsplit, List.take_left]
          exact hover
        · exact hearlier j (by omega) hlt

end Dropping

/-! ### Duplicates and their order -/

section Selected

variable {segments kept order : List ContextSegment}

theorem mem_optionalOf {segment : ContextSegment} :
    segment ∈ optionalOf segments ↔ segment ∈ segments ∧ segment.required = false := by
  unfold optionalOf
  rw [List.mem_filter, Bool.not_eq_true']

theorem isChosen_iff {segment : ContextSegment} : isChosen segments segment = true ↔
    Leads ContextSegment.class ContextSegment.priority (optionalOf segments) segment := by
  unfold isChosen chosenOf
  rw [decide_eq_true_eq, champions_iff]
  exact and_iff_right rfl

/-- The first result of `_deduplicate_optional` is what the classes leave. -/
theorem deduplicate_kept (segments : List ContextSegment) :
    Kept segments (deduplicateOptional segments).1 := by
  refine ⟨List.filter_sublist, fun segment hsegment => ?_⟩
  unfold deduplicateOptional
  rw [List.mem_filter, Bool.or_eq_true, isChosen_iff]
  exact and_iff_right hsegment

/-- There is one list that keeps these segments. -/
theorem Kept.eq (hnodup : segments.Nodup) (h : Kept segments kept) :
    kept = (deduplicateOptional segments).1 := by
  have hsame := deduplicate_kept segments
  have htest : ∀ segment ∈ segments, segment ∈ kept ↔
      (segment.required || isChosen segments segment) = true := by
    intro segment hsegment
    rw [h.mem segment hsegment, Bool.or_eq_true, isChosen_iff]
  exact sublist_eq_filter hnodup h.sublist htest

theorem dropOrder_spec (hnodup : kept.Nodup) : DropOrder kept (dropOrder kept) := by
  have hplace : ∀ pair : ContextSegment × Nat,
      pair ∈ kept.zipIdx.filter (fun pair => !pair.1.required) → kept[pair.2]? = some pair.1 :=
    fun pair hpair => List.mem_zipIdx_iff_getElem?.mp (List.mem_filter.mp hpair).1
  constructor
  · have hmap : (kept.zipIdx.filter fun pair => !pair.1.required).map Prod.fst =
        optionalOf kept := by
      unfold optionalOf
      conv_rhs => rw [← List.zipIdx_map_fst 0 kept, List.filter_map]
      rfl
    rw [← hmap]
    exact (List.mergeSort_perm _ _).map _
  · unfold dropOrder
    rw [List.pairwise_map]
    have hsorted : ((kept.zipIdx.filter fun pair => !pair.1.required).mergeSort
        dropsFirst).Pairwise fun first second => dropsFirst first second = true := by
      apply List.pairwise_mergeSort
      · intro first second third h h'
        simp only [dropsFirst, Bool.or_eq_true, Bool.and_eq_true, decide_eq_true_eq] at h h' ⊢
        omega
      · intro first second
        simp only [dropsFirst, Bool.or_eq_true, Bool.and_eq_true, decide_eq_true_eq]
        omega
    have hdistinct : ((kept.zipIdx.filter fun pair => !pair.1.required).mergeSort
        dropsFirst).Nodup := by
      rw [(List.mergeSort_perm _ _).nodup_iff]
      apply List.Nodup.filter
      apply List.Nodup.of_map Prod.fst
      rw [List.zipIdx_map_fst]
      exact hnodup
    refine (hsorted.and hdistinct).imp_of_mem fun {first second} hfirst hsecond h => ?_
    obtain ⟨hdrops, hne⟩ := h
    have hfirst := hplace first ((List.mergeSort_perm _ _).mem_iff.mp hfirst)
    have hsecond := hplace second ((List.mergeSort_perm _ _).mem_iff.mp hsecond)
    simp only [dropsFirst, Bool.or_eq_true, Bool.and_eq_true, decide_eq_true_eq] at hdrops
    rcases hdrops with hlt | ⟨heq, hle⟩
    · exact Or.inl hlt
    · right
      refine ⟨heq, before_of_getElem hsecond hfirst (lt_of_le_of_ne hle fun hsame => hne ?_)⟩
      -- one place has one segment
      rw [hsame, hfirst, Option.some.injEq] at hsecond
      exact Prod.ext hsecond hsame.symm

/-- There is one order in which to drop. -/
theorem DropOrder.eq (hnodup : kept.Nodup) (h : DropOrder kept order) : order = dropOrder kept := by
  have h' := dropOrder_spec hnodup
  exact drops_unique hnodup (h.perm.trans h'.perm.symm) h.sorted h'.sorted

end Selected

/-! ### The exact fit -/

section Preparing

variable {platform : Platform} {segments kept order : List ContextSegment}
  {profile : ContextPreparationProfile} {counter : ContextTokenCounter}

theorem requireValue_bind {α : Type} {condition : Bool} {message : String}
    {rest : Unit → Except PreparationError α} (h : condition = true) :
    (requireValue condition message >>= rest) = rest () := by
  unfold requireValue
  rw [if_pos h]
  rfl

/-- The exclusions name the segments that were dropped. -/
theorem filter_dropped (hunique : (order.map ContextSegment.sourceId).Nodup) (m : Nat) :
    (order.filter fun segment =>
      ((order.take m).map ContextSegment.sourceId).contains segment.sourceId) = order.take m := by
  have hnodup : order.Nodup := List.Nodup.of_map _ hunique
  refine (sublist_eq_filter hnodup (List.take_sublist m order) fun segment hsegment => ?_).symm
  rw [List.contains_iff_mem, List.mem_map]
  constructor
  · exact fun hmem => ⟨segment, hmem, rfl⟩
  · rintro ⟨other, hother, hid⟩
    rwa [← List.inj_on_of_nodup_map hunique (List.mem_of_mem_take hother) hsegment hid]

/-- **Fit.**  The least number of drops that makes the rest fit, or all of them. -/
theorem fitSegments_spec (hmatch : Matches profile counter)
    (hunique : (kept.map ContextSegment.sourceId).Nodup)
    (hrequired : ∃ segment ∈ kept, segment.required = true) (excluded : List ExcludedContextSource) :
    ∃ m last, m ≤ (dropOrder kept).length ∧
      fitSegments profile counter kept excluded =
        .ok (without kept ((dropOrder kept).take m),
          excluded ++ ((dropOrder kept).take m).map overBudget, last) ∧
      Counts counter (without kept ((dropOrder kept).take m)) last ∧
      (Fits profile counter (without kept ((dropOrder kept).take m)) ∨
        m = (dropOrder kept).length) ∧
      ∀ j, j < m → ¬ Fits profile counter (without kept ((dropOrder kept).take j)) := by
  have hnodup : kept.Nodup := List.Nodup.of_map _ hunique
  obtain ⟨stays, hstays, hfixed⟩ := hrequired
  obtain ⟨counted, hcounts⟩ : ∃ counted, Counts counter kept counted :=
    counts_total (List.ne_nil_of_mem hstays)
  have hcounts' : Counts counter (without kept []) counted := by rwa [without_nil]
  have hperm := (dropOrder_spec hnodup).perm
  have horder : ∀ segment ∈ dropOrder kept, segment ∈ kept ∧ segment.required = false :=
    fun segment hsegment => mem_optionalOf.mp (hperm.mem_iff.mp hsegment)
  have hids : ((dropOrder kept).map ContextSegment.sourceId).Nodup := by
    rw [(hperm.map ContextSegment.sourceId).nodup_iff]
    exact hunique.sublist (List.filter_sublist.map _)
  unfold fitSegments
  rw [countKept_of_counts hmatch hcounts]
  show ∃ m last, _ ∧ (if counted.tokens > profile.available then _ else _) = _ ∧ _
  by_cases hfits : counted.tokens ≤ profile.available
  · refine ⟨0, counted, Nat.zero_le _, ?_, ?_, Or.inl ?_, fun j hj => absurd hj (by omega)⟩
    · rw [if_neg (by omega), List.take_zero, without_nil, List.map_nil, List.append_nil]
      rfl
    · rw [List.take_zero]
      exact hcounts'
    · rw [List.take_zero]
      exact (fits_iff hcounts').mpr hfits
  · have hleft : ∃ segment ∈ kept, segment ∉ dropOrder kept := by
      refine ⟨stays, hstays, fun hmem => ?_⟩
      rw [(horder stays hmem).2] at hfixed
      cases hfixed
    obtain ⟨m, last, -, hle, hloop, hlast, hcase, hearlier⟩ :=
      dropLoop_spec hmatch hunique hleft (fun segment hsegment => (horder segment hsegment).1)
        (List.nil_append _).symm hcounts' fun h => hfits ((fits_iff hcounts').mp h)
    rw [without_nil, List.map_nil] at hloop
    refine ⟨m, last, hle, ?_, hlast, hcase, fun j hj => hearlier j (Nat.zero_le j) hj⟩
    rw [if_pos (by omega), hloop]
    show Except.ok (_, excluded ++ ((dropOrder kept).filter fun segment =>
      (((dropOrder kept).take m).map ContextSegment.sourceId).contains segment.sourceId).map
        overBudget, last) = _
    rw [filter_dropped hids]

/-- **Preparation.**  The run of `prepare_context` on segments that pass its checks. -/
theorem prepareContext_run (hmatch : Matches profile counter)
    (hunique : (segments.map ContextSegment.sourceId).Nodup)
    (hrequired : ∃ segment ∈ segments, segment.required = true)
    (hkept : Kept segments kept) (horder : DropOrder kept order) :
    ∃ m last, m ≤ order.length ∧ Counts counter (without kept (order.take m)) last ∧
      (Fits profile counter (without kept (order.take m)) ∨ m = order.length) ∧
      (∀ j, j < m → ¬ Fits profile counter (without kept (order.take j))) ∧
      (last.tokens ≤ profile.available → ∃ input, chatOf (without kept (order.take m)) = .ok input ∧
        prepareContext platform segments profile counter =
          .ok (preparedOf platform profile input last (without kept (order.take m))
            ((deduplicateOptional segments).2 ++ (order.take m).map overBudget))) ∧
      (¬ last.tokens ≤ profile.available →
        prepareContext platform segments profile counter =
          .error (.overflow last.tokens profile.available)) := by
  have hnodup : segments.Nodup := List.Nodup.of_map _ hunique
  obtain ⟨required, hmem, hfixed⟩ := hrequired
  have hfirst : required ∈ kept := (hkept.mem required hmem).mpr (Or.inl hfixed)
  have hkeptIds : (kept.map ContextSegment.sourceId).Nodup :=
    hunique.sublist (hkept.sublist.map _)
  have hsame := hkept.eq hnodup
  have horder := horder.eq (hnodup.sublist hkept.sublist)
  obtain ⟨m, last, hle, hrun, hlast, hcase, hearlier⟩ := fitSegments_spec hmatch hkeptIds
    ⟨required, hfirst, hfixed⟩ (deduplicateOptional segments).2
  rw [← horder] at hle hrun hlast hcase hearlier
  refine ⟨m, last, hle, hlast, hcase, hearlier, ?_⟩
  have hprepare : prepareContext platform segments profile counter =
      if last.tokens > profile.available then .error (.overflow last.tokens profile.available)
      else (do
        let chat ← (chatOf (without kept (order.take m))).mapError .chat
        pure (preparedOf platform profile chat last (without kept (order.take m))
          ((deduplicateOptional segments).2 ++ (order.take m).map overBudget))) := by
    unfold prepareContext
    rw [requireValue_bind, requireValue_bind, requireValue_bind]
    · show (fitSegments profile counter (deduplicateOptional segments).1
        (deduplicateOptional segments).2 >>= _) = _
      rw [← hsame, hrun]
      rfl
    · exact List.any_eq_true.mpr ⟨required, hmem, hfixed⟩
    · exact decide_eq_true hunique
    · rw [Bool.not_eq_true', List.isEmpty_eq_false_iff]
      exact List.ne_nil_of_mem hmem
  obtain ⟨input, hinput, -⟩ := hlast
  refine ⟨fun hfits => ⟨input, hinput, ?_⟩, fun hover => ?_⟩
  · rw [hprepare, if_neg (by omega), hinput]
    rfl
  · rw [hprepare, if_pos (by omega)]

/-! ### The accounts -/

/-- Every class of optional segments has a winner. -/
theorem chosen_some {segment : ContextSegment} (hsegment : segment ∈ optionalOf segments) :
    ∃ winner, chosenOf segments segment.class = some winner ∧ winner ∈ segments ∧
      winner.class = segment.class := by
  cases hchosen : chosenOf segments segment.class with
  | none => exact absurd rfl (champions_none.mp hchosen segment hsegment)
  | some winner =>
      obtain ⟨hclass, hleads⟩ := champions_iff.mp hchosen
      exact ⟨winner, rfl, (mem_optionalOf.mp hleads.mem).1, hclass⟩

/-- What the duplicates are. -/
theorem mem_duplicates {excluded : ExcludedContextSource}
    (h : excluded ∈ (deduplicateOptional segments).2) :
    ∃ segment ∈ segments, ∃ winner ∈ segments, segment ≠ winner ∧
      segment.class = winner.class ∧ excluded = duplicateOf winner segment := by
  unfold deduplicateOptional at h
  obtain ⟨segment, hsegment, hexcluded⟩ := List.mem_filterMap.mp h
  obtain ⟨hoptional, hlost⟩ := List.mem_filter.mp hsegment
  obtain ⟨winner, hwinner, hmem, hclass⟩ := chosen_some hoptional
  rw [hwinner, Option.map_some, Option.some.injEq] at hexcluded
  refine ⟨segment, (mem_optionalOf.mp hoptional).1, winner, hmem, ?_, hclass.symm,
    hexcluded.symm⟩
  rintro rfl
  -- a winner is chosen
  unfold isChosen at hlost
  rw [hwinner, decide_eq_true rfl] at hlost
  cases hlost

theorem duplicates_ids (segments : List ContextSegment) :
    (deduplicateOptional segments).2.map ExcludedContextSource.sourceId =
      (segments.filter fun segment =>
        !(segment.required || isChosen segments segment)).map ContextSegment.sourceId := by
  have hlost : (optionalOf segments).filter (fun segment => !isChosen segments segment) =
      segments.filter fun segment => !(segment.required || isChosen segments segment) := by
    unfold optionalOf
    rw [List.filter_filter]
    refine List.filter_congr fun segment _ => ?_
    rw [Bool.not_or, Bool.and_comm]
  unfold deduplicateOptional
  rw [List.map_filterMap, ← hlost, ← List.filterMap_eq_map]
  refine List.filterMap_congr fun segment hsegment => ?_
  obtain ⟨winner, hwinner, -⟩ := chosen_some (List.mem_filter.mp hsegment).1
  rw [hwinner]
  rfl

/-- What is kept and what goes make up the whole. -/
theorem without_perm {gone : List ContextSegment} (hnodup : kept.Nodup) (hgone : gone.Nodup)
    (hsub : ∀ segment ∈ gone, segment ∈ kept) : (without kept gone ++ gone).Perm kept := by
  have hsame : (kept.filter fun segment => !decide (segment ∉ gone)).Perm gone := by
    rw [List.perm_ext_iff_of_nodup (hnodup.filter _) hgone]
    intro segment
    rw [List.mem_filter, Bool.not_eq_true', decide_eq_false_iff_not, not_not]
    exact and_iff_right_of_imp (hsub segment)
  exact (hsame.symm.append_left _).trans (List.filter_append_perm _ _)

/-- The accounts of a result: nothing required is missing, every source is either
included or excluded, once, and duplicates name a source of their class. -/
structure Accounted (segments : List ContextSegment) (profile : ContextPreparationProfile)
    (prepared : PreparedContext) : Prop where
  required : ∀ segment ∈ segments, segment.required = true →
    segment.sourceId ∈ prepared.includedSourceIds
  partition : (prepared.includedSourceIds ++
    prepared.excludedSources.map ExcludedContextSource.sourceId).Perm
      (segments.map ContextSegment.sourceId)
  duplicates : ∀ excluded ∈ prepared.excludedSources, excluded.reason = .duplicate →
    ∃ segment ∈ segments, ∃ winner ∈ segments, segment ≠ winner ∧
      segment.class = winner.class ∧ excluded.sourceId = segment.sourceId ∧
      excluded.duplicateOf = some winner.sourceId
  reserved : prepared.totalReservedTokens ≤ profile.maxContextTokens

theorem accounted_of_run (hunique : (segments.map ContextSegment.sourceId).Nodup)
    (hkept : Kept segments kept) (horder : DropOrder kept order) (m : Nat) {input : ChatInput}
    {last : TokenCount} (hfits : last.tokens ≤ profile.available) :
    Accounted segments profile (preparedOf platform profile input last
      (without kept (order.take m))
      ((deduplicateOptional segments).2 ++ (order.take m).map overBudget)) := by
  have hnodup : segments.Nodup := List.Nodup.of_map _ hunique
  have hkeptNodup := hnodup.sublist hkept.sublist
  have hoptional : ∀ segment ∈ order.take m, segment ∈ kept ∧ segment.required = false :=
    fun segment hsegment => mem_optionalOf.mp
      (horder.perm.mem_iff.mp (List.mem_of_mem_take hsegment))
  have hgone : (order.take m).Nodup := by
    apply List.Nodup.sublist (List.take_sublist m order)
    rw [horder.perm.nodup_iff]
    exact hkeptNodup.filter _
  refine ⟨fun segment hsegment hrequired => ?_, ?_, fun excluded hexcluded hreason => ?_, ?_⟩
  · apply List.mem_map_of_mem
    refine List.mem_filter.mpr ⟨(hkept.mem segment hsegment).mpr (Or.inl hrequired), ?_⟩
    rw [decide_eq_true_eq]
    intro hdropped
    rw [(hoptional segment hdropped).2] at hrequired
    cases hrequired
  · have hall := (without_perm hkeptNodup hgone fun segment hsegment =>
      (hoptional segment hsegment).1).map ContextSegment.sourceId
    have hsegments := (List.filter_append_perm (fun segment =>
      segment.required || isChosen segments segment) segments).map ContextSegment.sourceId
    have hsame : kept = segments.filter fun segment =>
        segment.required || isChosen segments segment := hkept.eq hnodup
    rw [← hsame, List.map_append, ← duplicates_ids] at hsegments
    rw [List.map_append] at hall
    show ((without kept (order.take m)).map ContextSegment.sourceId ++
      ((deduplicateOptional segments).2 ++ (order.take m).map overBudget).map
        ExcludedContextSource.sourceId).Perm (segments.map ContextSegment.sourceId)
    have hdropped : ((order.take m).map overBudget).map ExcludedContextSource.sourceId =
        (order.take m).map ContextSegment.sourceId := by
      rw [List.map_map]
      rfl
    rw [List.map_append, hdropped]
    -- the dropped segments go back to the kept ones
    refine List.Perm.trans ?_ ((hall.append_right _).trans hsegments)
    rw [List.append_assoc]
    exact List.perm_append_comm.append_left _
  · rcases List.mem_append.mp hexcluded with hexcluded | hexcluded
    · obtain ⟨segment, hsegment, winner, hwinner, hne, hclass, rfl⟩ := mem_duplicates hexcluded
      exact ⟨segment, hsegment, winner, hwinner, hne, hclass, rfl, rfl⟩
    · obtain ⟨segment, -, rfl⟩ := List.mem_map.mp hexcluded
      cases hreason
  · unfold ContextPreparationProfile.available at hfits
    show last.tokens + profile.reservedOutputTokens + profile.safetyMarginTokens ≤
      profile.maxContextTokens
    omega

end Preparing

/-- `prepare_context` fits exactly, for every counter of the profile. -/
def ExactFit (platform : Platform) : Prop :=
  ∀ (segments : List ContextSegment) (profile : ContextPreparationProfile)
      (counter : ContextTokenCounter),
    (segments.map ContextSegment.sourceId).Nodup →
    (∃ segment ∈ segments, segment.required = true) → Matches profile counter →
    (∃ kept order, Kept segments kept ∧ DropOrder kept order) ∧
    (∀ kept order, Kept segments kept → DropOrder kept order →
      (∀ m, m ≤ order.length → Fits profile counter (without kept (order.take m)) →
        (∀ j, j < m → ¬ Fits profile counter (without kept (order.take j))) →
        ∃ prepared, prepareContext platform segments profile counter = .ok prepared ∧
          chatOf (without kept (order.take m)) = .ok prepared.chat ∧
          prepared.includedSourceIds =
            (without kept (order.take m)).map ContextSegment.sourceId) ∧
      ((∀ m, m ≤ order.length → ¬ Fits profile counter (without kept (order.take m))) →
        ∃ required, prepareContext platform segments profile counter =
          .error (.overflow required profile.available))) ∧
    ∀ prepared, prepareContext platform segments profile counter = .ok prepared →
      Accounted segments profile prepared

/-- **Exact fit.**  The least number of drops in the order of the priorities that
makes the candidate's count fit, an overflow when there is none, and complete
accounts of what was left out. -/
theorem prepare_context_fits (platform : Platform) : ExactFit platform := by
  intro segments profile counter hunique hrequired hmatch
  have hnodup : segments.Nodup := List.Nodup.of_map _ hunique
  have hkept := deduplicate_kept segments
  have horder := dropOrder_spec (hnodup.sublist hkept.sublist)
  refine ⟨⟨_, _, hkept, horder⟩, fun kept order hkept horder => ⟨?_, fun hnone => ?_⟩,
    fun prepared hprepared => ?_⟩
  · intro m hle hfits hleast
    obtain ⟨m', last, hle', hcounts, hcase, hearlier, hok, -⟩ :=
      @prepareContext_run platform _ _ _ _ _ hmatch hunique hrequired hkept horder
    -- both are the least number of drops that fits
    obtain rfl : m = m' := by
      by_contra hne
      rcases lt_or_gt_of_ne hne with hlt | hlt
      · exact hearlier m hlt hfits
      · rcases hcase with hfits' | hall
        · exact hleast m' hlt hfits'
        · omega
    obtain ⟨input, hinput, hprepare⟩ := hok ((fits_iff hcounts).mp hfits)
    exact ⟨_, hprepare, hinput, rfl⟩
  · obtain ⟨m, last, hle, hcounts, -, -, -, hover⟩ :=
      @prepareContext_run platform _ _ _ _ _ hmatch hunique hrequired hkept horder
    exact ⟨last.tokens, hover fun hfits => hnone m hle ((fits_iff hcounts).mpr hfits)⟩
  · obtain ⟨m, last, -, -, -, -, hok, hover⟩ :=
      @prepareContext_run platform _ _ _ _ _ hmatch hunique hrequired hkept horder
    by_cases hfits : last.tokens ≤ profile.available
    · obtain ⟨input, -, hprepare⟩ := hok hfits
      rw [hprepare, Except.ok.injEq] at hprepared
      rw [← hprepared]
      exact accounted_of_run hunique hkept horder m hfits
    · rw [hover hfits] at hprepared
      cases hprepared

end Context
end Ryuk
