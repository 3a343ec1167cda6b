import Mathlib.Order.Bounds.Basic
import Ryuk.Context.Fitting
import Ryuk.Context.Integrity

/-!
# What a build assembles

A build puts the policy first, then the required sources, the recent messages and the
optional sources.  Segments with one identifier are merged into the first of them, or
the build fails because they differ.
-/

namespace Ryuk
namespace Context

open Foundation Foundation.Numbering Foundation.Transaction Inference

/-! ### Merging -/

section Merging

variable {parts ordered appended : List ContextSegment} {current segment : ContextSegment}

/-- What is required for one reason stays a valid segment. -/
theorem ContextSegment.check_or {sourceId sourceRevision content : String} {role : ChatRole}
    {trust : ContextTrust} {required other : Bool}
    (h : ContextSegment.check sourceId sourceRevision role content trust required = .ok ()) :
    ContextSegment.check sourceId sourceRevision role content trust (required || other) =
      .ok () := by
  cases required with
  | true => exact h
  | false =>
      cases other with
      | false => exact h
      | true =>
          unfold ContextSegment.check at h ⊢
          simp only [context_bind_ok] at h ⊢
          obtain ⟨_, hsource, _, hrevision, _, hcontent, _, hsystem, _, htrusted, _, -, hrole⟩ := h
          refine ⟨(), hsource, (), hrevision, (), hcontent, (), hsystem, (), htrusted, (), ?_, hrole⟩
          rw [Bool.false_or, Bool.not_true, Bool.and_false]
          rfl

/-- The first of two segments with one identifier, with the marks of both. -/
def ContextSegment.merged (current segment : ContextSegment) : ContextSegment where
  sourceId := current.sourceId
  sourceRevision := current.sourceRevision
  role := current.role
  content := current.content
  trust := current.trust
  required := current.required || segment.required
  priority := max current.priority segment.priority
  checked := ContextSegment.check_or current.checked

/-- Parts with one identifier say the same. -/
def Coherent (parts : List ContextSegment) : Prop :=
  ∀ part ∈ parts, ∀ other ∈ parts, part.sourceId = other.sourceId → part.agrees other = true

/-- The parts with an identifier. -/
def partsOf (id : String) (parts : List ContextSegment) : List ContextSegment :=
  parts.filter fun part => decide (part.sourceId = id)

/-- The segment says what its parts say and has the marks of all of them. -/
structure Marks (segment : ContextSegment) (parts : List ContextSegment) : Prop where
  agrees : ∀ part ∈ parts, segment.agrees part = true
  required : segment.required = true ↔ ∃ part ∈ parts, part.required = true
  priority : IsGreatest {priority | ∃ part ∈ parts, part.priority = priority} segment.priority

/-- The segments are the parts, each identifier at its first place, with the marks of
all the parts that have it. -/
structure Assembled (parts ordered : List ContextSegment) : Prop where
  ids : ordered.map ContextSegment.sourceId = (parts.map ContextSegment.sourceId).eraseDups
  marks : ∀ segment ∈ ordered, Marks segment (partsOf segment.sourceId parts)

/-- A merged segment has the marks of one part more. -/
theorem Marks.merged (h : Marks current parts) (hagrees : current.agrees segment = true) :
    Marks (current.merged segment) (parts ++ [segment]) := by
  refine ⟨fun part hpart => ?_, ?_, ?_, ?_⟩
  · rcases List.mem_append.mp hpart with hpart | hpart
    · exact h.agrees part hpart
    · rw [List.mem_singleton.mp hpart]
      exact hagrees
  · show (current.required || segment.required) = true ↔ _
    rw [Bool.or_eq_true, h.required]
    simp only [List.mem_append, List.mem_singleton, or_and_right, exists_or, exists_eq_left]
  · -- the larger priority is that of a part
    show ∃ part ∈ parts ++ [segment], part.priority = max current.priority segment.priority
    obtain ⟨part, hpart, hpriority⟩ := h.priority.1
    rcases max_choice current.priority segment.priority with hmax | hmax
    · exact ⟨part, List.mem_append_left _ hpart, hpriority.trans hmax.symm⟩
    · exact ⟨segment, by simp, hmax.symm⟩
  · rintro priority ⟨part, hpart, rfl⟩
    show part.priority ≤ max current.priority segment.priority
    rcases List.mem_append.mp hpart with hpart | hpart
    · exact le_max_of_le_left (h.priority.2 ⟨part, hpart, rfl⟩)
    · rw [List.mem_singleton.mp hpart]
      exact le_max_right _ _

theorem eraseDups_append_mem {ids : List String} {id : String} (h : id ∈ ids) :
    (ids ++ [id]).eraseDups = ids.eraseDups := by
  rw [List.eraseDups_append]
  simp [List.removeAll, h]

theorem eraseDups_append_new {ids : List String} {id : String} (h : id ∉ ids) :
    (ids ++ [id]).eraseDups = ids.eraseDups ++ [id] := by
  rw [List.eraseDups_append]
  simp [List.removeAll, h, List.eraseDups_cons]

theorem eraseDups_nodup (ids : List String) : ids.eraseDups.Nodup := by
  induction ids using List.reverseRecOn with
  | nil => exact List.nodup_nil
  | append_singleton ids id ih =>
      by_cases hmem : id ∈ ids
      · rw [eraseDups_append_mem hmem]
        exact ih
      · rw [eraseDups_append_new hmem, List.nodup_append]
        refine ⟨ih, List.nodup_singleton _, fun other hother last hlast hsame => hmem ?_⟩
        rw [List.mem_singleton.mp hlast] at hsame
        rw [← hsame]
        exact List.mem_eraseDups.mp hother

theorem Assembled.mem_ids (h : Assembled parts ordered) {id : String} :
    id ∈ ordered.map ContextSegment.sourceId ↔ id ∈ parts.map ContextSegment.sourceId := by
  rw [h.ids, List.mem_eraseDups]

theorem Assembled.nodup (h : Assembled parts ordered) :
    (ordered.map ContextSegment.sourceId).Nodup := by
  rw [h.ids]
  exact eraseDups_nodup _

end Merging

/-! ### What is read -/

section Reading

variable {platform : Platform} {actor : ContextPrincipal} {tables : ContextTables}
  {conversationId : String} {selection : Selection} {segment : ContextSegment}

theorem asSegment_marks {row : SourceRow} {required : Bool} {priority : Int}
    (h : asSegment platform row required priority = .ok segment) :
    segment.required = required ∧ segment.priority = priority := by
  unfold asSegment at h
  rw [context_bind_ok] at h
  obtain ⟨_, -, hnew⟩ := h
  rw [ContextSegment.new_of_checked (ContextSegment.new_checked hnew), Except.ok.injEq] at hnew
  rw [← hnew]
  exact ⟨rfl, rfl⟩

/-- A stored source is no policy. -/
theorem SourceRow.Sound.trust {row : SourceRow} (h : row.Sound platform) : row.trust ≠ .policy := by
  intro htrust
  have hchecked := h.checked
  unfold ContextSegment.check requireThat at hchecked
  rw [htrust] at hchecked
  simp [context_bind_ok] at hchecked

theorem Reads.fields (h : Reads platform actor tables selection segment)
    (hintegrity : tables.Integrity platform) :
    segment.sourceId = selection.sourceId ∧ segment.required = selection.required ∧
      segment.priority = selection.priority ∧ segment.trust ≠ .policy := by
  obtain ⟨row, hrow, hsegment⟩ := h
  have hkey : row.key = (actor.tenantId, selection.sourceId, selection.revision) :=
    Table.find_key hrow
  have hshows := asSegment_ok hsegment
  obtain ⟨hrequired, hpriority⟩ := asSegment_marks hsegment
  refine ⟨hshows.sourceId.trans (Prod.mk.inj (Prod.mk.inj hkey).2).1, hrequired, hpriority, ?_⟩
  rw [hshows.trust]
  exact (hintegrity.sound row (Table.mem_of_find hrow)).trust

theorem EntryRow.ShownBy.fields {entry : EntryRow} {priority : Int}
    (h : entry.ShownBy platform tables priority segment) (hintegrity : tables.Integrity platform) :
    segment.sourceId = entry.sourceId ∧ segment.required = false ∧ segment.priority = priority ∧
      segment.trust ≠ .policy := by
  obtain ⟨row, hrow, hsegment⟩ := h
  have hkey : row.key = entry.sourceKey := Table.find_key hrow
  have hshows := asSegment_ok hsegment
  obtain ⟨hrequired, hpriority⟩ := asSegment_marks hsegment
  refine ⟨hshows.sourceId.trans (Prod.mk.inj (Prod.mk.inj hkey).2).1, hrequired, hpriority, ?_⟩
  rw [hshows.trust]
  exact (hintegrity.sound row (Table.mem_of_find hrow)).trust

end Reading

/-! ### Building -/

section Building

variable {platform : Platform} {builder : ContextBuilder} {first second third : ContextTables}
  {actor : ContextPrincipal} {conversationId : String} {sources : List ContextSourceRef}
  {limit : Int} {record : ConversationRecord} {policy resolved recent : List ContextSegment}

end Building

/-! ### Preparing what was built -/

section Preparing

variable {platform : Platform} {profile : ContextPreparationProfile}
  {counter : ContextTokenCounter} {message : String}

end Preparing

/-! ### Exact assembly -/

section Exactly

variable {platform : Platform} {builder : ContextBuilder} {first second third : ContextTables}
  {actor : ContextPrincipal} {conversationId : String} {sources : List ContextSourceRef}
  {limit : Int} {record : ConversationRecord} {policy resolved recent ordered : List ContextSegment}

end Exactly

end Context
end Ryuk
