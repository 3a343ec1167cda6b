import Ryuk.Inference.Policy

/-!
# The order of the candidates

A candidate's score reads no other candidate, and with distinct registration indexes no two
scores have the same sort key.  So the ranking of a slate of candidates is one total order: it
does not depend on the order in which the candidates are listed, and leaving some of them
out does not reorder the others.
-/

namespace Ryuk
namespace Inference

open Foundation Foundation.Ranking

/-- Candidates with distinct ids and distinct indexes, all of which can be scored: a failure
rate, where there is one, leads to a finite number. -/
structure Slate (rounding : Rounding) where
  candidates : List PolicyCandidate
  ids : (candidates.map PolicyCandidate.deploymentId).Nodup
  indexes : (candidates.map PolicyCandidate.registrationIndex).Nodup
  scorable : ∀ candidate ∈ candidates, ∃ value,
    reliabilityScore rounding candidate.runtime = .ok value

section Scores

variable {lowercase : Lowercase} {rounding : Rounding} {task : InferenceTask}
  {preferred : Option String} {candidate : PolicyCandidate} {candidates rest : List PolicyCandidate}

/-- The score of a candidate that can be scored. -/
def scoreOf (lowercase : Lowercase) (rounding : Rounding) (task : InferenceTask)
    (preferred : Option String) (candidate : PolicyCandidate) : RoutingScore :=
  RoutingScore.ofComponents candidate.deploymentId
    (scoreComponents lowercase task candidate preferred
      ((reliabilityScore rounding candidate.runtime).toOption.getD 0))

@[simp] theorem scoreOf_deploymentId :
    (scoreOf lowercase rounding task preferred candidate).deploymentId =
      candidate.deploymentId := rfl

theorem score_eq (h : ∃ value, reliabilityScore rounding candidate.runtime = .ok value) :
    score lowercase rounding task preferred candidate =
      .ok (scoreOf lowercase rounding task preferred candidate) := by
  obtain ⟨value, hvalue⟩ := h
  unfold score scoreOf
  rw [hvalue]
  rfl

/-- A traversal whose steps all return. -/
theorem mapM_eq_map {α β : Type} {f : α → Except PyError β} {g : α → β} {values : List α}
    (h : ∀ value ∈ values, f value = .ok (g value)) : values.mapM f = .ok (values.map g) := by
  induction values with
  | nil => rfl
  | cons value others ih =>
      rw [List.mapM_cons, h value (List.mem_cons_self ..), except_ok_bind,
        ih fun other hother => h other (List.mem_cons_of_mem _ hother)]
      rfl

/-- The sort key of a candidate. -/
def candidateKey (lowercase : Lowercase) (rounding : Rounding) (task : InferenceTask)
    (preferred : Option String) (candidate : PolicyCandidate) : ℤ ×ₗ ℤ :=
  toLex (-(scoreOf lowercase rounding task preferred candidate).total,
    candidate.registrationIndex)

/-- With distinct ids the table by id holds every candidate. -/
theorem candidateOf_of_mem (hids : (candidates.map PolicyCandidate.deploymentId).Nodup)
    (hmem : candidate ∈ candidates) :
    candidateOf candidates candidate.deploymentId = some candidate := by
  unfold candidateOf
  cases hfind : candidates.reverse.find? fun found =>
      decide (found.deploymentId = candidate.deploymentId) with
  | none =>
      have hnone := List.find?_eq_none.mp hfind candidate (List.mem_reverse.mpr hmem)
      simp at hnone
  | some found =>
      have hid : found.deploymentId = candidate.deploymentId := by
        simpa using List.find?_some hfind
      have hfound : found ∈ candidates :=
        List.mem_reverse.mp (List.mem_of_find?_eq_some hfind)
      rw [List.inj_on_of_nodup_map hids hfound hmem hid]

theorem rankKey_scoreOf (hids : (candidates.map PolicyCandidate.deploymentId).Nodup)
    (hmem : candidate ∈ candidates) :
    rankKey candidates (scoreOf lowercase rounding task preferred candidate) =
      candidateKey lowercase rounding task preferred candidate := by
  unfold rankKey candidateKey
  rw [scoreOf_deploymentId, candidateOf_of_mem hids hmem]
  rfl

end Scores

/-! ### Slates -/

namespace Slate

variable {rounding : Rounding} (lowercase : Lowercase) (task : InferenceTask)
  (preferred : Option String) (slate : Slate rounding)

/-- The scores of a slate, in its order. -/
def scores : List RoutingScore :=
  slate.candidates.map (scoreOf lowercase rounding task preferred)

/-- The scores of a slate, ranked. -/
def ranking : List RoutingScore :=
  sortBy (rankKey slate.candidates) (slate.scores lowercase task preferred)

/-- A slate is ranked. -/
theorem rankCandidates_eq :
    rankCandidates lowercase rounding task slate.candidates preferred =
      .ok ⟨policyVersion,
        (slate.ranking lowercase task preferred).map RoutingScore.deploymentId,
        slate.ranking lowercase task preferred⟩ := by
  unfold rankCandidates
  rw [mapM_eq_map fun candidate hmem => score_eq (slate.scorable candidate hmem)]
  rfl

/-- Fewer candidates in any order are a slate. -/
def restrict (rest : List PolicyCandidate) (h : List.Subperm rest slate.candidates) :
    Slate rounding where
  candidates := rest
  ids := nodup_map_of_subperm h slate.ids
  indexes := nodup_map_of_subperm h slate.indexes
  scorable candidate hmem := slate.scorable candidate (h.subset hmem)

variable {lowercase task preferred slate}

/-- No two scores of a slate have the same key. -/
theorem separates : Separates (rankKey slate.candidates) (slate.scores lowercase task preferred) := by
  intro first hfirst second hsecond hkey
  obtain ⟨candidate, hmem, rfl⟩ := List.mem_map.mp hfirst
  obtain ⟨other, hother, rfl⟩ := List.mem_map.mp hsecond
  rw [rankKey_scoreOf slate.ids hmem, rankKey_scoreOf slate.ids hother] at hkey
  have hindex : candidate.registrationIndex = other.registrationIndex :=
    (Prod.mk.inj (toLex.injective hkey)).2
  rw [List.inj_on_of_nodup_map slate.indexes hmem hother hindex]

/-- In a part of a slate every score has the key it has in the whole. -/
theorem rankKey_restrict {rest : List PolicyCandidate}
    (h : List.Subperm rest slate.candidates) {scored : RoutingScore}
    (hscored : scored ∈ (slate.restrict rest h).scores lowercase task preferred) :
    rankKey rest scored = rankKey slate.candidates scored := by
  obtain ⟨candidate, hmem, rfl⟩ := List.mem_map.mp hscored
  exact (rankKey_scoreOf (slate.restrict rest h).ids hmem).trans
    (rankKey_scoreOf slate.ids (h.subset hmem)).symm

/-- **Removing candidates** leaves the order of the others. -/
theorem ranking_restrict {rest : List PolicyCandidate}
    (h : List.Subperm rest slate.candidates) :
    ((slate.restrict rest h).ranking lowercase task preferred).Sublist
      (slate.ranking lowercase task preferred) :=
  sortBy_sublist separates (fun _ hscored => rankKey_restrict h hscored) (subperm_map _ h)

/-- **Reordering candidates** leaves the ranking. -/
theorem ranking_of_perm {others : List PolicyCandidate} (h : others.Perm slate.candidates) :
    (slate.restrict others h.subperm).ranking lowercase task preferred =
      slate.ranking lowercase task preferred :=
  sortBy_of_perm separates (fun _ hscored => rankKey_restrict h.subperm hscored) (h.map _)

/-- Every candidate is ranked once. -/
theorem ranking_perm : ((slate.ranking lowercase task preferred).map
    RoutingScore.deploymentId).Perm (slate.candidates.map PolicyCandidate.deploymentId) := by
  have hperm := (sortBy_perm (rankKey slate.candidates)
    (slate.scores lowercase task preferred)).map RoutingScore.deploymentId
  rwa [scores, List.map_map] at hperm

/-- The ranked scores are those of the candidates. -/
theorem mem_ranking {scored : RoutingScore} :
    scored ∈ slate.ranking lowercase task preferred ↔
      ∃ candidate ∈ slate.candidates,
        scoreOf lowercase rounding task preferred candidate = scored := by
  unfold ranking
  rw [mem_sortBy, scores, List.mem_map]

/-- The keys of two candidates in order. -/
theorem candidateKey_le_iff {first second : PolicyCandidate} :
    candidateKey lowercase rounding task preferred first ≤
        candidateKey lowercase rounding task preferred second ↔
      (scoreOf lowercase rounding task preferred second).total <
          (scoreOf lowercase rounding task preferred first).total ∨
        ((scoreOf lowercase rounding task preferred second).total =
            (scoreOf lowercase rounding task preferred first).total ∧
          first.registrationIndex ≤ second.registrationIndex) := by
  unfold candidateKey
  rw [Prod.Lex.toLex_le_toLex]
  constructor
  · rintro (h | ⟨h, hindex⟩)
    · exact Or.inl (by simpa using h)
    · exact Or.inr ⟨by simpa using h.symm, hindex⟩
  · rintro (h | ⟨h, hindex⟩)
    · exact Or.inl (by simpa using h)
    · exact Or.inr ⟨by simpa using h.symm, hindex⟩

end Slate

end Inference
end Ryuk
