import Mathlib.Data.Fintype.Card
import Ryuk.Foundation.Dependency

/-!
# Peeling decides acyclicity

The loop that removes the free nodes round by round ends within as many rounds as there are
nodes (`loop_terminates`), and it removes them all exactly when no node depends on itself
through others (`peel_iff_acyclic`).  The reason is that in a finite relation without a
cycle some node has no dependency left; that node is free.

Without a cycle the nodes can also be listed with every node after its dependencies, and
the other way round (`ordered_iff_acyclic`).
-/

namespace Ryuk
namespace Foundation
namespace Dependency

open Relation

section Loop

variable {ι : Type} [DecidableEq ι] {dependencies : ι → List ι}

/-! ### The loop -/

/-- The loop as it runs: how many rounds it takes from the remaining nodes, and whether it
removes them all. -/
inductive Loop (dependencies : ι → List ι) : List ι → Nat → Bool → Prop
  | done : Loop dependencies [] 0 true
  | stuck {remaining : List ι} (hsome : remaining ≠ [])
      (hnone : remaining.any (free dependencies remaining) = false) :
      Loop dependencies remaining 1 false
  | round {remaining : List ι} {rounds : Nat} {result : Bool} (hsome : remaining ≠ [])
      (hfree : remaining.any (free dependencies remaining) = true)
      (hrest : Loop dependencies
        (remaining.filter fun node => !free dependencies remaining node) rounds result) :
      Loop dependencies remaining (rounds + 1) result

/-- A round that finds a free node leaves fewer nodes. -/
theorem length_round {remaining : List ι}
    (hfree : remaining.any (free dependencies remaining) = true) :
    (remaining.filter fun node => !free dependencies remaining node).length
      < remaining.length := by
  obtain ⟨node, hnode, hnode'⟩ := List.any_eq_true.mp hfree
  apply List.length_filter_lt_length_iff_exists.mpr
  exact ⟨node, hnode, by simp [hnode']⟩

/-- **Termination.**  The loop ends after at most one round for each node, and counting the
rounds down finds the same result. -/
theorem loop_terminates (dependencies : ι → List ι) (remaining : List ι) :
    ∃ rounds result, rounds ≤ remaining.length ∧ Loop dependencies remaining rounds result ∧
      ∀ fuel, remaining.length ≤ fuel → peel dependencies fuel remaining = result := by
  induction hlength : remaining.length using Nat.strong_induction_on generalizing remaining with
  | h length ih =>
      subst hlength
      by_cases hempty : remaining = []
      · subst hempty
        refine ⟨0, true, Nat.le_refl 0, .done, fun fuel _ => ?_⟩
        cases fuel with
        | zero => rfl
        | succ fuel => rfl
      · have hpositive : 0 < remaining.length := List.length_pos_of_ne_nil hempty
        have hisEmpty : remaining.isEmpty = false := by
          rw [← Bool.not_eq_true, List.isEmpty_iff]
          exact hempty
        cases hfree : remaining.any (free dependencies remaining) with
        | false =>
            refine ⟨1, false, hpositive, .stuck hempty hfree, fun fuel hfuel => ?_⟩
            cases fuel with
            | zero => omega
            | succ fuel =>
                rw [peel, hisEmpty, hfree]
                rfl
        | true =>
            have hshorter := length_round hfree
            obtain ⟨rounds, result, hrounds, hloop, hpeel⟩ := ih _ hshorter _ rfl
            refine ⟨rounds + 1, result, by omega, .round hempty hfree hloop, fun fuel hfuel => ?_⟩
            cases fuel with
            | zero => omega
            | succ fuel =>
                rw [peel, hisEmpty, hfree]
                exact hpeel fuel (by omega)

/-! ### Cycles -/

/-- One node depends directly on another, both among the given nodes. -/
def Within (dependencies : ι → List ι) (nodes : List ι) (node other : ι) : Prop :=
  node ∈ nodes ∧ other ∈ nodes ∧ other ∈ dependencies node

/-- No node depends on itself, directly or through others. -/
def Acyclic (dependencies : ι → List ι) (nodes : List ι) : Prop :=
  ∀ node, ¬ TransGen (Within dependencies nodes) node node

omit [DecidableEq ι] in
theorem acyclic_of_ranked {nodes : List ι} (h : Ranked dependencies nodes) :
    Acyclic dependencies nodes := by
  obtain ⟨rank, hrank⟩ := h
  have hfalls : ∀ node other, TransGen (Within dependencies nodes) node other →
      rank other < rank node := by
    intro node other hpath
    induction hpath with
    | single hstep => exact hrank _ hstep.1 _ hstep.2.2 hstep.2.1
    | tail _ hstep ih =>
        have hlast := hrank _ hstep.1 _ hstep.2.2 hstep.2.1
        omega
  intro node hcycle
  have hself := hfalls node node hcycle
  omega

omit [DecidableEq ι] in
/-- Fewer nodes have no more cycles. -/
theorem Acyclic.mono {nodes fewer : List ι} (h : Acyclic dependencies nodes)
    (hsub : ∀ node ∈ fewer, node ∈ nodes) : Acyclic dependencies fewer := by
  intro node hcycle
  apply h node
  have hmono : Within dependencies fewer ≤ Within dependencies nodes := fun first second hstep =>
    ⟨hsub first hstep.1, hsub second hstep.2.1, hstep.2.2⟩
  exact TransGen.mono hmono node node hcycle

/-- **A free node.**  Nodes without a cycle have one that depends on none of them. -/
theorem Acyclic.exists_free {nodes : List ι} (h : Acyclic dependencies nodes)
    (hsome : nodes ≠ []) : nodes.any (free dependencies nodes) = true := by
  -- the transitive dependency of the nodes is a strict order on a finite type
  let below : {node // node ∈ nodes} → {node // node ∈ nodes} → Prop :=
    fun other node => TransGen (Within dependencies nodes) node.1 other.1
  have htrans : IsTrans _ below := ⟨fun _ _ _ hfirst hsecond => hsecond.trans hfirst⟩
  have hirrefl : Std.Irrefl below := ⟨fun node => h node.1⟩
  have hfinite : Finite {node // node ∈ nodes} := List.finite_toSet nodes
  have hwf := Finite.wellFounded_of_trans_of_irrefl below
  obtain ⟨first, hfirst⟩ := List.exists_mem_of_ne_nil nodes hsome
  obtain ⟨lowest, -, hlowest⟩ := hwf.has_min Set.univ ⟨⟨first, hfirst⟩, trivial⟩
  rw [List.any_eq_true]
  refine ⟨lowest.1, lowest.2, ?_⟩
  unfold free
  rw [List.all_eq_true]
  intro dependency hdependency
  rw [decide_eq_true_eq]
  intro hmem
  exact hlowest ⟨dependency, hmem⟩ trivial (TransGen.single ⟨lowest.2, hmem, hdependency⟩)

theorem peel_of_acyclic {fuel : Nat} {nodes : List ι} (h : Acyclic dependencies nodes)
    (hfuel : nodes.length ≤ fuel) : peel dependencies fuel nodes = true := by
  induction fuel generalizing nodes with
  | zero =>
      rw [peel, List.isEmpty_iff]
      exact List.eq_nil_of_length_eq_zero (by omega)
  | succ fuel ih =>
      rw [peel]
      split_ifs with hempty hfree
      · rfl
      · have hshorter := length_round hfree
        apply ih
        · exact h.mono fun node hnode => List.mem_of_mem_filter hnode
        · omega
      · exact absurd (h.exists_free fun hnil => hempty (by rw [hnil]; rfl)) hfree

/-- **Soundness and completeness.**  With enough rounds, peeling removes every node exactly
when there is no cycle. -/
theorem peel_iff_acyclic {fuel : Nat} {nodes : List ι} (hfuel : nodes.length ≤ fuel) :
    peel dependencies fuel nodes = true ↔ Acyclic dependencies nodes := by
  constructor
  · intro h
    exact acyclic_of_ranked (ranked_of_peel h)
  · intro h
    exact peel_of_acyclic h hfuel

/-! ### Orders -/

/-- The nodes can be listed with every node after its dependencies. -/
def Ordered (dependencies : ι → List ι) (nodes : List ι) : Prop :=
  ∃ order : List ι, order.Perm nodes ∧ ∀ before node after, order = before ++ node :: after →
    ∀ dependency ∈ dependencies node, dependency ∈ nodes → dependency ∈ before

omit [DecidableEq ι] in
theorem ordered_of_ranked {nodes : List ι} (h : Ranked dependencies nodes) :
    Ordered dependencies nodes := by
  obtain ⟨rank, hrank⟩ := h
  refine ⟨nodes.mergeSort fun left right => decide (rank left ≤ rank right),
    List.mergeSort_perm .., fun before node after horder dependency hdependency hmem => ?_⟩
  have hperm := List.mergeSort_perm nodes fun left right => decide (rank left ≤ rank right)
  have hsorted : (nodes.mergeSort fun left right => decide (rank left ≤ rank right)).Pairwise
      fun left right => decide (rank left ≤ rank right) = true := by
    apply List.pairwise_mergeSort
    · intro first second third hfirst hsecond
      rw [decide_eq_true_eq] at hfirst hsecond ⊢
      omega
    · intro first second
      rw [Bool.or_eq_true, decide_eq_true_eq, decide_eq_true_eq]
      omega
  rw [horder] at hperm hsorted
  have hnode : node ∈ nodes := hperm.mem_iff.mp (by simp)
  have hlt := hrank node hnode dependency hdependency hmem
  have hplace := hperm.mem_iff.mpr hmem
  rcases List.mem_append.mp hplace with hbefore | hlater
  · exact hbefore
  · -- what comes later does not rank lower
    have htail := (List.pairwise_append.mp hsorted).2.1
    rcases List.mem_cons.mp hlater with rfl | hafter
    · omega
    · have hle := of_decide_eq_true (List.rel_of_pairwise_cons htail hafter)
      omega

theorem ranked_of_ordered {nodes : List ι} (h : Ordered dependencies nodes) :
    Ranked dependencies nodes := by
  obtain ⟨order, hperm, horder⟩ := h
  refine ⟨order.idxOf, fun node hnode dependency hdependency hmem => ?_⟩
  obtain ⟨before, after, hsplit, hfresh⟩ := List.eq_append_cons_of_mem (hperm.mem_iff.mpr hnode)
  have hbefore := horder before node after hsplit dependency hdependency hmem
  show order.idxOf dependency < order.idxOf node
  rw [hsplit, List.idxOf_append_of_mem hbefore, List.idxOf_append_of_notMem hfresh,
    List.idxOf_cons_self, Nat.add_zero]
  exact List.idxOf_lt_length_of_mem hbefore

/-- **Orders.**  There is such a list exactly when there is no cycle. -/
theorem ordered_iff_acyclic {nodes : List ι} :
    Ordered dependencies nodes ↔ Acyclic dependencies nodes := by
  constructor
  · intro h
    exact acyclic_of_ranked (ranked_of_ordered h)
  · intro h
    exact ordered_of_ranked (ranked_of_peel (peel_of_acyclic h (Nat.le_refl _)))

end Loop

end Dependency
end Foundation
end Ryuk
