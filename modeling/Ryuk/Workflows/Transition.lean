import Ryuk.Workflows.Scheduling

/-!
# What a transition changes

A transition moves the one node to its target.  Every other node keeps its state,
unless it was blocked and is now ready or skipped.
-/

namespace Ryuk
namespace Workflows

open Foundation Foundation.Json Foundation.Dependency

/-! ### Releasing blocked nodes -/

/-- Every node keeps its state, or was blocked and is ready or skipped now. -/
def Released (before after : States) : Prop :=
  ∀ nodeId, after nodeId = before nodeId ∨
    (before nodeId = some .blocked ∧
      (after nodeId = some .ready ∨ after nodeId = some .skipped))

theorem Released.refl (states : States) : Released states states := fun _ => Or.inl rfl

theorem Released.trans {first second third : States} (hfirst : Released first second)
    (hsecond : Released second third) : Released first third := by
  intro nodeId
  rcases hfirst nodeId with hsame | ⟨hblocked, hmoved⟩
  · rcases hsecond nodeId with hsame' | ⟨hblocked', hmoved'⟩
    · exact Or.inl (hsame'.trans hsame)
    · exact Or.inr ⟨hsame ▸ hblocked', hmoved'⟩
  · rcases hsecond nodeId with hsame' | ⟨hblocked', -⟩
    · exact Or.inr ⟨hblocked, by rw [hsame']; exact hmoved⟩
    · -- a ready or skipped node is not blocked again
      rw [hblocked'] at hmoved
      rcases hmoved with hmoved | hmoved <;> cases hmoved

theorem Released.set {states : States} {nodeId : String} {state : NodeState}
    (hblocked : states nodeId = some .blocked) (hstate : state = .ready ∨ state = .skipped) :
    Released states (states.set nodeId state) := by
  intro other
  unfold States.set
  by_cases hother : other = nodeId
  · subst hother
    right
    rw [Function.update_self]
    rcases hstate with rfl | rfl
    · exact ⟨hblocked, Or.inl rfl⟩
    · exact ⟨hblocked, Or.inr rfl⟩
  · left
    rw [Function.update_of_ne hother]

/-- The number of blocked nodes. -/
def blockedCount (states : States) (nodes : List GraphNode) : Nat :=
  nodes.countP fun node => decide (states node.nodeId = some .blocked)

theorem Released.blockedCount_le {before after : States} (h : Released before after)
    (nodes : List GraphNode) : blockedCount after nodes ≤ blockedCount before nodes := by
  refine List.countP_mono_left fun node _ hblocked => ?_
  rw [decide_eq_true_eq] at hblocked ⊢
  rcases h node.nodeId with hsame | ⟨hbefore, -⟩
  · rw [← hsame, hblocked]
  · exact hbefore

/-- Setting a blocked node to something else leaves one blocked node fewer. -/
theorem blockedCount_set_lt {states : States} {nodes : List GraphNode} {node : GraphNode}
    {state : NodeState} (hnode : node ∈ nodes) (hblocked : states node.nodeId = some .blocked)
    (hstate : state = .ready ∨ state = .skipped) :
    blockedCount (states.set node.nodeId state) nodes < blockedCount states nodes := by
  have hreleased := Released.set hblocked hstate
  have hself : (states.set node.nodeId state) node.nodeId ≠ some .blocked := by
    unfold States.set
    rw [Function.update_self]
    rcases hstate with rfl | rfl <;> decide
  induction nodes with
  | nil => cases hnode
  | cons first rest ih =>
      unfold blockedCount
      rw [List.countP_cons, List.countP_cons]
      have hle := hreleased.blockedCount_le rest
      unfold blockedCount at hle
      rcases List.mem_cons.mp hnode with rfl | hrest
      · simp only [hself, decide_false, Bool.false_eq_true, if_false, hblocked, decide_true,
          if_true]
        omega
      · have hlt := ih hrest
        unfold blockedCount at hlt
        rcases hreleased first.nodeId with hsame | ⟨hbefore, -⟩
        · rw [hsame]
          omega
        · simp only [hbefore, decide_true, if_true]
          split_ifs <;> omega

/-- One pass releases blocked nodes, fewer of which remain when it changed
something. -/
theorem refreshPass_ok {states final : States} {changed result : Bool} {nodes : List GraphNode}
    (h : refreshPass states changed nodes = .ok (final, result)) :
    Released states final ∧ ∀ all, (∀ node ∈ nodes, node ∈ all) → result = true →
      changed = true ∨ blockedCount final all < blockedCount states all := by
  induction nodes generalizing states changed with
  | nil =>
      obtain ⟨rfl, rfl⟩ := Prod.mk.inj (Except.ok.inj h)
      exact ⟨Released.refl _, fun _ _ hresult => Or.inl hresult⟩
  | cons node rest ih =>
      rw [refreshPass, except_bind_ok] at h
      obtain ⟨state, hstate, h⟩ := h
      rw [States.get_ok] at hstate
      by_cases hblocked : state = .blocked
      · subst hblocked
        rw [if_neg (by simp), except_bind_ok] at h
        obtain ⟨dependencies, -, h⟩ := h
        -- a released node is one blocked node fewer, and the rest of the pass adds none
        have hmoved : ∀ state, (state = .ready ∨ state = .skipped) →
            refreshPass (states.set node.nodeId state) true rest = .ok (final, result) →
            Released states final ∧ ∀ all, (∀ node' ∈ node :: rest, node' ∈ all) →
              result = true → changed = true ∨ blockedCount final all < blockedCount states all := by
          intro state hcase hrest
          obtain ⟨hreleased, -⟩ := ih hrest
          refine ⟨(Released.set hstate hcase).trans hreleased, fun all hall _ => Or.inr ?_⟩
          have hlt := blockedCount_set_lt (hall node (List.mem_cons_self ..)) hstate hcase
          have hle := hreleased.blockedCount_le all
          omega
        split_ifs at h
        · exact hmoved .skipped (Or.inr rfl) h
        · exact hmoved .ready (Or.inl rfl) h
        · obtain ⟨hreleased, hcount⟩ := ih h
          exact ⟨hreleased, fun all hall => hcount all fun other hother =>
            hall other (List.mem_cons_of_mem _ hother)⟩
      · rw [if_pos hblocked] at h
        obtain ⟨hreleased, hcount⟩ := ih h
        exact ⟨hreleased, fun all hall => hcount all fun other hother =>
          hall other (List.mem_cons_of_mem _ hother)⟩

theorem refreshWaitingNodes_released {nodes : List GraphNode} {fuel : Nat}
    {states final : States} (h : refreshWaitingNodes nodes fuel states = .ok final) :
    Released states final := by
  induction fuel generalizing states with
  | zero =>
      obtain rfl := Except.ok.inj h
      exact Released.refl _
  | succ fuel ih =>
      rw [refreshWaitingNodes, except_bind_ok] at h
      obtain ⟨⟨middle, changed⟩, hpass, h⟩ := h
      have hreleased := (refreshPass_ok hpass).1
      cases changed with
      | true => exact hreleased.trans (ih h)
      | false =>
          obtain rfl := Except.ok.inj h
          exact hreleased

/-! ### Transitions -/

theorem collectStates_ok {states : States} {nodes : List GraphNode}
    {nodeStates : List (String × NodeState)} (h : collectStates states nodes = .ok nodeStates) :
    ∀ nodeId state, (nodeId, state) ∈ nodeStates ↔
      nodeId ∈ nodes.map GraphNode.nodeId ∧ states nodeId = some state := by
  induction nodes generalizing nodeStates with
  | nil =>
      obtain rfl := Except.ok.inj h
      simp
  | cons node rest ih =>
      rw [collectStates, except_bind_ok] at h
      obtain ⟨own, hown, h⟩ := h
      rw [except_bind_ok] at h
      obtain ⟨others, hothers, h⟩ := h
      obtain rfl := Except.ok.inj h
      rw [States.get_ok] at hown
      intro nodeId state
      rw [List.mem_cons, ih hothers, List.map_cons, List.mem_cons, Prod.mk.injEq]
      constructor
      · rintro (⟨rfl, rfl⟩ | ⟨hmem, hstate⟩)
        · exact ⟨Or.inl rfl, hown⟩
        · exact ⟨Or.inr hmem, hstate⟩
      · rintro ⟨rfl | hmem, hstate⟩
        · exact Or.inl ⟨rfl, Option.some.inj (hstate.symm.trans hown)⟩
        · exact Or.inr ⟨hmem, hstate⟩

theorem collectStates_total {states : States} {nodes : List GraphNode}
    (h : ∀ node ∈ nodes, ∃ state, states node.nodeId = some state) :
    ∃ nodeStates, collectStates states nodes = .ok nodeStates ∧
      nodeStates.map Prod.fst = nodes.map GraphNode.nodeId := by
  induction nodes with
  | nil => exact ⟨[], rfl, rfl⟩
  | cons node rest ih =>
      obtain ⟨state, hstate⟩ := h node (List.mem_cons_self ..)
      obtain ⟨others, hothers, hkeys⟩ := ih fun other hother => h other (List.mem_cons_of_mem _ hother)
      refine ⟨(node.nodeId, state) :: others, ?_, by rw [List.map_cons, List.map_cons, hkeys]⟩
      rw [collectStates, States.get_ok.mpr hstate, hothers]
      rfl

theorem GraphState.new_ok {graph : WorkflowGraph} {nodeStates : List (String × NodeState)}
    {state : GraphState} (h : GraphState.new graph nodeStates = .ok state) :
    state.graph = graph ∧ state.nodeStates = nodeStates := by
  unfold GraphState.new at h
  split at h
  · obtain rfl := Except.ok.inj h
    exact ⟨rfl, rfl⟩
  · cases h

theorem allowed_ne_blocked {current target : NodeState}
    (h : target ∈ allowedTransitions current) : target ≠ .blocked ∧ target ≠ current := by
  cases current <;> cases target <;> simp_all [allowedTransitions]

/-- A state has an entry for exactly the nodes of its graph. -/
theorem GraphState.statesOf_isSome (state : GraphState) (nodeId : String) :
    (∃ own, statesOf state.nodeStates nodeId = some own) ↔
      nodeId ∈ state.graph.nodes.map GraphNode.nodeId := by
  rw [← state.keys]
  constructor
  · rintro ⟨own, hown⟩
    exact List.mem_map.mpr ⟨(nodeId, own), state.statesOf_iff.mp hown, rfl⟩
  · intro hmem
    obtain ⟨⟨key, own⟩, hpair, rfl⟩ := List.mem_map.mp hmem
    exact ⟨own, state.statesOf_iff.mpr hpair⟩

/-- **Transition lemma.**  A transition moves its node along an allowed edge and
releases blocked nodes, and nothing else. -/
theorem transition_ok {state updated : GraphState} {nodeId : String} {target : NodeState}
    (h : state.transition nodeId target = .ok updated) :
    ∃ current, statesOf state.nodeStates nodeId = some current ∧
      target ∈ allowedTransitions current ∧ updated.graph = state.graph ∧
      statesOf updated.nodeStates nodeId = some target ∧
      ∀ other, other ≠ nodeId →
        statesOf updated.nodeStates other = statesOf state.nodeStates other ∨
          (statesOf state.nodeStates other = some .blocked ∧
            (statesOf updated.nodeStates other = some .ready ∨
              statesOf updated.nodeStates other = some .skipped)) := by
  rw [GraphState.transition, except_bind_ok] at h
  obtain ⟨current, hcurrent, h⟩ := h
  rw [state.stateOf_ok] at hcurrent
  rw [ensure_bind_ok, decide_eq_true_eq] at h
  obtain ⟨hallowed, h⟩ := h
  rw [except_bind_ok] at h
  obtain ⟨states, hmoved, h⟩ := h
  rw [except_bind_ok] at h
  obtain ⟨nodeStates, hcollect, h⟩ := h
  obtain ⟨hgraph, hnodeStates⟩ := GraphState.new_ok h
  have hreleased : Released ((statesOf state.nodeStates).set nodeId target) states := by
    unfold GraphState.moved at hmoved
    split_ifs at hmoved with hterminal
    · exact refreshWaitingNodes_released hmoved
    · obtain rfl := Except.ok.inj hmoved
      exact Released.refl _
  -- the updated states are the moved ones, on the nodes of the graph
  have hupdated : ∀ other own, statesOf updated.nodeStates other = some own ↔
      other ∈ state.graph.nodes.map GraphNode.nodeId ∧ states other = some own := by
    intro other own
    rw [updated.statesOf_iff, hnodeStates]
    exact collectStates_ok hcollect other own
  refine ⟨current, hcurrent, hallowed, hgraph, ?_, fun other hother => ?_⟩
  · rw [hupdated]
    refine ⟨(state.statesOf_isSome nodeId).mp ⟨current, hcurrent⟩, ?_⟩
    have hself : ((statesOf state.nodeStates).set nodeId target) nodeId = some target := by
      unfold States.set
      rw [Function.update_self]
    rcases hreleased nodeId with hsame | ⟨hblocked, -⟩
    · rw [hsame, hself]
    · rw [hself, Option.some.injEq] at hblocked
      exact absurd hblocked (allowed_ne_blocked hallowed).1
  · have hset : ((statesOf state.nodeStates).set nodeId target) other =
        statesOf state.nodeStates other := by
      unfold States.set
      rw [Function.update_of_ne hother]
    cases hold : statesOf state.nodeStates other with
    | none =>
        left
        cases hnew : statesOf updated.nodeStates other with
        | none => rfl
        | some own =>
            obtain ⟨own', hown'⟩ := (state.statesOf_isSome other).mpr ((hupdated other own).mp hnew).1
            rw [hold] at hown'
            cases hown'
    | some own =>
        have hmem := (state.statesOf_isSome other).mp ⟨own, hold⟩
        rcases hreleased other with hsame | ⟨hblocked, hcase⟩
        · left
          rw [hupdated]
          exact ⟨hmem, by rw [hsame, hset, hold]⟩
        · right
          rw [hset, hold] at hblocked
          refine ⟨hblocked, ?_⟩
          rcases hcase with hready | hskipped
          · exact Or.inl ((hupdated other _).mpr ⟨hmem, hready⟩)
          · exact Or.inr ((hupdated other _).mpr ⟨hmem, hskipped⟩)

end Workflows
end Ryuk
