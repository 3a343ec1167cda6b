import Ryuk.Foundation.Machine

/-!
# Transcripts and simulation

An observer follows some inputs of a run and the answers to them.  A machine
simulates another one, as far as the observer can tell, when a relation between
their states is kept by the followed inputs, which are answered alike, and by all
others, which the second machine never sees.
-/

namespace Ryuk
namespace Foundation
namespace Machine

variable {σ ι ο σ' κ ο' : Type}

/-- The followed inputs of a run, each with its answer. -/
def transcript (machine : Machine σ ι ο) (follow : ι → Option κ) (state : σ) :
    List ι → List (κ × ο)
  | [] => []
  | input :: rest =>
      match follow input with
      | some call =>
          (call, machine.answer state input) ::
            machine.transcript follow (machine.next state input) rest
      | none => machine.transcript follow (machine.next state input) rest

/-- All inputs of a run, each with its answer. -/
def answers (machine : Machine σ ι ο) (state : σ) (inputs : List ι) : List (ι × ο) :=
  machine.transcript some state inputs

/-- Following the inputs that pass a test. -/
theorem transcript_guard (machine : Machine σ ι ο) (test : ι → Bool) (state : σ)
    (inputs : List ι) :
    machine.transcript (Option.guard test) state inputs =
      (machine.answers state inputs).filter fun pair => test pair.1 := by
  induction inputs generalizing state with
  | nil => rfl
  | cons input rest ih =>
      have hanswers : machine.answers state (input :: rest) =
          (input, machine.answer state input) ::
            machine.answers (machine.next state input) rest := rfl
      rw [transcript, hanswers, List.filter_cons, ih]
      cases htest : test input with
      | true => simp only [Option.guard, htest, if_true]
      | false => simp only [Option.guard, htest, Bool.false_eq_true, if_false]

/-- What a step adds to a number is added up over a run. -/
def total (machine : Machine σ ι ο) (gain : ι → ο → Int) (state : σ) (inputs : List ι) : Int :=
  ((machine.answers state inputs).map fun pair => gain pair.1 pair.2).sum

theorem answers_cons (machine : Machine σ ι ο) (state : σ) (input : ι) (rest : List ι) :
    machine.answers state (input :: rest) =
      (input, machine.answer state input) :: machine.answers (machine.next state input) rest := rfl

theorem answers_append (machine : Machine σ ι ο) (state : σ) (first second : List ι) :
    machine.answers state (first ++ second) =
      machine.answers state first ++ machine.answers (machine.after state first) second := by
  induction first generalizing state with
  | nil => rfl
  | cons input rest ih =>
      rw [List.cons_append, answers_cons, answers_cons, after_cons, ih, List.cons_append]

theorem total_concat (machine : Machine σ ι ο) (gain : ι → ο → Int) (state : σ)
    (inputs : List ι) (input : ι) :
    machine.total gain state (inputs ++ [input]) = machine.total gain state inputs +
      gain input (machine.answer (machine.after state inputs) input) := by
  unfold total
  rw [answers_append, List.map_append, List.sum_append]
  simp [answers, transcript]

theorem after_total {machine : Machine σ ι ο} {value : σ → Int} {gain : ι → ο → Int}
    (hstep : ∀ state input,
      value (machine.next state input) = value state + gain input (machine.answer state input))
    (state : σ) (inputs : List ι) :
    value (machine.after state inputs) = value state + machine.total gain state inputs := by
  induction inputs generalizing state with
  | nil =>
      show value state = value state + 0
      omega
  | cons input rest ih =>
      have hhead := hstep state input
      have htail := ih (machine.next state input)
      have hsum : machine.total gain state (input :: rest) =
          gain input (machine.answer state input) +
            machine.total gain (machine.next state input) rest := by
        unfold total
        rw [answers_cons, List.map_cons, List.sum_cons]
      rw [after_cons, htail, hhead, hsum]
      omega

/-- A relation that carries one machine along another.  `read` and `read'` bring
the answers of both to one form; `allowed` says which calls are followed where. -/
structure Simulates {ρ : Type} (concrete : Machine σ ι ο) (abstract : Machine σ' κ ο')
    (follow : ι → Option κ) (allowed : σ' → κ → Prop) (related : σ → σ' → Prop) (read : ο → ρ)
    (read' : ο' → ρ) : Prop where
  unseen : ∀ state state' input, related state state' → follow input = none →
    related (concrete.next state input) state'
  seen : ∀ state state' input call, related state state' → follow input = some call →
    allowed state' call → read (concrete.answer state input) = read' (abstract.answer state' call) ∧
      related (concrete.next state input) (abstract.next state' call)

section Simulating

variable {ρ : Type} {concrete : Machine σ ι ο} {abstract : Machine σ' κ ο'}
  {follow : ι → Option κ} {allowed : σ' → κ → Prop} {related : σ → σ' → Prop} {read : ο → ρ}
  {read' : ο' → ρ}

/-- **Simulation rule.**  The followed answers are alike, and the states stay
related. -/
theorem Simulates.run (h : Simulates concrete abstract follow allowed related read read')
    {state : σ} {state' : σ'} (hrelated : related state state') (inputs : List ι)
    (hallowed : ∀ before call rest, inputs.filterMap follow = before ++ call :: rest →
      allowed (abstract.after state' before) call) :
    (concrete.transcript follow state inputs).map (fun pair => (pair.1, read pair.2)) =
        (abstract.answers state' (inputs.filterMap follow)).map
          (fun pair => (pair.1, read' pair.2)) ∧
      related (concrete.after state inputs) (abstract.after state' (inputs.filterMap follow)) := by
  induction inputs generalizing state state' with
  | nil => exact ⟨rfl, hrelated⟩
  | cons input rest ih =>
      cases hfollow : follow input with
      | none =>
          rw [List.filterMap_cons_none hfollow] at hallowed ⊢
          simp only [transcript, hfollow, after_cons]
          exact ih (h.unseen state state' input hrelated hfollow) hallowed
      | some call =>
          rw [List.filterMap_cons_some hfollow] at hallowed ⊢
          obtain ⟨halike, hnext⟩ := h.seen state state' input call hrelated hfollow
            (hallowed [] call (rest.filterMap follow) rfl)
          obtain ⟨htail, hlast⟩ := ih hnext fun before other later hsplit =>
            hallowed (call :: before) other later (by rw [hsplit, List.cons_append])
          simp only [transcript, hfollow, after_cons, answers_cons, List.map_cons, halike, htail]
          exact ⟨trivial, hlast⟩

end Simulating

end Machine
end Foundation
end Ryuk
