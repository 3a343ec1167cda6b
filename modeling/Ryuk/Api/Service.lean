import Ryuk.Api.Operations

/-!
# The service under load

Many management operations run at once: each takes its permit when it arrives, makes its
transactions between those of the others and of the workers, and settles at the end.  In every
run the permits that are held are those of the operations under way, there is one record for
each answer, and every answer is one its route has when others interfere.
-/

namespace Ryuk
namespace Api

open Foundation Foundation.Transaction Relation
open Control (AdmissionPermit ControlPlaneFailure)
open Circumstances (admitRequest_granted admitRequest_refused recordTerminal_state release)

/-- A request of a route. -/
structure Asked (σ α : Type) where
  given : Circumstances
  operation : String
  estimatedTokens : Int
  failures : FailureMap
  route : Route σ α

/-- The body of an operation: without a store it is refused. -/
def Asked.body {σ α : Type} (asked : Asked σ α) (store : Option σ) : Route σ α :=
  match store with
  | none => Route.refuse workflowsDisabled
  | some _ => asked.route.handle asked.failures.translate

/-- An operation under way: its permit, and what is left of its body. -/
structure Operation (σ α : Type) where
  asked : Asked σ α
  permit : AdmissionPermit
  rest : Route σ α

/-- The state of the service, and what it has answered, in order. -/
structure Service (σ α : Type) where
  api : ApiState
  store : Option σ
  running : List (Operation σ α)
  answered : List (Asked σ α × Except ApiError α)

variable {σ α : Type}

/-- One move of the service: a request of one of its routes arrives, an operation makes a
transaction or settles, or others change the store. -/
inductive Service.Moves (routes : Asked σ α → Prop) (rely : σ → σ → Prop) :
    Service σ α → Service σ α → Prop
  | refuse {service : Service σ α} {failure : ControlPlaneFailure} {api : ApiState}
      (asked : Asked σ α) (hroute : routes asked)
      (hgrant : asked.given.admitRequest asked.operation service.api asked.estimatedTokens =
        (.error failure, api)) :
      Moves routes rely service { service with
        api, answered := service.answered ++ [(asked, .error (.control failure))] }
  | arrive {service : Service σ α} {permit : AdmissionPermit} {api : ApiState}
      (asked : Asked σ α) (hroute : routes asked)
      (hgrant : asked.given.admitRequest asked.operation service.api asked.estimatedTokens =
        (.ok permit, api)) :
      Moves routes rely service { service with
        api, running := ⟨asked, permit, asked.body service.store⟩ :: service.running }
  | transact {service : Service σ α} {store : σ} {first rest : List (Operation σ α)}
      {operation : Operation σ α} {β : Type} {body : Transaction σ PyError β}
      {next : Except PyError β → Route σ α} (hstore : service.store = some store)
      (hrunning : service.running = first ++ operation :: rest)
      (hnext : operation.rest = .call body next) :
      Moves routes rely service { service with
        store := some (commit body store).2
        running := first ++ { operation with rest := next (commit body store).1 } :: rest }
  | settle {service : Service σ α} {first rest : List (Operation σ α)}
      {operation : Operation σ α} {outcome answer : Except ApiError α} {api : ApiState}
      (hrunning : service.running = first ++ operation :: rest)
      (hdone : operation.rest = .done outcome)
      (hsettle : operation.asked.given.settle operation.asked.operation outcome operation.permit
        service.api = (answer, api)) :
      Moves routes rely service { service with
        api
        running := first ++ rest
        answered := service.answered ++ [(operation.asked, answer)] }
  | others {service : Service σ α} {store later : σ} (hstore : service.store = some store)
      (hrely : rely store later) : Moves routes rely service { service with store := some later }

/-- A run of the service. -/
def Service.Reaches (routes : Asked σ α → Prop) (rely : σ → σ → Prop)
    (start service : Service σ α) : Prop :=
  ReflTransGen (Service.Moves routes rely) start service

/-! ### Permits and records -/

/-- Whether an operation is one of a tenant. -/
def Operation.isOf (tenantId : String) (operation : Operation σ α) : Bool :=
  decide (operation.asked.given.tenantId = tenantId)

/-- The permits held are those of the operations under way, which are fresh, and what was
answered was recorded. -/
structure Service.Balanced (held : String → Int) (records : Nat) (service : Service σ α) : Prop where
  held : ∀ tenantId, service.api.admission.held tenantId =
    held tenantId + service.running.countP (Operation.isOf tenantId)
  permits : ∀ operation ∈ service.running,
    operation.permit = .new operation.asked.given.tenantId
  recorded : service.api.recorded.length = records + service.answered.length

/-- The failure of a request beyond the quota of its tenant. -/
def quotaExceeded : ControlPlaneFailure := ⟨429, "quota_exceeded", "Request quota exceeded."⟩

/-- The failure of an accepted request whose record is not stored. -/
def recordUnavailable : ControlPlaneFailure :=
  ⟨503, "record_unavailable",
    "Execution history could not be committed; execution may have occurred."⟩

theorem recordTerminal_failure {record : TerminalRecord} {stored : Bool} {state : ApiState}
    {failure : ControlPlaneFailure}
    (h : (recordTerminal record stored state).1 = .error failure) : failure = recordUnavailable := by
  unfold recordTerminal at h
  dsimp only at h
  split_ifs at h
  exact (Except.error.inj h).symm

/-- An operation settles: the permit is given back, the record is written, and the answer is
that of the body unless the record could not be stored. -/
theorem settle_spec {given : Circumstances} {operation : String} {outcome answer : Except ApiError α}
    {permit : AdmissionPermit} {state api : ApiState}
    (h : given.settle operation outcome permit state = (answer, api)) :
    (∃ record, api = { release state permit with
      recorded := (release state permit).recorded ++ [record] }) ∧
      (answer = outcome ∨ answer = .error (.control recordUnavailable)) := by
  unfold Circumstances.settle at h
  dsimp only at h
  have hstate := @recordTerminal_state (release state permit)
    (given.terminal operation (if outcome.isOk then "accepted" else "failed") .nothing) given.stored
  have hfailure := @recordTerminal_failure (given.terminal operation
    (if outcome.isOk then "accepted" else "failed") .nothing) given.stored (release state permit)
  generalize recordTerminal _ _ _ = recording at h hstate hfailure
  obtain ⟨result, after⟩ := recording
  cases result with
  | error failure =>
      cases h
      exact ⟨⟨_, hstate⟩, Or.inr (by rw [hfailure rfl])⟩
  | ok _ =>
      cases h
      exact ⟨⟨_, hstate⟩, Or.inl rfl⟩

section Members

variable {first rest : List (Operation σ α)} {operation replaced found : Operation σ α}

theorem mem_middle : operation ∈ first ++ operation :: rest :=
  List.mem_append_right _ List.mem_cons_self

theorem mem_of_removed (h : found ∈ first ++ rest) : found ∈ first ++ operation :: rest := by
  rcases List.mem_append.mp h with hfirst | hrest
  · exact List.mem_append_left _ hfirst
  · exact List.mem_append_right _ (List.mem_cons_of_mem _ hrest)

theorem mem_of_replaced (h : found ∈ first ++ replaced :: rest) :
    found = replaced ∨ found ∈ first ++ operation :: rest := by
  rcases List.mem_append.mp h with hfirst | hlast
  · exact Or.inr (List.mem_append_left _ hfirst)
  · rcases List.mem_cons.mp hlast with hsame | hrest
    · exact Or.inl hsame
    · exact Or.inr (List.mem_append_right _ (List.mem_cons_of_mem _ hrest))

theorem mem_of_added {entries : List (Asked σ α × Except ApiError α)}
    {entry added : Asked σ α × Except ApiError α} (h : entry ∈ entries ++ [added]) :
    entry ∈ entries ∨ entry = added := by
  rcases List.mem_append.mp h with hold | hnew
  · exact Or.inl hold
  · exact Or.inr (List.mem_singleton.mp hnew)

end Members

section Permits

variable {routes : Asked σ α → Prop} {rely : σ → σ → Prop} {service after : Service σ α} {held : String → Int} {records : Nat}

/-- A grant takes a fresh permit and writes no record. -/
theorem admitted_spec {given : Circumstances} {operation : String} {state api : ApiState}
    {estimatedTokens : Int} {permit : AdmissionPermit}
    (h : given.admitRequest operation state estimatedTokens = (.ok permit, api)) :
    permit = .new given.tenantId ∧ api.recorded = state.recorded ∧
      ∀ other, api.admission.held other =
        state.admission.held other + if other = given.tenantId then 1 else 0 := by
  cases hgranted : given.isGranted estimatedTokens state with
  | true =>
      obtain ⟨admitted, hadmitted, -, hrecorded, hheld⟩ :=
        @admitRequest_granted given operation state estimatedTokens hgranted
      rw [h] at hadmitted
      cases hadmitted
      exact ⟨rfl, hrecorded, hheld⟩
  | false =>
      obtain ⟨failure, refused, hrefused, -⟩ :=
        @admitRequest_refused given operation state estimatedTokens hgranted
      rw [h] at hrefused
      cases hrefused

/-- A refusal holds nothing and writes its record. -/
theorem refused_spec {given : Circumstances} {operation : String} {state api : ApiState}
    {estimatedTokens : Int} {failure : ControlPlaneFailure}
    (h : given.admitRequest operation state estimatedTokens = (.error failure, api)) :
    failure = ⟨429, "quota_exceeded", "Request quota exceeded."⟩ ∧
      api.recorded.length = state.recorded.length + 1 ∧
      ∀ other, api.admission.held other = state.admission.held other := by
  cases hgranted : given.isGranted estimatedTokens state with
  | true =>
      obtain ⟨admitted, hadmitted, -⟩ :=
        @admitRequest_granted given operation state estimatedTokens hgranted
      rw [h] at hadmitted
      cases hadmitted
  | false =>
      obtain ⟨_, _, hrefused, hheld⟩ :=
        @admitRequest_refused given operation state estimatedTokens hgranted
      rw [h] at hrefused
      obtain ⟨hfailure, rfl⟩ := Prod.mk.inj hrefused
      refine ⟨?_, ?_, hheld⟩
      · unfold Circumstances.admitRequest at h
        split at h
        · cases h
        · rename_i refusal admission hgrant
          unfold Control.admitPermit at hgrant
          split at hgrant
          · cases hgrant
            exact (Except.error.inj (Prod.mk.inj h).1).symm
          · cases hgrant
      · unfold Circumstances.admitRequest at h
        split at h
        · cases h
        · have hstate := (Prod.mk.inj h).2
          rw [← hstate, recordTerminal_state]
          simp

/-- A fresh permit that is held is given back. -/
theorem release_spec {state : ApiState} {tenantId : String}
    (h : 0 < state.admission.held tenantId) :
    (release state (.new tenantId)).recorded = state.recorded ∧
      ∀ other, (release state (.new tenantId)).admission.held other =
        state.admission.held other - if other = tenantId then 1 else 0 := by
  refine ⟨rfl, fun other => ?_⟩
  show (state.admission.release tenantId).held other = _
  rw [Control.AdmissionController.held_release (state.sound tenantId)]
  by_cases hother : other = tenantId
  · rw [if_pos hother, if_pos hother, hother]
    omega
  · rw [if_neg hother, if_neg hother, sub_zero]

/-- **Step lemma.**  Every move keeps the balance. -/
theorem Service.Balanced.moves (hheld : ∀ tenantId, 0 ≤ held tenantId)
    (h : service.Balanced held records) (hmoves : Service.Moves routes rely service after) :
    after.Balanced held records := by
  cases hmoves with
  | refuse asked _ hgrant =>
      obtain ⟨-, hrecorded, hsame⟩ := refused_spec hgrant
      refine ⟨fun tenantId => (hsame tenantId).trans (h.held tenantId), h.permits, ?_⟩
      show _ = records + (service.answered ++ [_]).length
      rw [hrecorded, h.recorded, List.length_append]
      rfl
  | arrive asked _ hgrant =>
      obtain ⟨rfl, hrecorded, hmore⟩ := admitted_spec hgrant
      refine ⟨fun tenantId => ?_, ?_, ?_⟩
      · show _ = held tenantId + (List.countP _ (_ :: service.running) : Nat)
        rw [hmore, h.held, List.countP_cons]
        unfold Operation.isOf
        by_cases hsame : tenantId = asked.given.tenantId
        · simp [hsame]
          omega
        · simp [hsame, Ne.symm hsame]
      · intro operation hoperation
        rcases List.mem_cons.mp hoperation with rfl | hold
        · rfl
        · exact h.permits operation hold
      · rw [← h.recorded, ← hrecorded]
  | @transact store first rest operation β body next hstore hrunning hnext =>
      have hcounts : ∀ tenantId, List.countP (Operation.isOf tenantId)
          (first ++ { operation with rest := next (commit body store).1 } :: rest) =
            List.countP (Operation.isOf tenantId) (first ++ operation :: rest) := by
        intro tenantId
        rw [List.countP_append, List.countP_append, List.countP_cons, List.countP_cons]
        rfl
      refine ⟨fun tenantId => ?_, ?_, h.recorded⟩
      · show _ = held tenantId + (List.countP _ (first ++ _ :: rest) : Nat)
        rw [hcounts, ← hrunning]
        exact h.held tenantId
      · intro found hfound
        rcases mem_of_replaced hfound with rfl | hold
        · exact h.permits operation (hrunning ▸ mem_middle)
        · exact h.permits found (hrunning ▸ hold)
  | @settle first rest operation outcome answer api hrunning hdone hsettle =>
      have hmem : operation ∈ service.running := hrunning ▸ mem_middle
      have hpermit := h.permits operation hmem
      obtain ⟨⟨record, rfl⟩, -⟩ := settle_spec hsettle
      rw [hpermit]
      have hcount : ∀ tenantId, List.countP (Operation.isOf tenantId) service.running =
          List.countP (Operation.isOf tenantId) (first ++ rest) +
            if tenantId = operation.asked.given.tenantId then 1 else 0 := by
        intro tenantId
        rw [hrunning, List.countP_append, List.countP_append, List.countP_cons]
        unfold Operation.isOf
        by_cases hsame : tenantId = operation.asked.given.tenantId
        · simp [hsame]
          omega
        · simp [hsame, Ne.symm hsame]
      have hpositive : 0 < service.api.admission.held operation.asked.given.tenantId := by
        have hown := hcount operation.asked.given.tenantId
        have hstart := hheld operation.asked.given.tenantId
        rw [if_pos rfl] at hown
        rw [h.held]
        omega
      obtain ⟨hrecorded, hless⟩ := release_spec hpositive
      refine ⟨fun tenantId => ?_, ?_, ?_⟩
      · show (release service.api _).admission.held tenantId = _
        rw [hless, h.held, hcount]
        by_cases hsame : tenantId = operation.asked.given.tenantId
        · rw [if_pos hsame, if_pos hsame]
          push_cast
          omega
        · rw [if_neg hsame, if_neg hsame]
          simp
      · intro found hfound
        exact h.permits found (hrunning ▸ mem_of_removed hfound)
      · show ((release service.api _).recorded ++ [record]).length =
          records + (service.answered ++ [_]).length
        rw [hrecorded, List.length_append, List.length_append, h.recorded]
        rfl
  | others hstore hrely => exact ⟨h.held, h.permits, h.recorded⟩

/-- **Run lemma.** -/
theorem Service.Balanced.reaches (hheld : ∀ tenantId, 0 ≤ held tenantId)
    (h : service.Balanced held records) (hreaches : Service.Reaches routes rely service after) :
    after.Balanced held records := by
  induction hreaches with
  | refl => exact h
  | tail _ hmoves ih => exact ih.moves hheld hmoves

end Permits

/-! ### Answers -/

/-- How an answer came about: the request was refused, its record could not be stored, there is
no store, or its route has this outcome when others interfere. -/
def Explained (rely : σ → σ → Prop) (start : Option σ) (asked : Asked σ α)
    (answer : Except ApiError α) : Prop :=
  answer = .error (.control quotaExceeded) ∨ answer = .error (.control recordUnavailable) ∨
    (start = none ∧ answer = .error (.control workflowsDisabled)) ∨
    ∃ store before outcome final, start = some store ∧ rely store before ∧
      asked.route.Runs rely before outcome final ∧ answer = asked.failures.translate outcome

/-- What is left of an operation is what its body leaves. -/
def Operation.Pending (rely : σ → σ → Prop) (start now : Option σ) (operation : Operation σ α) :
    Prop :=
  (start = none ∧ operation.rest = .done (.error (.control workflowsDisabled))) ∨
    ∃ store before state, start = some store ∧ rely store before ∧ now = some state ∧
      operation.rest.Obeys rely ∧ Script.Continues rely
        (operation.asked.route.handle operation.asked.failures.translate) before operation.rest state

/-- Every answer is explained, and every operation under way is pending. -/
structure Service.Accounted (rely : σ → σ → Prop) (start : Option σ) (service : Service σ α) :
    Prop where
  store : (start = none ∧ service.store = none) ∨
    ∃ first state, start = some first ∧ service.store = some state ∧ rely first state
  running : ∀ operation ∈ service.running, operation.Pending rely start service.store
  answered : ∀ entry ∈ service.answered, Explained rely start entry.1 entry.2

section Answers

variable {routes : Asked σ α → Prop} {rely : σ → σ → Prop} {start : Option σ}
  {service after : Service σ α}

/-- What is pending stays so when others move. -/
theorem Operation.Pending.others {store later : σ} {operation : Operation σ α}
    (htrans : ∀ first second third, rely first second → rely second third → rely first third)
    (h : operation.Pending rely start (some store)) (hrely : rely store later) :
    operation.Pending rely start (some later) := by
  rcases h with hdisabled | ⟨first, before, state, hstart, hbefore, hstate, hobeys, hcontinues⟩
  · exact Or.inl hdisabled
  · rw [Option.some.injEq] at hstate
    subst hstate
    exact Or.inr ⟨first, before, later, hstart, hbefore, rfl, hobeys,
      hcontinues.others htrans hrely⟩

/-- A pending operation that settles has an explained answer. -/
theorem Operation.Pending.explained {operation : Operation σ α} {now : Option σ}
    {outcome answer : Except ApiError α} (h : operation.Pending rely start now)
    (hdone : operation.rest = .done outcome)
    (hanswer : answer = outcome ∨ answer = .error (.control recordUnavailable)) :
    Explained rely start operation.asked answer := by
  rcases hanswer with rfl | hunavailable
  · rcases h with ⟨hstart, hdisabled⟩ | ⟨store, before, state, hstart, hbefore, -, -, hcontinues⟩
    · rw [hdone] at hdisabled
      injection hdisabled with hsame
      exact Or.inr (Or.inr (Or.inl ⟨hstart, hsame⟩))
    · rw [hdone] at hcontinues
      obtain ⟨last, hruns, -⟩ := hcontinues.done
      obtain ⟨result, hroute, hresult⟩ := Script.runs_handle.mp hruns
      exact Or.inr (Or.inr (Or.inr ⟨store, before, result, last, hstart, hbefore, hroute, hresult⟩))
  · exact Or.inr (Or.inl hunavailable)

/-- **Step lemma.**  Every move keeps the account, when the routes make only the moves that are
relied on. -/
theorem Service.Accounted.moves (hrefl : ∀ state, rely state state)
    (htrans : ∀ first second third, rely first second → rely second third → rely first third)
    (hobeys : ∀ asked, routes asked → asked.route.Obeys rely)
    (h : service.Accounted rely start) (hmoves : Service.Moves routes rely service after) :
    after.Accounted rely start := by
  cases hmoves with
  | refuse asked _ hgrant =>
      refine ⟨h.store, h.running, fun entry hentry => ?_⟩
      rcases mem_of_added hentry with hold | rfl
      · exact h.answered entry hold
      · rw [(refused_spec hgrant).1]
        exact Or.inl rfl
  | arrive asked hroute _ =>
      refine ⟨h.store, fun operation hoperation => ?_, h.answered⟩
      rcases List.mem_cons.mp hoperation with rfl | hold
      · rcases h.store with ⟨hstart, hnone⟩ | ⟨first, state, hstart, hstate, hrely⟩
        · refine Or.inl ⟨hstart, ?_⟩
          show asked.body service.store = _
          rw [hnone]
          rfl
        · refine Or.inr ⟨first, state, state, hstart, hrely, hstate, ?_⟩
          show (asked.body service.store).Obeys rely ∧
            Script.Continues rely _ state (asked.body service.store) state
          rw [hstate]
          exact ⟨Script.obeys_handle (hobeys asked hroute), Script.continues_start hrefl⟩
      · exact h.running operation hold
  | @transact store first rest operation β body next hstore hrunning hnext =>
      have hpending : ∀ found ∈ service.running, found.Pending rely start (some store) := by
        rw [← hstore]
        exact h.running
      have hmem : operation ∈ service.running := hrunning ▸ mem_middle
      rcases hpending operation hmem with ⟨-, hdisabled⟩ | ⟨origin, before, state, hstart, hbefore,
        hstate, hfollows, hcontinues⟩
      · rw [hnext] at hdisabled
        cases hdisabled
      · rw [Option.some.injEq] at hstate
        subst hstate
        rw [hnext] at hfollows hcontinues
        have hmove : rely store (commit body store).2 := hfollows.1 store
        refine ⟨?_, fun found hfound => ?_, h.answered⟩
        · rcases h.store with ⟨-, hnone⟩ | ⟨first', state', hstart', hstate', hrely⟩
          · rw [hstore] at hnone
            cases hnone
          · rw [hstore, Option.some.injEq] at hstate'
            subst hstate'
            exact Or.inr ⟨first', _, hstart', rfl, htrans _ _ _ hrely hmove⟩
        · rcases mem_of_replaced hfound with rfl | hold
          · exact Or.inr ⟨origin, before, _, hstart, hbefore, rfl, hfollows.2 _,
              hcontinues.call hrefl⟩
          · exact (hpending found (hrunning ▸ hold)).others htrans hmove
  | @settle first rest operation outcome answer api hrunning hdone hsettle =>
      have hmem : operation ∈ service.running := hrunning ▸ mem_middle
      refine ⟨h.store, fun found hfound => ?_, fun entry hentry => ?_⟩
      · exact h.running found (hrunning ▸ mem_of_removed hfound)
      · rcases mem_of_added hentry with hold | rfl
        · exact h.answered entry hold
        · exact (h.running operation hmem).explained hdone (settle_spec hsettle).2
  | @others store later hstore hrely =>
      refine ⟨?_, fun operation hoperation => ?_, h.answered⟩
      · rcases h.store with ⟨-, hnone⟩ | ⟨first, state, hstart, hstate, hfirst⟩
        · rw [hstore] at hnone
          cases hnone
        · rw [hstore, Option.some.injEq] at hstate
          subst hstate
          exact Or.inr ⟨first, later, hstart, rfl, htrans _ _ _ hfirst hrely⟩
      · have hpending := h.running operation hoperation
        rw [hstore] at hpending
        exact hpending.others htrans hrely

/-- **Run lemma.** -/
theorem Service.Accounted.reaches (hrefl : ∀ state, rely state state)
    (htrans : ∀ first second third, rely first second → rely second third → rely first third)
    (hobeys : ∀ asked, routes asked → asked.route.Obeys rely)
    (h : service.Accounted rely start) (hreaches : Service.Reaches routes rely service after) :
    after.Accounted rely start := by
  induction hreaches with
  | refl => exact h
  | tail _ hmoves ih => exact ih.moves hrefl htrans hobeys hmoves

/-- **Nothing blocks.**  From every state of the service its operations can come to their ends. -/
theorem Service.Accounted.drains (hrefl : ∀ state, rely state state)
    (htrans : ∀ first second third, rely first second → rely second third → rely first third)
    (hobeys : ∀ asked, routes asked → asked.route.Obeys rely)
    (h : service.Accounted rely start) :
    ∃ drained, Service.Reaches routes rely service drained ∧ drained.running = [] := by
  obtain ⟨count, hcount⟩ : ∃ count, count = service.running.length := ⟨_, rfl⟩
  induction count generalizing service with
  | zero => exact ⟨service, ReflTransGen.refl, List.length_eq_zero_iff.mp hcount.symm⟩
  | succ count ih =>
      cases hrunning : service.running with
      | nil =>
          rw [hrunning] at hcount
          cases hcount
      | cons operation rest =>
          -- the first operation makes its transactions until it is done
          obtain ⟨left, hleft⟩ : ∃ left, left = operation.rest := ⟨_, rfl⟩
          induction left generalizing service operation with
          | done outcome =>
              obtain ⟨answer, api, hsettle⟩ : ∃ answer api, operation.asked.given.settle
                operation.asked.operation outcome operation.permit service.api = (answer, api) :=
                ⟨_, _, rfl⟩
              have hmove := @Service.Moves.settle σ α routes rely service [] rest operation outcome
                answer api hrunning hleft.symm hsettle
              have hlength : rest.length = count := by
                rw [hrunning] at hcount
                simpa using hcount.symm
              obtain ⟨drained, hreaches, hempty⟩ := ih (h.moves hrefl htrans hobeys hmove)
                hlength.symm
              exact ⟨drained, ReflTransGen.head hmove hreaches, hempty⟩
          | call body next ihLeft =>
              have hpending := h.running operation (hrunning ▸ List.mem_cons_self)
              rcases hpending with ⟨-, hdisabled⟩ | ⟨_, _, state, -, -, hstate, -, -⟩
              · rw [← hleft] at hdisabled
                cases hdisabled
              · have hmove := @Service.Moves.transact σ α routes rely service state [] rest operation
                  _ body next hstate hrunning hleft.symm
                obtain ⟨drained, hreaches, hempty⟩ := ihLeft (commit body state).1
                  (h.moves hrefl htrans hobeys hmove) (by rw [hrunning] at hcount; exact hcount)
                  { operation with rest := next (commit body state).1 } rfl rfl
                exact ⟨drained, ReflTransGen.head hmove hreaches, hempty⟩

end Answers

/-! ### Routes -/

/-- What runs and what was answered are requests of the routes. -/
theorem answered_routes {routes : Asked σ α → Prop} {rely : σ → σ → Prop}
    {start service : Service σ α} (hreaches : Service.Reaches routes rely start service)
    (hrunning : start.running = []) (hanswered : start.answered = []) :
    (∀ operation ∈ service.running, routes operation.asked) ∧
      ∀ entry ∈ service.answered, routes entry.1 := by
  induction hreaches with
  | refl =>
      rw [hrunning, hanswered]
      exact ⟨fun _ hmem => (List.not_mem_nil hmem).elim, fun _ hmem => (List.not_mem_nil hmem).elim⟩
  | tail _ hmoves ih =>
      cases hmoves with
      | refuse asked hroute _ =>
          refine ⟨ih.1, fun entry hentry => ?_⟩
          rcases mem_of_added hentry with hold | rfl
          · exact ih.2 entry hold
          · exact hroute
      | arrive asked hroute _ =>
          refine ⟨fun operation hoperation => ?_, ih.2⟩
          rcases List.mem_cons.mp hoperation with rfl | hold
          · exact hroute
          · exact ih.1 operation hold
      | @transact store first rest operation β body next hstore hfound hnext =>
          refine ⟨fun found hmem => ?_, ih.2⟩
          rcases mem_of_replaced hmem with rfl | hold
          · exact ih.1 operation (hfound ▸ mem_middle)
          · exact ih.1 found (hfound ▸ hold)
      | @settle first rest operation outcome answer api hfound hdone hsettle =>
          refine ⟨fun found hmem => ih.1 found (hfound ▸ mem_of_removed hmem), fun entry hentry => ?_⟩
          rcases mem_of_added hentry with hold | rfl
          · exact ih.2 entry hold
          · exact ih.1 operation (hfound ▸ mem_middle)
      | others hstore hrely => exact ih

/-- **Under load.**  However the requests of the routes and the moves of others fall: each tenant
holds a permit for each of its requests under way beyond what it held, one record is written for
each answer, every answer is an explained one of a route, and all requests can come to their
ends. -/
theorem Service.underLoad {routes : Asked σ α → Prop} {rely : σ → σ → Prop}
    {start service : Service σ α} (hrefl : ∀ state, rely state state)
    (htrans : ∀ first second third, rely first second → rely second third → rely first third)
    (hobeys : ∀ asked, routes asked → asked.route.Obeys rely)
    (hrunning : start.running = []) (hanswered : start.answered = [])
    (hreaches : Service.Reaches routes rely start service) :
    (∀ tenantId, service.api.admission.held tenantId =
      start.api.admission.held tenantId + service.running.countP (Operation.isOf tenantId)) ∧
    service.api.recorded.length = start.api.recorded.length + service.answered.length ∧
    (∀ entry ∈ service.answered, routes entry.1 ∧ Explained rely start.store entry.1 entry.2) ∧
    ∃ drained, Service.Reaches routes rely service drained ∧ drained.running = [] := by
  have hbalanced : start.Balanced start.api.admission.held start.api.recorded.length := by
    refine ⟨fun tenantId => ?_, ?_, ?_⟩
    · rw [hrunning]
      simp
    · rw [hrunning]
      exact fun _ hmem => (List.not_mem_nil hmem).elim
    · rw [hanswered]
      rfl
  have haccounted : start.Accounted rely start.store := by
    refine ⟨?_, ?_, ?_⟩
    · cases hstore : start.store with
      | none => exact Or.inl ⟨rfl, rfl⟩
      | some store => exact Or.inr ⟨store, store, rfl, rfl, hrefl store⟩
    · rw [hrunning]
      exact fun _ hmem => (List.not_mem_nil hmem).elim
    · rw [hanswered]
      exact fun _ hmem => (List.not_mem_nil hmem).elim
  have hafter := hbalanced.reaches start.api.sound hreaches
  have hexplained := haccounted.reaches hrefl htrans hobeys hreaches
  have hroutes := (answered_routes hreaches hrunning hanswered).2
  exact ⟨hafter.held, hafter.recorded,
    fun entry hentry => ⟨hroutes entry hentry, hexplained.answered entry hentry⟩,
    hexplained.drains hrefl htrans hobeys⟩

end Api
end Ryuk
