import Ryuk.Foundation.Registry
import Ryuk.Foundation.Views
import Ryuk.Workflows.Requests

/-!
# Idempotent creation of tasks

The rows of `workflows` are a register of the requests a tenant made under its keys.
Only `create` adds to it, under a key that is not taken, and no operation changes or
removes what it holds.  A second creation under a key is decided by the row of the
first, whatever happened in between.
-/

namespace Ryuk
namespace Workflows

open Foundation Foundation.Json Foundation.Text Foundation.Datetime Foundation.Transaction
open Foundation.Registry Audit

/-! ### The register -/

/-- The request a row stands for. -/
def WorkflowRow.registration (row : WorkflowRow) : Registration (String × String) String String :=
  ⟨(row.tenant, row.idempotencyKey), row.id, row.requestHash⟩

/-- The requests the store has accepted. -/
def Tables.requests (tables : Tables) : List (Registration (String × String) String String) :=
  tables.workflows.rows.map WorkflowRow.registration

theorem requested_iff {tenant key : String} (row : WorkflowRow) :
    (decide (row.tenant = tenant) && decide (row.idempotencyKey = key)) = true ↔
      row.registration.key = (tenant, key) := by
  rw [Bool.and_eq_true, decide_eq_true_eq, decide_eq_true_eq]
  exact Prod.mk_inj.symm

section Operations

variable {platform : Platform} {tables final : Tables} {tenant workflowId owner uuid4 : String}
  {fence : Int} {now : DateTime} {current : String}

theorem selectWorkflow_requests : Keeps Tables.requests (selectWorkflow tenant workflowId) :=
  Keeps.query

theorem selectDispatch_requests : Keeps Tables.requests (selectDispatch tenant workflowId) :=
  Keeps.query

/-- An update that leaves the key, the id and the request hash alone. -/
theorem updateWorkflow_requests {change : WorkflowRow → WorkflowRow}
    {hkey : ∀ row, (change row).id = row.id}
    (hsame : ∀ row, (change row).registration = row.registration) :
    Keeps Tables.requests (updateWorkflow tenant workflowId change hkey) := by
  apply Keeps.write
  intro state
  show (state.workflows.rows.map fun row =>
    if ownedBy tenant workflowId row then change row else row).map WorkflowRow.registration =
      state.workflows.rows.map WorkflowRow.registration
  rw [List.map_map]
  apply List.map_congr_left
  intro row _
  simp only [Function.comp]
  split_ifs
  · exact hsame row
  · rfl

theorem event_requests {label : EventLabel} :
    Keeps Tables.requests (event tenant workflowId label fence) :=
  Keeps.write fun _ => rfl

theorem claim_requests {leaseSeconds : Int} :
    Keeps Tables.requests (claim tenant workflowId owner leaseSeconds now) := by
  unfold claim
  apply Keeps.bind Keeps.require
  intro _
  apply Keeps.bind Keeps.require
  intro _
  apply Keeps.bind Keeps.lift
  intro reading
  apply Keeps.bind Keeps.lift
  intro expiry
  apply Keeps.bind selectWorkflow_requests
  intro row
  cases row with
  | none => exact Keeps.fail
  | some row =>
      apply Keeps.bind Keeps.require
      intro _
      apply Keeps.bind Keeps.lift
      intro packet
      apply Keeps.bind Keeps.lift
      intro _
      dsimp only
      apply Keeps.bind
      · apply updateWorkflow_requests
        intro _
        rfl
      intro _
      exact Keeps.bind event_requests fun _ => Keeps.pure

theorem requireLease_requests :
    Keeps Tables.requests (requireLease tenant workflowId owner fence now) := by
  unfold requireLease
  apply Keeps.bind selectWorkflow_requests
  intro row
  cases row with
  | none => exact Keeps.fail
  | some row =>
      apply Keeps.bind Keeps.require
      intro _
      exact Keeps.bind Keeps.lift fun _ => Keeps.require

theorem addDispatch_requests {row : DispatchRow} {error : PyError} :
    Keeps Tables.requests (attempt (Tables.addDispatch row) error) := by
  apply Keeps.attempt
  intro state next hadd
  obtain ⟨dispatches, -, rfl⟩ := Option.map_eq_some_iff.mp hadd
  rfl

theorem beginDispatch_requests {budget : List (String × Json)} :
    Keeps Tables.requests (beginDispatch tenant workflowId owner fence budget now) := by
  unfold beginDispatch
  apply Keeps.bind Keeps.lift
  intro encoded
  apply Keeps.bind requireLease_requests
  intro _
  apply Keeps.bind Keeps.query
  intro recorded
  apply Keeps.bind Keeps.require
  intro _
  exact Keeps.bind addDispatch_requests fun _ => event_requests

theorem recordOutcome_requests {result : List (String × Json)} {succeeded : Bool} :
    Keeps Tables.requests
      (recordOutcome platform tenant workflowId owner fence result succeeded now) := by
  unfold recordOutcome
  apply Keeps.bind Keeps.lift
  intro encoded
  apply Keeps.bind requireLease_requests
  intro _
  apply Keeps.bind selectDispatch_requests
  intro row
  cases row with
  | none => exact Keeps.fail
  | some row =>
      apply Keeps.bind Keeps.require
      intro _
      cases row.outcomeJson with
      | some outcome => exact Keeps.require
      | none => exact Keeps.bind (Keeps.write fun _ => rfl) fun _ => event_requests

theorem commitResult_requests {encoded : String} {succeeded : Bool} :
    Keeps Tables.requests
      (commitResult platform tenant workflowId fence encoded succeeded uuid4) := by
  unfold commitResult
  apply Keeps.bind
  · apply Keeps.attempt
    intro state next hadd
    obtain ⟨artifacts, -, rfl⟩ := Option.map_eq_some_iff.mp hadd
    rfl
  intro _
  apply Keeps.bind
  · apply updateWorkflow_requests
    intro _
    rfl
  intro _
  exact Keeps.bind event_requests fun _ => Keeps.pure

theorem complete_requests {result : List (String × Json)} {succeeded : Bool} :
    Keeps Tables.requests
      (complete platform tenant workflowId owner fence result succeeded now uuid4) := by
  unfold complete
  apply Keeps.bind Keeps.lift
  intro encoded
  apply Keeps.bind requireLease_requests
  intro _
  apply Keeps.bind selectDispatch_requests
  intro journal
  cases journal with
  | none => exact commitResult_requests
  | some journal => exact Keeps.bind Keeps.require fun _ => commitResult_requests

theorem reconcileUncertain_requests :
    Keeps Tables.requests (reconcileUncertain platform tenant workflowId uuid4) := by
  unfold reconcileUncertain
  apply Keeps.bind selectWorkflow_requests
  intro row
  cases row with
  | none => exact Keeps.fail
  | some row =>
      dsimp only
      split_ifs
      · exact Keeps.pure
      · apply Keeps.bind selectDispatch_requests
        intro journal
        cases journal with
        | none => exact Keeps.pure
        | some journal =>
            dsimp only
            cases journal.outcomeJson with
            | none => exact Keeps.pure
            | some encoded =>
                apply Keeps.bind Keeps.lift
                intro valid
                apply Keeps.bind Keeps.require
                intro _
                exact Keeps.bind commitResult_requests fun _ => Keeps.pure

theorem getArtifact_requests {artifactId : Option String} :
    Keeps Tables.requests (getArtifact platform tenant workflowId artifactId) := by
  unfold getArtifact
  apply Keeps.bind Keeps.query
  intro row
  cases row with
  | none => exact Keeps.pure
  | some row => exact Keeps.bind Keeps.lift fun _ => Keeps.pure

theorem getBinding_requests : Keeps Tables.requests (getBinding tenant workflowId) := by
  unfold getBinding
  apply Keeps.bind Keeps.query
  intro row
  cases row with
  | none => exact Keeps.pure
  | some row => exact Keeps.bind Keeps.lift fun _ => Keeps.pure

theorem validate_requests {policy : Option ValidationPolicy} :
    Keeps Tables.requests (validate platform tenant workflowId policy) := by
  unfold validate
  apply Keeps.bind getBinding_requests
  intro binding
  apply Keeps.bind Keeps.lift
  intro snapshot
  apply Keeps.bind selectWorkflow_requests
  intro row
  cases row with
  | none => exact Keeps.fail
  | some row =>
      apply Keeps.bind Keeps.query
      intro previous
      apply Keeps.bind getArtifact_requests
      intro artifact
      cases artifact with
      | none => exact Keeps.fail
      | some artifact =>
          cases previous with
          | some previous =>
              apply Keeps.bind Keeps.lift
              intro report
              apply Keeps.bind Keeps.lift
              intro same
              exact Keeps.bind Keeps.require fun _ => Keeps.pure
          | none =>
              apply Keeps.bind Keeps.require
              intro _
              apply Keeps.bind Keeps.lift
              intro report
              apply Keeps.bind Keeps.lift
              intro decision
              apply Keeps.bind Keeps.lift
              intro reportJson
              apply Keeps.bind
              · apply Keeps.attempt
                intro state next hadd
                obtain ⟨validations, -, rfl⟩ := Option.map_eq_some_iff.mp hadd
                rfl
              intro _
              apply Keeps.bind
              · apply updateWorkflow_requests
                intro _
                rfl
              intro _
              exact Keeps.bind event_requests fun _ => Keeps.pure

theorem cancel_requests : Keeps Tables.requests (cancel tenant workflowId) := by
  unfold cancel
  apply Keeps.bind selectWorkflow_requests
  intro row
  cases row with
  | none => exact Keeps.pure
  | some row =>
      have hmove : Keeps Tables.requests (do
          updateWorkflow tenant workflowId (fun found =>
            { found with
              state := .cancelled, fence := row.fence + 1, owner := none, leaseUntil := none })
            fun _ => rfl
          event tenant workflowId (.state .cancelled) (row.fence + 1)
          pure true) := by
        apply Keeps.bind
        · apply updateWorkflow_requests
          intro _
          rfl
        intro _
        exact Keeps.bind event_requests fun _ => Keeps.pure
      dsimp only
      cases row.state with
      | ready | running | awaitingValidation => exact hmove
      | cancelled | uncertain | failed | succeeded | rejected => exact Keeps.pure

theorem expireAll_requests {rows : List WorkflowRow} : Keeps Tables.requests (expireAll rows) := by
  induction rows with
  | nil => exact Keeps.pure
  | cons row rest ih =>
      apply Keeps.bind
      · apply Keeps.bind
        · apply updateWorkflow_requests
          intro _
          rfl
        · intro _
          exact event_requests
      · intro _
        exact ih

theorem recoverExpired_requests : Keeps Tables.requests (recoverExpired tenant now) := by
  unfold recoverExpired
  apply Keeps.bind Keeps.lift
  intro reading
  apply Keeps.bind Keeps.query
  intro rows
  exact Keeps.bind expireAll_requests fun _ => Keeps.pure

theorem settle_requests {uuids : String → String} {candidate : WorkflowRow} :
    Keeps Tables.requests (settle platform uuids candidate) := by
  unfold settle
  apply Keeps.bind selectWorkflow_requests
  intro row
  apply Keeps.bind selectDispatch_requests
  intro journal
  cases journal with
  | none => exact Keeps.pure
  | some journal =>
      dsimp only
      cases journal.outcomeJson with
      | none => exact Keeps.pure
      | some encoded =>
          cases row with
          | none => exact Keeps.pure
          | some row =>
              dsimp only
              split_ifs
              · exact Keeps.bind commitResult_requests fun _ => Keeps.pure
              · exact Keeps.pure

theorem settleAll_requests {uuids : String → String} {candidates : List WorkflowRow} :
    Keeps Tables.requests (settleAll platform uuids candidates) := by
  induction candidates with
  | nil => exact Keeps.pure
  | cons candidate rest ih =>
      apply Keeps.bind settle_requests
      intro result
      exact Keeps.bind ih fun _ => Keeps.pure

theorem recoverStartup_requests {limit : Int} {uuids : String → String} :
    Keeps Tables.requests (recoverStartup platform limit now uuids) := by
  unfold recoverStartup
  apply Keeps.bind Keeps.require
  intro _
  apply Keeps.bind Keeps.lift
  intro reading
  apply Keeps.bind Keeps.query
  intro candidates
  apply Keeps.bind Keeps.require
  intro _
  apply Keeps.bind expireAll_requests
  intro _
  exact Keeps.bind settleAll_requests fun _ => Keeps.pure

end Operations

/-! ### Creation -/

/-- What `create` does with a request and the text its hash covers. -/
def register (platform : Platform) (tenant key : String) (request : String × Option String)
    (hashed uuid4 : String) : Tx String := do
  let existing ← query fun tables => tables.workflows.fetchone fun row =>
    decide (row.tenant = tenant) && decide (row.idempotencyKey = key)
  match existing with
  | some row => do
      require (decide (row.requestHash = platform.sha256 hashed))
        (.workflowConflict "Idempotency key conflicts with existing input")
      pure row.id
  | none => do
      attempt (Tables.addWorkflow ⟨uuid4, tenant, key, platform.sha256 hashed, request.1, .ready, 0,
        none, none, none, none⟩) .integrityError
      insertBinding (request.2.map fun text => ⟨uuid4, tenant, text⟩)
      event tenant uuid4 (.state .ready) 0
      pure uuid4

section Creation

variable {platform : Platform} {tables final : Tables} {tenant key uuid4 hashed id : String}
  {packet : TaskPacket} {binding : Option (List (String × Json))}
  {request : String × Option String}

theorem identifier_bind {α : Type} {value : String} {rest : Unit → Tx α}
    (h : isCanonicalId value = true) : (identifier value >>= rest) = rest () :=
  require_true_bind h

/-- **Creation, taken apart.**  It reads its request, which is the same for a packet and
what validation makes of it, and registers it. -/
theorem create_eq (htenant : isCanonicalId tenant = true) (hkey : isCanonicalId key = true) :
    create platform tenant key packet binding uuid4 = (do
      let request ← lift (taskRequest packet binding)
      let hashed ← lift (taskText request)
      register platform tenant key request hashed uuid4) := by
  unfold create
  rw [identifier_bind htenant, identifier_bind hkey]
  unfold taskRequest
  cases hdict : packet.toDict with
  | error error => rfl
  | ok dict =>
      obtain ⟨validated, hvalidated, hvalue⟩ := TaskPacket.rewritten hdict
      obtain ⟨encoded, hencoded, -⟩ := TaskPacket.toDict_text hdict
      rw [lift_ok_bind, hvalidated, lift_ok_bind, hvalue, lift_ok_bind, except_ok_bind, hencoded,
        lift_ok_bind, except_ok_bind]
      cases hbound : boundText binding with
      | error error =>
          show (lift (boundText binding) >>= _) = _
          rw [hbound]
          rfl
      | ok bound =>
          show (lift (boundText binding) >>= _) = _
          rw [hbound]
          exact congrArg (fun text => lift text >>= fun hashed =>
            register platform tenant key (encoded, bound) hashed uuid4) (taskText_eq hdict hencoded)

/-- A creation that returns had canonical names and a request. -/
theorem create_request (h : create platform tenant key packet binding uuid4 tables =
      .ok (id, final)) :
    isCanonicalId tenant = true ∧ isCanonicalId key = true ∧
      ∃ request hashed, taskRequest packet binding = .ok request ∧ taskText request = .ok hashed ∧
        register platform tenant key request hashed uuid4 tables = .ok (id, final) := by
  have hnames := h
  unfold create identifier at hnames
  rw [require_bind_ok, require_bind_ok] at hnames
  obtain ⟨htenant, hkey, -⟩ := hnames
  rw [create_eq htenant hkey, lift_bind_ok] at h
  obtain ⟨request, hrequest, h⟩ := h
  rw [lift_bind_ok] at h
  obtain ⟨hashed, hhashed, h⟩ := h
  exact ⟨htenant, hkey, request, hashed, hrequest, hhashed, h⟩

theorem insertBinding_requests {row : Option BindingRow} :
    Keeps Tables.requests (insertBinding row) := by
  cases row with
  | none => exact Keeps.pure
  | some row =>
      apply Keeps.attempt
      intro state next hadd
      obtain ⟨bindings, -, rfl⟩ := Option.map_eq_some_iff.mp hadd
      rfl

/-- **Registration.**  What a creation returned is what its key stands for. -/
theorem register_ok (h : register platform tenant key request hashed uuid4 tables =
      .ok (id, final)) :
    Extends tables.requests final.requests ∧
      ⟨(tenant, key), id, platform.sha256 hashed⟩ ∈ final.requests := by
  unfold register at h
  rw [query_bind_ok] at h
  cases hfound : tables.workflows.fetchone (fun row =>
      decide (row.tenant = tenant) && decide (row.idempotencyKey = key)) with
  | some row =>
      simp only [hfound, require_bind_ok, pure_ok, decide_eq_true_eq] at h
      obtain ⟨hdigest, rfl, rfl⟩ := h
      have hmatch := List.find?_some hfound
      have hkey : row.registration.key = (tenant, key) := (requested_iff row).mp hmatch
      rw [← hdigest, ← hkey]
      exact ⟨Or.inl rfl, List.mem_map_of_mem (List.mem_of_find?_eq_some hfound)⟩
  | none =>
      simp only [hfound, attempt_bind_ok] at h
      obtain ⟨added, hadd, h⟩ := h
      rw [bind_ok] at h
      obtain ⟨_, bound, hbound, h⟩ := h
      unfold event at h
      rw [write_bind_ok, pure_ok] at h
      obtain ⟨rfl, rfl⟩ := h
      obtain ⟨workflows, hinsert, rfl⟩ := Option.map_eq_some_iff.mp hadd
      have hrequests : bound.requests =
          tables.requests ++ [⟨(tenant, key), uuid4, platform.sha256 hashed⟩] := by
        rw [insertBinding_requests _ _ _ hbound]
        show workflows.rows.map WorkflowRow.registration = _
        rw [Table.insert_rows hinsert, List.map_append, List.map_singleton]
        rfl
      have hfresh : (tenant, key) ∉ tables.requests.map Registration.key :=
        fresh_of_find? requested_iff hfound
      refine ⟨Or.inr ⟨_, hfresh, hrequests⟩, ?_⟩
      show _ ∈ bound.requests
      rw [hrequests]
      exact List.mem_append_right _ (List.mem_singleton_self _)

/-- **Replay.**  A key that stands for a request answers by its digest, and nothing
changes. -/
theorem register_replay {digest : String} (hnodup : (tables.requests.map Registration.key).Nodup)
    (hentry : ⟨(tenant, key), id, digest⟩ ∈ tables.requests) :
    register platform tenant key request hashed uuid4 tables =
      if digest = platform.sha256 hashed then .ok (id, tables)
      else .error (.workflowConflict "Idempotency key conflicts with existing input") := by
  -- the row the query finds is the registered one
  obtain ⟨row, hfound, hrow⟩ := find?_registered requested_iff hnodup hentry rfl
  have hid : row.id = id := congrArg Registration.identity hrow
  have hdigest : row.requestHash = digest := congrArg Registration.digest hrow
  have hquery : (query fun tables => tables.workflows.fetchone fun row =>
      decide (row.tenant = tenant) && decide (row.idempotencyKey = key) : Tx _) tables =
      .ok (some row, tables) := by
    exact congrArg (fun found => Except.ok (found, tables)) hfound
  unfold register
  rw [bind_of_ok hquery]
  show (require (decide (row.requestHash = platform.sha256 hashed)) _ >>= fun _ => pure row.id)
    tables = _
  rw [hdigest, hid]
  by_cases hsame : digest = platform.sha256 hashed
  · rw [if_pos hsame, require_true_bind (decide_eq_true hsame)]
    rfl
  · rw [if_neg hsame, decide_eq_false hsame]
    rfl

/-- **Second creation.**  Whatever is called for under a registered key, the first
request decides, and nothing changes. -/
theorem create_replay {packet' : TaskPacket} {binding' : Option (List (String × Json))}
    (htenant : isCanonicalId tenant = true) (hkey : isCanonicalId key = true)
    (hrequest : taskRequest packet binding = .ok request) (hhashed : taskText request = .ok hashed)
    (hapart : Apart platform (taskRequest packet binding >>= taskText)
      (taskRequest packet' binding' >>= taskText))
    (hnodup : (tables.requests.map Registration.key).Nodup)
    (hentry : ⟨(tenant, key), id, platform.sha256 hashed⟩ ∈ tables.requests) :
    commit (create platform tenant key packet' binding' uuid4) tables =
      (replayAnswer request (taskRequest packet' binding') id
        (.workflowConflict "Idempotency key conflicts with existing input"), tables) := by
  rw [create_eq htenant hkey]
  cases hrequest' : taskRequest packet' binding' with
  | error error => rfl
  | ok request' =>
      obtain ⟨hashed', hhashed'⟩ := taskText_total hrequest'
      rw [lift_ok_bind, hhashed', lift_ok_bind]
      unfold commit
      rw [register_replay hnodup hentry]
      rw [hrequest, hrequest', except_ok_bind, except_ok_bind] at hapart
      have hsame : platform.sha256 hashed = platform.sha256 hashed' ↔ request' = request :=
        hapart.digest_iff (fun text h h' => taskText_injective hrequest' hrequest h' h) hhashed hhashed'
      by_cases hequal : request' = request
      · rw [if_pos (hsame.mpr hequal), replayAnswer, except_ok_bind, if_pos hequal]
        rfl
      · rw [if_neg fun hdigest => hequal (hsame.mp hdigest), replayAnswer, except_ok_bind,
          if_neg hequal]
        rfl

end Creation

/-! ### Runs -/

/-- The store is a register. -/
theorem store_registers (platform : Platform) : Registers (store platform) Tables.requests := by
  intro tables call
  have hkept : Keeps Tables.requests (call.body platform) →
      Extends tables.requests ((store platform).next tables call).requests :=
    fun hkeeps => Or.inl (hkeeps.commit tables)
  cases call with
  | create tenant key packet binding uuid4 =>
      let body := Call.body platform (.create tenant key packet binding uuid4)
      refine @commit_preserves _ _ _ body (fun final => Extends tables.requests final.requests)
        tables (Or.inl rfl) fun answer final h => ?_
      obtain ⟨id, hcreate, -⟩ := map_ok.mp h
      obtain ⟨-, -, request, hashed, -, -, hregister⟩ := create_request hcreate
      exact (register_ok hregister).1
  | claim tenant workflowId owner leaseSeconds now => exact hkept claim_requests.map
  | beginDispatch tenant workflowId owner fence budget now =>
      exact hkept beginDispatch_requests.map
  | recordOutcome tenant workflowId owner fence result succeeded now =>
      exact hkept recordOutcome_requests.map
  | complete tenant workflowId owner fence result succeeded now uuid4 =>
      exact hkept complete_requests.map
  | reconcileUncertain tenant workflowId uuid4 => exact hkept reconcileUncertain_requests.map
  | validate tenant workflowId policy => exact hkept validate_requests.map
  | cancel tenant workflowId => exact hkept cancel_requests.map
  | recoverExpired tenant now => exact hkept recoverExpired_requests.map
  | recoverStartup limit now uuids => exact hkept recoverStartup_requests.map

theorem empty_requests : (Tables.empty.requests.map Registration.key).Nodup := List.nodup_nil

end Workflows
end Ryuk
