import Ryuk.Api.Access
import Ryuk.Api.GraphService
import Ryuk.Api.WorkflowService
import Ryuk.Foundation.Seclusion
import Ryuk.Workflows.TenantIsolation

/-!
# Tenants apart on the routes

Whoever presents a key acts on the part of its tenant alone: what a request of the workflow and
graph routes is answered does not depend on what other tenants did before it or do while it
runs, and it leaves their parts alone.
-/

namespace Ryuk
namespace Api

open Foundation Foundation.Transaction Foundation.Script
open Workflows (GraphTables StoreReply StoreRequest StoreTables Tables)

/-! ### Workflow routes -/

namespace WorkflowRoutes

open Workflows (CreateWorkflowRequest WorkflowPolicy subscript)

variable {platform : Platform} {tenant workflowId : String} {fresh : Tables → Prop}

theorem getBinding_secluded :
    (Route.transact (Workflows.getBinding tenant workflowId)).Secluded Tables.only tenant
      Tables.Owned fresh := secluded_transact Workflows.getBinding_confined

theorem savedWorkflow_secluded :
    (savedWorkflow platform tenant workflowId).Secluded Tables.only tenant Tables.Owned fresh := by
  apply secluded_bind getBinding_secluded
  intro binding
  cases binding with
  | none => trivial
  | some binding =>
      apply secluded_bind (secluded_transact Workflows.get_confined)
      intro row
      cases row with
      | none => trivial
      | some row => trivial

theorem summary_secluded {row : Workflows.SQLiteWorkflowStore.WorkflowRecord} :
    (summary tenant row).Secluded Tables.only tenant Tables.Owned fresh := by
  apply secluded_bind getBinding_secluded
  intro binding
  cases binding with
  | none => trivial
  | some binding => exact secluded_bind secluded_done fun _ => trivial

theorem status_secluded :
    (status platform tenant workflowId).Secluded Tables.only tenant Tables.Owned fresh :=
  secluded_bind savedWorkflow_secluded fun _ => summary_secluded

theorem cancel_secluded :
    (cancel platform tenant workflowId).Secluded Tables.only tenant Tables.Owned fresh := by
  apply secluded_bind savedWorkflow_secluded
  intro row
  apply secluded_bind (secluded_transact Workflows.cancel_confined)
  intro cancelled
  cases cancelled with
  | true => exact status_secluded
  | false => trivial

theorem result_secluded :
    (result platform tenant workflowId).Secluded Tables.only tenant Tables.Owned fresh := by
  apply secluded_bind savedWorkflow_secluded
  intro row
  split_ifs
  · trivial
  · apply secluded_bind (secluded_transact Workflows.validate_confined)
    intro report
    apply secluded_bind secluded_done
    intro decision
    split_ifs
    · trivial
    · exact secluded_bind summary_secluded fun _ => trivial

/-- A creation relies on its new identifier. -/
theorem create_secluded {uuid5 : String → Inference.Text} {policy : Option WorkflowPolicy}
    {limits : InputLimits} {payload : CreateWorkflowRequest} {uuid4 : String} :
    (create platform tenant uuid5 policy limits payload uuid4).Secluded Tables.only tenant
      Tables.Owned fun tables => tables.Unused uuid4 := by
  cases policy with
  | none => trivial
  | some rules =>
      by_cases hfits : Fits rules limits payload
      · obtain ⟨packet, binding, _, _, _, _, -, -, -, -, -, hcalls⟩ :=
          create_calls platform tenant uuid5 hfits
        rw [hcalls]
        exact secluded_bind (secluded_first Workflows.create_confined) fun _ => status_secluded
      · rw [create_limited hfits]
        trivial

/-- The new identifier of a request is not used. -/
def WorkflowRequest.Fresh (tables : Tables) : WorkflowRequest → Prop
  | .create _ _ uuid4 => tables.Unused uuid4
  | .status _ | .cancel _ | .result _ => True

theorem asked_secluded {uuid5 : String → Inference.Text} {limits : InputLimits}
    {given : Circumstances} (request : WorkflowRequest) :
    (request.asked platform uuid5 limits given).route.Secluded Tables.only given.tenantId
      Tables.Owned fun tables => request.Fresh tables := by
  cases request with
  | create policy payload uuid4 => exact secluded_map create_secluded
  | status workflowId => exact secluded_map status_secluded
  | cancel workflowId => exact secluded_map cancel_secluded
  | result workflowId => exact secluded_map result_secluded

end WorkflowRoutes

/-! ### Graph routes -/

namespace GraphRoutes

open Workflows (WorkflowPolicy)
open WorkflowRoutes (InputLimits)

variable {platform : Platform} {tenant graphId : String} {fresh : GraphTables → Prop}

theorem summary_secluded :
    (summary tenant graphId).Secluded GraphTables.only tenant GraphTables.Owned fresh := by
  apply secluded_bind (secluded_transact Workflows.getGraphState_confined)
  intro state
  cases state with
  | none => trivial
  | some state => trivial

theorem savedGraph_secluded :
    (savedGraph tenant graphId).Secluded GraphTables.only tenant GraphTables.Owned fresh := by
  apply secluded_bind (secluded_transact Workflows.getGraphBinding_confined)
  intro binding
  cases binding with
  | none => trivial
  | some binding =>
      apply secluded_bind (secluded_transact Workflows.getGraphState_confined)
      intro state
      cases state with
      | none => trivial
      | some state => trivial

theorem status_secluded :
    (status tenant graphId).Secluded GraphTables.only tenant GraphTables.Owned fresh :=
  secluded_bind savedGraph_secluded fun _ => summary_secluded

theorem cancel_secluded :
    (cancel tenant graphId).Secluded GraphTables.only tenant GraphTables.Owned fresh := by
  apply secluded_bind savedGraph_secluded
  intro state
  apply secluded_bind
  · exact secluded_transact (Workflows.ownedAnd_true Workflows.cancelGraph_confined)
  · exact fun _ => summary_secluded

theorem result_secluded :
    (result platform tenant graphId).Secluded GraphTables.only tenant GraphTables.Owned fresh := by
  apply secluded_bind savedGraph_secluded
  intro state
  apply secluded_bind (secluded_transact Workflows.acceptedGraphResults_confined)
  intro results
  exact secluded_bind summary_secluded fun _ => trivial

/-- A creation relies on its new identifier. -/
theorem create_secluded {uuid5 : String → Inference.Text} {policy : Option WorkflowPolicy}
    {limits : InputLimits} {payload : CreateWorkflowGraphRequest} {clock : Datetime.Instant}
    {uuid4 : String} :
    (create platform tenant uuid5 policy limits payload clock uuid4).Secluded GraphTables.only
      tenant GraphTables.Owned fun tables => tables.Unused uuid4 := by
  cases policy with
  | none => trivial
  | some rules =>
      by_cases hfits : Fits rules limits payload
      · by_cases hvalid : payload.Valid
        · obtain ⟨graph, binding, _, -, -, -, -, hcall⟩ :=
            create_calls platform tenant uuid5 hfits hvalid
          rw [hcall]
          exact secluded_bind (secluded_first Workflows.createGraph_confined) fun _ =>
            summary_secluded
        · rw [create_invalid hfits hvalid]
          trivial
      · rw [create_limited hfits]
        trivial

/-- The new identifier of a request is not used. -/
def GraphRequest.Fresh (tables : GraphTables) : GraphRequest → Prop
  | .create _ _ _ uuid4 => tables.Unused uuid4
  | .status _ | .cancel _ | .result _ => True

theorem asked_secluded {uuid5 : String → Inference.Text} {limits : InputLimits}
    {given : Circumstances} (request : GraphRequest) :
    (request.asked platform uuid5 limits given).route.Secluded GraphTables.only given.tenantId
      GraphTables.Owned fun tables => request.Fresh tables := by
  cases request with
  | create policy payload clock uuid4 => exact secluded_map create_secluded
  | status graphId => exact secluded_map status_secluded
  | cancel graphId => exact secluded_map cancel_secluded
  | result graphId => exact secluded_map result_secluded

end GraphRoutes

/-! ### Requests -/

/-- A request of the management routes. -/
inductive ManagedRequest where
  | workflow (request : WorkflowRoutes.WorkflowRequest)
  | graph (request : GraphRoutes.GraphRequest)

/-- What a request is answered. -/
inductive ManagedReply where
  | workflow (reply : WorkflowRoutes.Reply)
  | graph (reply : GraphRoutes.Reply)

namespace ManagedRequest

/-- The new identifier of a request is not used. -/
def Fresh (tables : StoreTables) : ManagedRequest → Prop
  | .workflow request => request.Fresh tables.1
  | .graph request => request.Fresh tables.2

variable (platform : Platform) (scrypt : Control.Scrypt)
  (keys : Dict String Control.APIKeyRecord) (uuid5 : String → Inference.Text)
  (limits : WorkflowRoutes.InputLimits)

/-- The body of a request, on the whole store. -/
def body (given : Circumstances) : ManagedRequest → Route StoreTables ManagedReply
  | .workflow request =>
      let asked := request.asked platform uuid5 limits given
      .workflow <$> (asked.route.handle asked.failures.translate).onFirst
  | .graph request =>
      let asked := request.asked platform uuid5 limits given
      .graph <$> (asked.route.handle asked.failures.translate).onSecond

/-- A request with its headers: it is of the tenant of the principal it is let in as. -/
def protectedBody (headers : Headers) (clock : Datetime.Instant) (given : Circumstances)
    (request : ManagedRequest) : Route StoreTables ManagedReply := do
  let principal ← Script.lift (requireRole platform scrypt keys .inference headers clock)
  request.body platform uuid5 limits { given with tenantId := principal.tenantId }

end ManagedRequest

/-- Tenants other than this one ask whatever they like of the store.  New identifiers are new,
and the one of the request is not taken. -/
def OthersMove (platform : Platform) (tenant : String) (request : ManagedRequest)
    (before after : StoreTables) : Prop :=
  ∃ calls, (Workflows.sqliteWorkflowStore platform).AllowedRun
      (fun tables call => call.2.Fresh tables) before calls ∧
    (∀ call ∈ calls, call.1 ≠ tenant) ∧
    after = (Workflows.sqliteWorkflowStore platform).after before calls ∧
    (request.Fresh before → request.Fresh after)

/-- The store after a history of requests of its tenants, in which new identifiers are new. -/
def IsHistory (platform : Platform) (calls : List (String × StoreRequest)) (tables : StoreTables) :
    Prop :=
  (Workflows.sqliteWorkflowStore platform).AllowedRun (fun tables call => call.2.Fresh tables)
      StoreTables.empty calls ∧
    tables = (Workflows.sqliteWorkflowStore platform).after StoreTables.empty calls

section Requests

variable {platform : Platform} {tenant : String} {request : ManagedRequest}
  {uuid5 : String → Inference.Text} {limits : WorkflowRoutes.InputLimits} {given : Circumstances}

/-- What is alike for a tenant. -/
abbrev AlikeTo (tenant : String) (left right : StoreTables) : Prop :=
  Showing (StoreTables.only tenant) StoreTables.Owned left right

theorem store_unwinds (platform : Platform) (tenant : String) :
    Machine.Unwinds (Workflows.sqliteWorkflowStore platform) (Machine.callOf tenant)
      (fun tables call => call.2.Fresh tables) (AlikeTo tenant)
      (Except.map StoreReply.unnumbered) :=
  Machine.unwinds_of_confined (Workflows.storeRequest_confined platform) tenant

theorem othersMove_spares {before after : StoreTables}
    (h : OthersMove platform tenant request before after) (howned : before.Owned) :
    Spares StoreTables.only tenant StoreTables.Owned (fun tables => request.Fresh tables) before
      after := by
  obtain ⟨calls, hallowed, hothers, rfl, hfresh⟩ := h
  have halike := (store_unwinds platform tenant).after_unseen ⟨rfl, howned, howned⟩ hallowed
    fun call hmem => Machine.callOf_other (hothers call hmem)
  exact ⟨halike.1, halike.2.1, hfresh⟩

theorem body_secluded : (request.body platform uuid5 limits given).Secluded StoreTables.only
    given.tenantId StoreTables.Owned fun tables => request.Fresh tables := by
  cases request with
  | workflow request =>
      apply secluded_map
      exact (secluded_handle (WorkflowRoutes.asked_secluded request)).onFirst GraphTables.Owned
  | graph request =>
      apply secluded_map
      exact (secluded_handle (GraphRoutes.asked_secluded request)).onSecond Tables.Owned

theorem empty_alike : AlikeTo tenant StoreTables.empty StoreTables.empty :=
  ⟨rfl, ⟨Tables.empty_owned, GraphTables.empty_owned⟩,
    ⟨Tables.empty_owned, GraphTables.empty_owned⟩⟩

theorem IsHistory.owned {calls : List (String × StoreRequest)} {tables : StoreTables}
    (h : IsHistory platform calls tables) : tables.Owned := by
  obtain ⟨hallowed, rfl⟩ := h
  exact ((store_unwinds platform "").after_alike empty_alike hallowed hallowed rfl).2.1

/-- Histories with the same requests of a tenant leave it the same part. -/
theorem IsHistory.alike {first second : List (String × StoreRequest)} {left right : StoreTables}
    (h : IsHistory platform first left) (h' : IsHistory platform second right)
    (hsame : first.filterMap (Machine.callOf tenant) = second.filterMap (Machine.callOf tenant)) :
    left.only tenant = right.only tenant := by
  obtain ⟨hfirst, rfl⟩ := h
  obtain ⟨hsecond, rfl⟩ := h'
  exact ((store_unwinds platform tenant).after_alike empty_alike hfirst hsecond hsame).1

end Requests

/-- **Tenants apart on the routes.**  A request that is not let in touches nothing.  One that is
let in as a principal is answered alike after any two histories with the same requests of its
tenant, whatever other tenants ask of the store in between and meanwhile, and the tenant's part
of the store is alike too; and the request leaves the part of every other tenant alone. -/
def TenantsApartOnRoutes (platform : Platform) : Prop :=
  ∀ scrypt keys uuid5 limits headers clock given request,
    (∀ failure, requireRole platform scrypt keys .inference headers clock = .error failure →
      ∀ rely tables outcome final,
        (ManagedRequest.protectedBody platform scrypt keys uuid5 limits headers clock given
          request).Runs rely tables outcome final →
        outcome = .error failure ∧ final = tables) ∧
    ∀ principal, requireRole platform scrypt keys .inference headers clock = .ok principal →
      (∀ first second left right outcome outcome' final final',
        IsHistory platform first left → IsHistory platform second right →
        first.filterMap (Machine.callOf principal.tenantId) =
          second.filterMap (Machine.callOf principal.tenantId) →
        request.Fresh left → request.Fresh right →
        (ManagedRequest.protectedBody platform scrypt keys uuid5 limits headers clock given
          request).Runs (OthersMove platform principal.tenantId request) left outcome final →
        (ManagedRequest.protectedBody platform scrypt keys uuid5 limits headers clock given
          request).Runs (OthersMove platform principal.tenantId request) right outcome' final' →
        outcome = outcome' ∧ final.only principal.tenantId = final'.only principal.tenantId) ∧
      ∀ other, other ≠ principal.tenantId → ∀ history tables outcome final,
        IsHistory platform history tables → request.Fresh tables →
        (ManagedRequest.protectedBody platform scrypt keys uuid5 limits headers clock given
          request).Runs (OthersMove platform other request) tables outcome final →
        final.only other = tables.only other

theorem tenants_apart_on_routes (platform : Platform) : TenantsApartOnRoutes platform := by
  intro scrypt keys uuid5 limits headers clock given request
  have hbody : ∀ principal, requireRole platform scrypt keys .inference headers clock =
      .ok principal → ManagedRequest.protectedBody platform scrypt keys uuid5 limits headers clock
        given request =
      request.body platform uuid5 limits { given with tenantId := principal.tenantId } := by
    intro principal hprincipal
    unfold ManagedRequest.protectedBody
    rw [hprincipal]
    rfl
  refine ⟨fun failure hfailure rely tables outcome final hruns => ?_, fun principal hprincipal => ?_⟩
  · unfold ManagedRequest.protectedBody at hruns
    rw [hfailure] at hruns
    exact hruns
  · rw [hbody principal hprincipal]
    have hsecluded := @body_secluded platform request uuid5 limits
      { given with tenantId := principal.tenantId }
    refine ⟨?_, ?_⟩
    · intro first second left right outcome outcome' final final' hfirst hsecond hsame hleft hright
        hruns hruns'
      exact hsecluded.runs (fun _ _ => othersMove_spares) (hfirst.alike hsecond hsame)
        ⟨hfirst.owned, hleft⟩ ⟨hsecond.owned, hright⟩ hruns hruns'
    · intro other hother history tables outcome final hhistory hfresh hruns
      exact hsecluded.silent hother (fun _ _ => othersMove_spares) ⟨hhistory.owned, hfresh⟩ hruns

end Api
end Ryuk
