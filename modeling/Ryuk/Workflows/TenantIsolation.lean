import Ryuk.Workflows.Progress
import Ryuk.Workflows.TenantGraphs
import Ryuk.Workflows.TenantTasks

/-!
# Tenant isolation

The store answers the requests of a tenant as if the tenant had it alone, apart from
the sequence numbers of events, which count the events of all tenants.
-/

namespace Ryuk
namespace Workflows

open Foundation Foundation.Transaction

/-- What a tenant may ask of the store. -/
inductive StoreRequest where
  | task (request : TaskRequest)
  | graph (request : GraphRequest)

inductive StoreReply (platform : Platform) where
  | task (reply : TaskReply platform)
  | graph (reply : GraphReply platform)

/-- All tables of a store. -/
abbrev StoreTables := Tables × GraphTables

def StoreTables.empty : StoreTables := (Tables.empty, GraphTables.empty)

/-- The transaction of a request by a tenant. -/
def StoreRequest.body (platform : Platform) (tenant : String) :
    StoreRequest → Transaction StoreTables PyError (StoreReply platform)
  | .task request => .task <$> (request.body platform tenant).onFirst
  | .graph request => .graph <$> (request.body platform tenant).onSecond

/-- An identifier that is generated for a request is a new one. -/
def StoreRequest.Fresh (request : StoreRequest) (tables : StoreTables) : Prop :=
  match request with
  | .task request => ∀ uuid4 ∈ request.generated, tables.1.Unused uuid4
  | .graph request => ∀ uuid4 ∈ request.generated, tables.2.Unused uuid4

/-- `SQLiteWorkflowStore`, with requests of any tenants in any order. -/
def sqliteWorkflowStore (platform : Platform) :
    Machine StoreTables (String × StoreRequest) (Except PyError (StoreReply platform)) :=
  Machine.ofCalls (StoreRequest.body platform)

/-- A reply without the sequence numbers of events. -/
def StoreReply.unnumbered {platform : Platform} : StoreReply platform → StoreReply platform
  | .task reply => .task reply.unnumbered
  | .graph reply => .graph reply.unnumbered

/-- Two runs with the same requests of a tenant, whatever the others request, answer
the tenant alike, as far as `read` tells; generated identifiers are new. -/
def TenantsApart (platform : Platform) {ρ : Type} (read : StoreReply platform → ρ) : Prop :=
  ∀ (tenant : String) (first second : List (String × StoreRequest)),
    (sqliteWorkflowStore platform).AllowedRun (fun tables call => call.2.Fresh tables)
      StoreTables.empty first →
    (sqliteWorkflowStore platform).AllowedRun (fun tables call => call.2.Fresh tables)
      StoreTables.empty second →
    first.filterMap (Machine.callOf tenant) = second.filterMap (Machine.callOf tenant) →
    (sqliteWorkflowStore platform).observed (Machine.callOf tenant) (Except.map read)
        StoreTables.empty first =
      (sqliteWorkflowStore platform).observed (Machine.callOf tenant) (Except.map read)
        StoreTables.empty second

/-- The part of a tenant. -/
def StoreTables.only (tenant : String) (tables : StoreTables) : StoreTables :=
  (tables.1.only tenant, tables.2.only tenant)

def StoreTables.Owned (tables : StoreTables) : Prop := tables.1.Owned ∧ tables.2.Owned

theorem storeRequest_confined (platform : Platform) (tenant : String) (request : StoreRequest) :
    Confined StoreTables.only tenant (fun tables => tables.Owned ∧ request.Fresh tables)
      StoreTables.Owned (StoreReply.unnumbered <$> request.body platform tenant) := by
  cases request with
  | task request =>
      have hbody : (StoreReply.unnumbered <$> (StoreRequest.task request).body platform tenant) =
          StoreReply.task <$> (TaskReply.unnumbered <$> request.body platform tenant).onFirst := by
        funext tables
        unfold StoreRequest.body onFirst
        show Except.map _ (Except.map _ (Except.map _ (request.body platform tenant tables.1))) =
          Except.map _ (Except.map _ (Except.map _ (request.body platform tenant tables.1)))
        cases request.body platform tenant tables.1 with
        | error error => rfl
        | ok pair => rfl
      rw [hbody]
      have hconfined : Confined StoreTables.only tenant _ _ _ :=
        (taskRequest_confined platform tenant request).onFirst GraphTables.Owned
      refine Confined.map (hconfined.weaken (fun tables h => ?_) fun _ h => h)
      exact ⟨⟨h.1.1, h.2⟩, h.1.2⟩
  | graph request =>
      have hbody : (StoreReply.unnumbered <$> (StoreRequest.graph request).body platform tenant) =
          StoreReply.graph <$> (GraphReply.unnumbered <$> request.body platform tenant).onSecond := by
        funext tables
        unfold StoreRequest.body onSecond
        show Except.map _ (Except.map _ (Except.map _ (request.body platform tenant tables.2))) =
          Except.map _ (Except.map _ (Except.map _ (request.body platform tenant tables.2)))
        cases request.body platform tenant tables.2 with
        | error error => rfl
        | ok pair => rfl
      rw [hbody]
      have hconfined : Confined StoreTables.only tenant _ _ _ :=
        (graphRequest_confined platform tenant request).onSecond Tables.Owned
      refine Confined.map (hconfined.weaken (fun tables h => ?_) fun _ h => h)
      exact ⟨h.1.1, h.1.2, h.2⟩

/-- **Tenant isolation.**  Apart from the sequence numbers of events, no tenant can
tell what the others do. -/
theorem tenants_apart (platform : Platform) :
    TenantsApart platform (@StoreReply.unnumbered platform) := by
  intro tenant first second hfirst hsecond hsame
  have hunwinds := Machine.unwinds_of_confined (storeRequest_confined platform) tenant
  apply hunwinds.observed _ hfirst hsecond hsame
  exact ⟨rfl, ⟨Tables.empty_owned, GraphTables.empty_owned⟩,
    ⟨Tables.empty_owned, GraphTables.empty_owned⟩⟩

/-! ### Sequence numbers -/

section Sequences

variable {platform : Platform} {tenant key uuid4 : String} {packet : TaskPacket}
  {tables final : Tables}

/-- A new workflow has one event, the last of all. -/
theorem create_logged (hnew : ∀ row ∈ tables.workflows.rows,
      ¬ (row.tenant = tenant ∧ row.idempotencyKey = key))
    (h : create platform tenant key packet none uuid4 tables = .ok (uuid4, final)) :
    final.events = tables.events ++ [⟨uuid4, tenant, .state .ready, 0⟩] ∧
      final.artifacts = tables.artifacts := by
  have habsent : tables.workflows.fetchone (fun row =>
      decide (row.tenant = tenant) && decide (row.idempotencyKey = key)) = none := by
    unfold Table.fetchone
    rw [List.find?_eq_none]
    intro row hrow hmatch
    rw [Bool.and_eq_true, decide_eq_true_eq, decide_eq_true_eq] at hmatch
    exact hnew row hrow hmatch
  unfold create identifier at h
  simp only [require_bind_ok, lift_bind_ok, query_bind_ok, habsent, attempt_bind_ok] at h
  obtain ⟨-, -, dict, -, validated, -, value, -, encoded, -, bound, hbound, hashed, -, added, hadd,
    h⟩ := h
  obtain rfl := Except.ok.inj hbound
  obtain ⟨workflows, -, rfl⟩ := Option.map_eq_some_iff.mp hadd
  unfold insertBinding event at h
  simp only [Option.map_none, pure_bind, write_bind_ok, pure_ok] at h
  rw [← h.2]
  exact ⟨rfl, rfl⟩

/-- The store after a request that returned. -/
theorem sqliteWorkflowStore_next {request : TaskRequest} {graphs : GraphTables}
    {reply : TaskReply platform} (h : request.body platform tenant tables = .ok (reply, final)) :
    (sqliteWorkflowStore platform).step (tables, graphs) (tenant, .task request) =
      (.ok (.task reply), (final, graphs)) := by
  apply commit_of_ok
  show Except.map _ (Except.map _ (request.body platform tenant tables)) = _
  rw [h]
  rfl

/-- The only event of a workflow is read with its place among all events. -/
theorem events_answer {graphs : GraphTables} {before : List EventRow}
    (hevents : tables.events = before ++ [⟨"v", "a", .state .ready, 0⟩])
    (hbefore : ∀ row ∈ before, row.tenant ≠ "a") :
    (sqliteWorkflowStore platform).answer (tables, graphs) ("a", .task (.events "v")) =
      .ok (.task (.events [⟨before.length + 1, .state .ready, 0⟩])) := by
  have hrows : sequenced tables.events (fun row =>
      decide (row.tenant = "a") && decide (row.workflowId = "v")) =
        [(before.length + 1, ⟨"v", "a", .state .ready, 0⟩)] := by
    unfold sequenced
    rw [hevents, List.zipIdx_append, List.filterMap_append, List.filterMap_eq_nil_iff.mpr]
    · rw [List.nil_append, List.zipIdx_singleton, Nat.add_comm]
      rfl
    · intro entry hentry
      have hmem : entry.1 ∈ before := List.fst_mem_of_mem_zipIdx hentry
      apply if_neg
      rw [Bool.and_eq_true, decide_eq_true_eq]
      rintro ⟨htenant, -⟩
      exact hbefore entry.1 hmem htenant
  have hbody : (TaskRequest.events "v").body platform "a" tables =
      .ok (.events [⟨before.length + 1, .state .ready, 0⟩], tables) := by
    show Except.ok (TaskReply.events (List.map _ (sequenced tables.events _)), tables) = _
    rw [hrows]
    rfl
  exact Machine.answer_of_step (sqliteWorkflowStore_next hbody)

/-- A workflow that another tenant created before shifts the sequence numbers. -/
theorem sequence_numbers_shared : ¬ ∀ platform, TenantsApart platform (@id (StoreReply platform)) := by
  intro h
  obtain ⟨platform⟩ : Nonempty Platform := ⟨⟨id, id, fun _ => true⟩⟩
  obtain ⟨packet, hpacket⟩ : ∃ packet : TaskPacket, packet.Storable :=
    ⟨TaskPacket.short, TaskPacket.short_storable⟩
  have hnone : ∀ tenant key, ∀ row ∈ Tables.empty.workflows.rows,
      ¬ (row.tenant = tenant ∧ row.idempotencyKey = key) :=
    fun _ _ _ hrow => (List.not_mem_nil hrow).elim
  -- alone, the workflow has the first event
  obtain ⟨_, alone, hcreate, -⟩ := @create_fresh platform "a" "k" "v" packet none Tables.empty
    (by decide) (by decide) hpacket (fun _ hnone => by cases hnone) (hnone "a" "k") rfl rfl
  have halone := (create_logged (hnone "a" "k") hcreate).1
  -- after a workflow of the other tenant, it has the second one
  obtain ⟨other, created, hcreate', hrows, hid, htenant, hkey, -, -, hbindings⟩ :=
    @create_fresh platform "b" "k" "w" packet none Tables.empty (by decide) (by decide) hpacket
      (fun _ hnone => by cases hnone) (hnone "b" "k") rfl rfl
  have hrows' : created.workflows.rows = [other] := hrows
  obtain ⟨hcreated, hartifacts⟩ := create_logged (hnone "b" "k") hcreate'
  have hunused : created.workflows.find "v" = none := by
    rw [Table.find_eq_none_iff, hrows', List.map_singleton, List.mem_singleton, hid]
    decide
  have hnew : ∀ row ∈ created.workflows.rows, ¬ (row.tenant = "a" ∧ row.idempotencyKey = "k") := by
    intro row hrow
    rw [hrows', List.mem_singleton] at hrow
    rw [hrow, htenant]
    rintro ⟨hsame, -⟩
    exact absurd hsame (by decide)
  obtain ⟨_, both, hcreate'', -⟩ := @create_fresh platform "a" "k" "v" packet none created
    (by decide) (by decide) hpacket (fun _ hnone => by cases hnone) hnew hunused
    (by rw [hbindings]; rfl)
  have hboth := (create_logged hnew hcreate'').1
  have hstep : ∀ tables final, create platform "a" "k" packet none "v" tables = .ok ("v", final) →
      (sqliteWorkflowStore platform).step (tables, GraphTables.empty)
          ("a", .task (.create "k" packet none "v")) =
        (.ok (.task (.answer (.workflowId "v"))), (final, GraphTables.empty)) := by
    intro tables final hcreated
    apply sqliteWorkflowStore_next
    exact map_ok.mpr ⟨_, map_ok.mpr ⟨_, hcreated, rfl⟩, rfl⟩
  have hstep' : (sqliteWorkflowStore platform).step StoreTables.empty
      ("b", .task (.create "k" packet none "w")) =
        (.ok (.task (.answer (.workflowId "w"))), (created, GraphTables.empty)) := by
    apply sqliteWorkflowStore_next
    exact map_ok.mpr ⟨_, map_ok.mpr ⟨_, hcreate', rfl⟩, rfl⟩
  have hfresh : ∀ (row : WorkflowRow) (uuid4 : String) (tables : Tables),
      tables.workflows.rows = [row] → tables.artifacts.rows = [] → row.id ≠ uuid4 →
        tables.Unused uuid4 := by
    intro row uuid4 tables hworkflows hempty hne
    refine ⟨fun found hfound => ?_, fun found hfound => ?_⟩
    · rw [hworkflows, List.mem_singleton] at hfound
      rw [hfound]
      exact hne
    · rw [hempty] at hfound
      cases hfound
  have hempty : ∀ uuid4, Tables.empty.Unused uuid4 :=
    fun _ => ⟨fun _ hrow => (List.not_mem_nil hrow).elim, fun _ hrow => (List.not_mem_nil hrow).elim⟩
  obtain ⟨own, hlist⟩ : ∃ own : List (String × StoreRequest),
      own = [("a", .task (.create "k" packet none "v")), ("a", .task (.events "v"))] := ⟨_, rfl⟩
  have hown : ∀ tables final, tables.Unused "v" →
      create platform "a" "k" packet none "v" tables = .ok ("v", final) →
      (sqliteWorkflowStore platform).AllowedRun (fun tables call => call.2.Fresh tables)
          (tables, GraphTables.empty) own ∧
        (sqliteWorkflowStore platform).observed (Machine.callOf "a") (Except.map id)
            (tables, GraphTables.empty) own =
          [(.task (.create "k" packet none "v"), .ok (.task (.answer (.workflowId "v")))),
            (.task (.events "v"), (sqliteWorkflowStore platform).answer
              (final, GraphTables.empty) ("a", .task (.events "v")))] := by
    intro tables final hunused hcreated
    rw [hlist]
    refine ⟨⟨fun uuid4 huuid4 => ?_, fun uuid4 huuid4 => ?_, trivial⟩, ?_⟩
    · rw [← Option.mem_some_iff.mp huuid4]
      exact hunused
    · cases huuid4
    · rw [Machine.observed_seen Machine.callOf_self, Machine.observed_seen Machine.callOf_self,
        Machine.answer_of_step (hstep tables final hcreated),
        Machine.next_of_step (hstep tables final hcreated), Except.map_id]
      rfl
  have hcreated' := hfresh other "v" created hrows' (by rw [hartifacts]; rfl)
    (by rw [hid]; decide)
  obtain ⟨hallowed, hobserved⟩ := hown Tables.empty alone (hempty "v") hcreate
  obtain ⟨hallowed', hobserved'⟩ := hown created both hcreated' hcreate''
  have hsame := h platform "a" own (("b", .task (.create "k" packet none "w")) :: own) hallowed
    ⟨fun uuid4 _ => hempty uuid4, by rw [Machine.next_of_step hstep']; exact hallowed'⟩
    (List.filterMap_cons_none (Machine.callOf_other (by decide))).symm
  have hskip : (sqliteWorkflowStore platform).observed (Machine.callOf "a") (Except.map id)
      StoreTables.empty (("b", .task (.create "k" packet none "w")) :: own) =
        (sqliteWorkflowStore platform).observed (Machine.callOf "a") (Except.map id)
          (created, GraphTables.empty) own := by
    rw [Machine.observed_unseen (Machine.callOf_other (by decide)), Machine.next_of_step hstep']
  rw [hskip] at hsame
  have hanswers := (List.cons.inj (List.cons.inj (hobserved.symm.trans
    (hsame.trans hobserved'))).2).1
  rw [events_answer halone (fun row hrow => (List.not_mem_nil hrow).elim),
    events_answer hboth (fun row hrow => by
      rw [hcreated] at hrow
      rw [List.mem_singleton.mp hrow]
      decide), hcreated] at hanswers
  simp at hanswers

end Sequences

end Workflows
end Ryuk
