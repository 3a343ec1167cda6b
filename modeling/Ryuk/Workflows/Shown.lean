import Ryuk.Workflows.Idempotency
import Ryuk.Workflows.SingleTask
import Ryuk.Workflows.StoreReads

/-!
# What the reads of a reachable store return

In a store that a run reached every stored text can be read back, so the reads of a
workflow return what its view holds.  What a workflow is known by, its tenant, its packet
and its binding, never changes, and once it has ended neither does what is read of it.
-/

namespace Ryuk
namespace Workflows

open Foundation Foundation.Json Foundation.Transaction Foundation.Registry Relation
open SQLiteWorkflowStore (WorkflowRecord get loadsOptional recordResult)

variable {platform : Platform} {tables later final : Tables} {tenant workflowId : String}
  {row : WorkflowRow} {view : View}

/-! ### Packets -/

/-- Every stored packet can be read. -/
def Tables.Readable (tables : Tables) : Prop :=
  ∀ row ∈ tables.workflows.rows, ∃ packet, loadsJson row.packet = .ok packet

/-- What a workflow was created from is kept. -/
structure SameRequest (view later : View) (row row' : WorkflowRow) : Prop where
  packet : row'.packet = row.packet
  digest : row'.requestHash = row.requestHash
  binding : later.binding = view.binding

theorem Step.sameRequest {later : View} (hstep : Step platform workflowId view later)
    (hrow : view.row = some row) : ∃ row', later.row = some row' ∧
      SameRequest view later row row' := by
  cases hstep with
  | create _ _ habsent =>
      rw [hrow] at habsent
      cases habsent
  | claim _ _ hfound | complete _ _ _ hfound | reconcile _ _ _ hfound | validate _ _ _ hfound
  | cancel hfound | expire hfound | beginDispatch _ hfound | recordOutcome _ _ hfound =>
      rw [hrow, Option.some.injEq] at hfound
      subst hfound
      exact ⟨_, rfl, rfl, rfl, rfl⟩

theorem chain_sameRequest {later : View}
    (hchain : ReflTransGen (Step platform workflowId) view later) (hrow : view.row = some row) :
    ∃ row', later.row = some row' ∧ SameRequest view later row row' := by
  induction hchain with
  | refl => exact ⟨row, hrow, rfl, rfl, rfl⟩
  | tail _ hstep ih =>
      obtain ⟨middle, hmiddle, hsame⟩ := ih
      obtain ⟨row', hrow', hkept⟩ := hstep.sameRequest hmiddle
      exact ⟨row', hrow', hkept.packet.trans hsame.packet, hkept.digest.trans hsame.digest,
        hkept.binding.trans hsame.binding⟩

/-- After a call that adds no workflow, every row is an earlier one, with its request. -/
theorem earlier_row (hrefines : Refines platform tables final)
    (hrequests : final.requests = tables.requests) (hrow : row ∈ final.workflows.rows) :
    ∃ earlier ∈ tables.workflows.rows, earlier.id = row.id ∧
      SameRequest (tables.view row.id) (final.view row.id) earlier row := by
  have hids : final.workflows.rows.map WorkflowRow.id = tables.workflows.rows.map WorkflowRow.id := by
    have hmap := congrArg (List.map Registration.identity) hrequests
    unfold Tables.requests at hmap
    rw [List.map_map, List.map_map] at hmap
    exact hmap
  have hid : row.id ∈ tables.workflows.rows.map WorkflowRow.id :=
    hids ▸ List.mem_map_of_mem hrow
  obtain ⟨earlier, hearlier, hsame⟩ := List.mem_map.mp hid
  have hview : (tables.view row.id).row = some earlier := by
    show tables.workflows.find row.id = some earlier
    rw [← hsame]
    exact Table.find_of_mem hearlier
  obtain ⟨row', hrow', hkept⟩ := chain_sameRequest (hrefines row.id) hview
  have hfound : (final.view row.id).row = some row := Table.find_of_mem hrow
  rw [hfound, Option.some.injEq] at hrow'
  subst hrow'
  exact ⟨earlier, hearlier, hsame, hkept⟩

/-- A call that adds no workflow keeps the packets readable. -/
theorem Tables.Readable.of_requests (h : tables.Readable) (hrefines : Refines platform tables final)
    (hrequests : final.requests = tables.requests) : final.Readable := by
  intro row hrow
  obtain ⟨earlier, hearlier, -, hkept⟩ := earlier_row hrefines hrequests hrow
  rw [hkept.packet]
  exact h earlier hearlier

theorem insertBinding_workflows {bound : Option BindingRow} :
    Keeps Tables.workflows (insertBinding bound) := by
  cases bound with
  | none => exact Keeps.pure
  | some bound =>
      apply Keeps.attempt
      intro state next hadd
      obtain ⟨bindings, -, rfl⟩ := Option.map_eq_some_iff.mp hadd
      rfl

/-- A new workflow: its row, and the binding that came with it. -/
structure Creates (platform : Platform) (tables final : Tables) (tenant : String)
    (request : String × Option String) (hashed : String) (row : WorkflowRow) : Prop where
  packet : row.packet = request.1
  digest : row.requestHash = platform.sha256 hashed
  inserted : tables.workflows.insert row = some final.workflows
  unbound : request.2 = none → final.bindings = tables.bindings
  bound : ∀ text, request.2 = some text →
    tables.bindings.insert ⟨row.id, tenant, text⟩ = some final.bindings

/-- A creation that returns finds its workflow or adds it. -/
theorem register_adds {key hashed uuid4 id : String} {request : String × Option String}
    (h : register platform tenant key request hashed uuid4 tables = .ok (id, final)) :
    final = tables ∨ ∃ row, Creates platform tables final tenant request hashed row := by
  unfold register at h
  rw [query_bind_ok] at h
  cases hfound : tables.workflows.fetchone (fun row =>
      decide (row.tenant = tenant) && decide (row.idempotencyKey = key)) with
  | some row =>
      simp only [hfound, require_bind_ok, pure_ok] at h
      exact Or.inl h.2.2.symm
  | none =>
      simp only [hfound, attempt_bind_ok] at h
      obtain ⟨added, hadd, h⟩ := h
      rw [bind_ok] at h
      obtain ⟨_, bound, hbound, h⟩ := h
      unfold event at h
      rw [write_bind_ok, pure_ok] at h
      obtain ⟨-, rfl⟩ := h
      obtain ⟨workflows, hinsert, rfl⟩ := Option.map_eq_some_iff.mp hadd
      have hrows : bound.workflows = workflows := insertBinding_workflows _ _ _ hbound
      refine Or.inr ⟨⟨uuid4, tenant, key, platform.sha256 hashed, request.1, .ready, 0, none, none,
        none, none⟩, rfl, rfl, ?_, ?_, ?_⟩
      · show tables.workflows.insert _ = some bound.workflows
        rw [hrows]
        exact hinsert
      · intro hnone
        rw [hnone] at hbound
        obtain ⟨-, hsame⟩ := pure_ok.mp hbound
        show bound.bindings = tables.bindings
        rw [← hsame]
      · intro text htext
        rw [htext] at hbound
        have hadded : Tables.addBinding ⟨uuid4, tenant, text⟩ { tables with workflows } =
            some bound := attempt_ok.mp hbound
        obtain ⟨bindings, hbindings, rfl⟩ := Option.map_eq_some_iff.mp hadded
        exact hbindings

/-- A new workflow has a packet that was written as canonical JSON. -/
theorem Tables.Readable.create {key uuid4 id : String} {packet : TaskPacket}
    {binding : Option (List (String × Json))} (h : tables.Readable)
    (hcreate : create platform tenant key packet binding uuid4 tables = .ok (id, final)) :
    final.Readable := by
  obtain ⟨-, -, request, hashed, hrequest, -, hregister⟩ := create_request hcreate
  rcases register_adds hregister with rfl | ⟨added, hadds⟩
  · exact h
  · unfold taskRequest at hrequest
    simp only [except_bind_ok] at hrequest
    obtain ⟨dict, -, encoded, hencoded, bound, -, hrequest⟩ := hrequest
    intro row hrow
    rw [Table.mem_insert hadds.inserted] at hrow
    rcases hrow with hold | rfl
    · exact h row hold
    · rw [hadds.packet, ← Except.ok.inj hrequest]
      exact ⟨_, loadsJson_canonicalJson hencoded⟩

/-- What holds after a creation, and after every call that adds no workflow, holds after
every call. -/
theorem next_cases {claim : Tables → Prop} (call : Call) (hsame : claim tables)
    (hkept : ∀ final, Refines platform tables final → final.requests = tables.requests → claim final)
    (hcreate : ∀ tenant key packet binding uuid4 id final,
      create platform tenant key packet binding uuid4 tables = .ok (id, final) → claim final) :
    claim ((store platform).next tables call) := by
  have hkeeps : ∀ body : Tx Answer, Keeps Tables.requests body → call.body platform = body →
      claim ((store platform).next tables call) := by
    intro body hkeeps hbody
    apply hkept _ (next_refines tables call)
    show (commit (call.body platform) tables).2.requests = tables.requests
    rw [hbody]
    exact hkeeps.commit tables
  cases call with
  | create tenant key packet binding uuid4 =>
      apply @commit_preserves _ _ _ (Call.body platform (.create tenant key packet binding uuid4))
        claim tables hsame
      intro answer final hok
      obtain ⟨id, hreturned, -⟩ := map_ok.mp hok
      exact hcreate tenant key packet binding uuid4 id final hreturned
  | claim tenant workflowId owner leaseSeconds now => exact hkeeps _ claim_requests.map rfl
  | beginDispatch tenant workflowId owner fence budget now =>
      exact hkeeps _ beginDispatch_requests.map rfl
  | recordOutcome tenant workflowId owner fence result succeeded now =>
      exact hkeeps _ recordOutcome_requests.map rfl
  | complete tenant workflowId owner fence result succeeded now uuid4 =>
      exact hkeeps _ complete_requests.map rfl
  | reconcileUncertain tenant workflowId uuid4 =>
      exact hkeeps _ reconcileUncertain_requests.map rfl
  | validate tenant workflowId policy => exact hkeeps _ validate_requests.map rfl
  | cancel tenant workflowId => exact hkeeps _ cancel_requests.map rfl
  | recoverExpired tenant now => exact hkeeps _ recoverExpired_requests.map rfl
  | recoverStartup limit now uuid4 => exact hkeeps _ recoverStartup_requests.map rfl

/-- Every call keeps the packets readable. -/
theorem next_readable (tables : Tables) (call : Call) (h : tables.Readable) :
    ((store platform).next tables call).Readable :=
  next_cases call h (fun _ hrefines => h.of_requests hrefines)
    fun _ _ _ _ _ _ _ hcreate => h.create hcreate

/-! ### Reachable stores -/

/-- What holds of every store a run reaches. -/
structure Tables.Stored (platform : Platform) (tables : Tables) : Prop where
  valid : AllValid platform tables
  readable : tables.Readable
  keys : (tables.requests.map Registration.key).Nodup

/-- What others may do to the store. -/
def Evolves (platform : Platform) (tables later : Tables) : Prop :=
  (store platform).Reachable tables later

theorem Tables.Stored.next (h : tables.Stored platform) (call : Call) :
    ((store platform).next tables call).Stored platform :=
  ⟨next_valid tables call h.valid, next_readable tables call h.readable,
    (store_registers platform tables call).nodup h.keys⟩

theorem Tables.Stored.evolves (h : tables.Stored platform) (hlater : Evolves platform tables later) :
    later.Stored platform :=
  hlater.invariant (fun _ call hstored => hstored.next call) h

theorem empty_stored : Tables.empty.Stored platform :=
  ⟨empty_valid, fun _ hrow => (List.not_mem_nil hrow).elim, empty_requests⟩

theorem reachable_stored (h : Evolves platform Tables.empty tables) : tables.Stored platform :=
  empty_stored.evolves h

/-- What was stored only advances. -/
theorem Evolves.advances (h : tables.Stored platform) (hlater : Evolves platform tables later) :
    AllAdvance tables later := by
  obtain ⟨calls, rfl⟩ := hlater
  exact after_advances h.valid calls

/-! ### Bindings -/

/-- The binding a tenant sees. -/
def Tables.Shows (tables : Tables) (tenant workflowId : String) (binding : Json) : Prop :=
  ∃ row bound, tables.workflows.find workflowId = some row ∧ row.tenant = tenant ∧
    tables.bindings.find workflowId = some bound ∧ loads bound.bindingJson = some binding

/-- A binding that is stored is shown to the tenant of its workflow. -/
theorem Tables.Stored.shows (h : tables.Stored platform) {bound : BindingRow}
    (hbound : tables.bindings.find workflowId = some bound) :
    ∃ binding, tables.Shows bound.tenant workflowId binding := by
  have hview : (tables.view workflowId).binding = some bound := hbound
  cases hrow : (tables.view workflowId).row with
  | none =>
      rw [(h.valid workflowId).absent hrow] at hview
      cases hview
  | some row =>
      obtain ⟨htenant, fields, hfields⟩ := (h.valid workflowId).binding row hrow bound hview
      exact ⟨_, row, bound, hrow, htenant.symm, hbound, loads_dumps hfields⟩

theorem Tables.Shows.unique {binding binding' : Json} {other : String}
    (h : tables.Shows tenant workflowId binding) (h' : tables.Shows other workflowId binding') :
    other = tenant ∧ binding' = binding := by
  obtain ⟨row, bound, hrow, rfl, hbound, hloads⟩ := h
  obtain ⟨row', bound', hrow', rfl, hbound', hloads'⟩ := h'
  rw [hrow, Option.some.injEq] at hrow'
  rw [hbound, Option.some.injEq] at hbound'
  subst hrow' hbound'
  exact ⟨rfl, Option.some.inj (hloads'.symm.trans hloads)⟩

/-- What is shown stays shown. -/
theorem Tables.Shows.evolves {binding : Json} (h : tables.Shows tenant workflowId binding)
    (hadvances : AllAdvance tables later) : later.Shows tenant workflowId binding := by
  obtain ⟨row, bound, hrow, htenant, hbound, hloads⟩ := h
  obtain ⟨row', hrow', hkept⟩ := (hadvances workflowId).row row hrow
  exact ⟨row', bound, hrow', hkept.tenant.trans htenant,
    (hadvances workflowId).binding bound hbound, hloads⟩

theorem query_eq {α : Type} {read : Tables → α} {found : α} (h : read tables = found) :
    (query read : Tx α) tables = .ok (found, tables) := by
  rw [← h]
  rfl

/-- `get_binding` returns what is shown, or nothing. -/
theorem getBinding_stored (h : tables.Stored platform) (tenant workflowId : String) :
    (∃ binding, tables.Shows tenant workflowId binding ∧
      getBinding tenant workflowId tables = .ok (some binding, tables)) ∨
    ((∀ binding, ¬ tables.Shows tenant workflowId binding) ∧
      getBinding tenant workflowId tables = .ok (none, tables)) := by
  have hfixed : ∀ row : BindingRow,
      (decide (row.tenant = tenant) && decide (row.workflowId = workflowId)) = true →
        row.workflowId = workflowId := by
    intro row hrow
    rw [Bool.and_eq_true, decide_eq_true_eq, decide_eq_true_eq] at hrow
    exact hrow.2
  unfold getBinding
  rw [bind_of_ok (query_eq (Table.fetchone_of_key hfixed))]
  cases hfind : tables.bindings.find workflowId with
  | none =>
      refine Or.inr ⟨?_, rfl⟩
      rintro binding ⟨_, bound, -, -, hbound, -⟩
      rw [hfind] at hbound
      cases hbound
  | some bound =>
      have hkey : bound.workflowId = workflowId := Table.find_key hfind
      obtain ⟨binding, row, bound', hrow, htenant, hbound', hloads⟩ := h.shows hfind
      rw [hfind, Option.some.injEq] at hbound'
      subst hbound'
      by_cases hown : bound.tenant = tenant
      · refine Or.inl ⟨binding, ⟨row, bound, hrow, htenant.trans hown, hfind, hloads⟩, ?_⟩
        rw [Option.filter_some, hown, hkey, decide_eq_true rfl, decide_eq_true rfl]
        have hread : loadsJson bound.bindingJson = .ok binding := by
          unfold loadsJson
          rw [hloads]
        show (lift (loadsJson bound.bindingJson) >>= _) tables = _
        rw [hread]
        rfl
      · refine Or.inr ⟨?_, ?_⟩
        · intro other hother
          exact hown (Tables.Shows.unique ⟨row, bound, hrow, htenant, hfind, hloads⟩ hother).1.symm
        · rw [Option.filter_some, decide_eq_false hown]
          rfl

/-! ### Workflows -/

/-- The payload of the one artifact. -/
def View.result (view : View) : Option Json :=
  view.artifacts.head?.bind fun artifact => loads artifact.contentJson

/-- The recorded report. -/
def View.report (view : View) : Option Json :=
  view.validation.bind fun row => loads row.reportJson

/-- The row a tenant sees. -/
def Tables.Holds (tables : Tables) (tenant workflowId : String) (row : WorkflowRow) : Prop :=
  tables.workflows.find workflowId = some row ∧ row.tenant = tenant

theorem selectWorkflow_holds (h : tables.Holds tenant workflowId row) :
    (selectWorkflow tenant workflowId : Tx _) tables = .ok (some row, tables) :=
  query_eq (fetchone_owned_iff.mpr h)

theorem lift_eq {α : Type} {value : Except PyError α} {found : α} (h : value = .ok found) :
    (lift value : Tx α) tables = .ok (found, tables) := by
  rw [h]
  rfl

theorem loadsJson_eq {text : String} {value : Json} (h : loads text = some value) :
    loadsJson text = .ok value := by
  unfold loadsJson
  rw [h]

/-- The artifact of a committed result is read as it was stored. -/
theorem Committed.getArtifact {succeeded : Bool} {artifact : ArtifactRow}
    (h : Committed platform (tables.view workflowId) row succeeded artifact)
    (hrow : tables.Holds tenant workflowId row) :
    ∃ stored : StoredArtifact platform,
      Workflows.getArtifact platform tenant workflowId row.resultArtifactId tables =
        .ok (some stored, tables) ∧
      stored.ref = artifact.ref ∧ loads artifact.contentJson = some stored.payload := by
  have hid : row.id = workflowId := Table.find_key hrow.1
  have hfetch : tables.artifacts.fetchone (fun found => decide (found.tenant = tenant) &&
      decide (found.workflowId = workflowId) && decide (some found.id = row.resultArtifactId)) =
        some artifact := by
    apply Table.fetchone_of_select h.only
    · rw [h.tenant, hrow.2, h.workflowId, hid, h.named]
      simp
    · intro other hother
      rw [Bool.and_eq_true, Bool.and_eq_true] at hother
      exact hother.1.2
  have hselect : (selectArtifact tenant workflowId row.resultArtifactId : Tx _) tables =
      .ok (some artifact, tables) := query_eq hfetch
  obtain ⟨fields, hloads⟩ := h.object
  have hnew : ∃ stored, StoredArtifact.new platform artifact.ref artifact.contentJson = .ok stored ∧
      stored.ref = artifact.ref ∧ stored.content = fields := by
    unfold StoredArtifact.new
    rw [dif_pos ⟨h.version, rfl, h.size.symm, h.digest.symm⟩]
    split
    · rename_i content hcontent
      rw [hloads] at hcontent
      refine ⟨_, rfl, rfl, ?_⟩
      injection hcontent with hcontent
      injection hcontent with hcontent
      exact hcontent.symm
    · rename_i hnone hother
      rw [hloads] at hother
      exact absurd (Option.some.inj hother).symm (hnone fields)
    · rename_i hnone
      rw [hloads] at hnone
      cases hnone
  obtain ⟨stored, hstored, href, rfl⟩ := hnew
  refine ⟨stored, ?_, href, hloads⟩
  unfold Workflows.getArtifact
  rw [bind_of_ok hselect]
  show (lift (StoredArtifact.new platform artifact.ref artifact.contentJson) >>= _) tables = _
  rw [hstored]
  rfl

/-- A report that is recorded can be read. -/
theorem Valid.report_loads (h : Valid platform workflowId (tables.view workflowId))
    (hrow : (tables.view workflowId).row = some row) {recorded : ValidationRow}
    (hrecorded : (tables.view workflowId).validation = some recorded) :
    recorded.tenant = row.tenant ∧ ∃ report, loads recorded.reportJson = some report := by
  obtain ⟨accepted, artifact, snapshot, findings, reportJson, -, hcommitted, hdecided⟩ :=
    h.decided hrow (by rw [hrecorded]; exact Option.some_ne_none _)
  have hsame := hdecided.report
  rw [hrecorded, Option.some.injEq] at hsame
  obtain ⟨report, ⟨found, hfound, hloads⟩, -⟩ := hdecided.reported hcommitted
  have hfound' : (tables.view workflowId).validation = some found := hfound
  rw [hrecorded, Option.some.injEq] at hfound'
  rw [← hfound', hsame] at hloads
  exact ⟨by rw [hsame], report, by rw [hsame]; exact hloads⟩

/-- What a record tells of the view of its workflow. -/
structure Records (tables : Tables) (workflowId : String) (row : WorkflowRow)
    (record : WorkflowRecord) : Prop where
  id : record.id = workflowId
  state : record.state = row.state
  result : record.result = (tables.view workflowId).result
  validation : record.validation = (tables.view workflowId).report

/-- The result column and the artifact it names. -/
theorem recordResult_stored (h : tables.Stored platform) (hrow : tables.Holds tenant workflowId row) :
    ∃ stored, loadsOptional row.result = .ok stored ∧
      recordResult platform tenant workflowId stored row.resultArtifactId tables =
        .ok ((tables.view workflowId).result, tables) := by
  rcases (h.valid workflowId).bare_or_committed hrow.1 with hbare | ⟨succeeded, artifact, hcommitted⟩
  · obtain ⟨hnone, -, hresult, hnamed⟩ := hbare
    refine ⟨none, ?_, ?_⟩
    · rw [hresult]
      rfl
    · unfold View.result
      rw [hnamed, hnone]
      rfl
  · obtain ⟨stored, hartifact, -, hloads⟩ := hcommitted.getArtifact hrow
    refine ⟨some stored.payload, ?_, ?_⟩
    · rw [hcommitted.result]
      show (loadsJson artifact.contentJson).map some = _
      rw [loadsJson_eq hloads]
      rfl
    · unfold View.result
      rw [hcommitted.only]
      rw [hcommitted.named] at hartifact ⊢
      show (Workflows.getArtifact platform tenant workflowId (some artifact.id) >>= _) tables = _
      rw [bind_of_ok hartifact]
      show Except.ok (some stored.payload, tables) =
        Except.ok (loads artifact.contentJson, tables)
      rw [hloads]

/-- The report of a workflow, as `get` reads it. -/
theorem validations_fetchone (h : tables.Stored platform) (hrow : tables.Holds tenant workflowId row) :
    tables.validations.fetchone (fun found : ValidationRow => decide (found.tenant = tenant) &&
        decide (found.workflowId = workflowId)) = (tables.view workflowId).validation ∧
      loadsOptional ((tables.view workflowId).validation.map ValidationRow.reportJson) =
        .ok (tables.view workflowId).report := by
  have hfixed : ∀ found : ValidationRow, (decide (found.tenant = tenant) &&
      decide (found.workflowId = workflowId)) = true → found.workflowId = workflowId := by
    intro found hfound
    rw [Bool.and_eq_true, decide_eq_true_eq, decide_eq_true_eq] at hfound
    exact hfound.2
  rw [Table.fetchone_of_key hfixed]
  show (tables.view workflowId).validation.filter _ = (tables.view workflowId).validation ∧ _
  unfold View.report
  cases hrecorded : (tables.view workflowId).validation with
  | none => exact ⟨rfl, rfl⟩
  | some recorded =>
      obtain ⟨htenant, report, hloads⟩ := (h.valid workflowId).report_loads hrow.1 hrecorded
      have hkey : recorded.workflowId = workflowId := Table.find_key hrecorded
      constructor
      · rw [Option.filter_some, htenant, hrow.2, hkey, decide_eq_true rfl, decide_eq_true rfl]
        rfl
      · show (loadsJson recorded.reportJson).map some = .ok (loads recorded.reportJson)
        rw [loadsJson_eq hloads, hloads]
        rfl

/-- `get` returns the record of the row a tenant sees. -/
theorem get_stored (h : tables.Stored platform) (hrow : tables.Holds tenant workflowId row) :
    ∃ record, get platform tenant workflowId tables = .ok (some record, tables) ∧
      Records tables workflowId row record := by
  obtain ⟨packet, hpacket⟩ := h.readable row (Table.mem_of_find hrow.1)
  obtain ⟨stored, hstored, hresult⟩ := recordResult_stored h hrow
  obtain ⟨hfetch, hreport⟩ := validations_fetchone h hrow
  have hid : row.id = workflowId := Table.find_key hrow.1
  refine ⟨⟨row.id, row.tenant, row.idempotencyKey, row.requestHash, packet, row.state, row.fence,
    row.owner, row.leaseUntil, (tables.view workflowId).result, row.resultArtifactId,
    (tables.view workflowId).report⟩, ?_, hid, rfl, rfl, rfl⟩
  unfold SQLiteWorkflowStore.get
  rw [bind_of_ok (selectWorkflow_holds hrow)]
  show (lift (loadsJson row.packet) >>= _) tables = _
  rw [bind_of_ok (lift_eq hpacket), bind_of_ok (lift_eq hstored), bind_of_ok hresult,
    bind_of_ok (query_eq hfetch), bind_of_ok (lift_eq hreport)]
  rfl

/-! ### Ended workflows -/

/-- What is read of a workflow that has ended stays the same. -/
structure Ended (tables later : Tables) (workflowId : String) (row row' : WorkflowRow) : Prop where
  state : row'.state = row.state
  result : (later.view workflowId).result = (tables.view workflowId).result
  report : (later.view workflowId).report = (tables.view workflowId).report

theorem Tables.Holds.ended (h : AllValid platform tables) (hlater : AllValid platform later)
    (hrow : tables.Holds tenant workflowId row) (hfinal : Final row.state)
    (hadvances : AllAdvance tables later) :
    ∃ row', later.Holds tenant workflowId row' ∧ Ended tables later workflowId row row' := by
  have hadvance := hadvances workflowId
  obtain ⟨row', hrow', hkept⟩ := hadvance.row row hrow.1
  obtain ⟨hstate, -, hnamed, hvalidation, -⟩ := hkept.final hfinal
  refine ⟨row', ⟨hrow', hkept.tenant.trans hrow.2⟩, hstate, ?_, ?_⟩
  · -- an artifact is neither lost nor added
    unfold View.result
    rcases (h workflowId).bare_or_committed hrow.1 with hbare | ⟨succeeded, artifact, honly⟩
    · rcases (hlater workflowId).bare_or_committed hrow' with hbare' | ⟨_, artifact', honly'⟩
      · rw [hbare.1, hbare'.1]
      · rw [honly'.named, hbare.2.2.2] at hnamed
        cases hnamed
    · have hprefix := hadvance.artifacts
      have hlength := (hlater workflowId).artifacts_length
      rw [honly.only] at hprefix ⊢
      have hsame : [artifact] = (later.view workflowId).artifacts :=
        hprefix.eq_of_length_le (by simpa using hlength)
      rw [← hsame]
  · unfold View.report
    rw [hvalidation]

/-! ### Decisions -/

theorem subscript_eq {value field : Json} {key : String} (h : value.get? key = some field) :
    subscript value key = .ok field := by
  cases value with
  | obj fields =>
      have hlookup : lookup key fields = some field := h
      simp only [subscript, hlookup]
  | null | bool _ | int _ | float _ | str _ | arr _ => cases h

theorem Tables.Shows.holds {binding : Json} (h : tables.Shows tenant workflowId binding) :
    ∃ row, tables.Holds tenant workflowId row := by
  obtain ⟨row, bound, hrow, htenant, -, -⟩ := h
  exact ⟨row, hrow, htenant⟩

theorem Tables.Shows.read {binding : Json} (h : tables.Stored platform)
    (hshows : tables.Shows tenant workflowId binding) :
    getBinding tenant workflowId tables = .ok (some binding, tables) := by
  rcases getBinding_stored h tenant workflowId with ⟨found, hfound, hread⟩ | ⟨hnone, -⟩
  · rw [hread, (hshows.unique hfound).2]
  · exact absurd hshows (hnone binding)

/-- An accepted workflow is validated again with the same report, and nothing changes. -/
theorem validate_succeeded (h : tables.Stored platform) (hrow : tables.Holds tenant workflowId row)
    (hstate : row.state = .succeeded) {binding : Json}
    (hshows : tables.Shows tenant workflowId binding) :
    ∃ report, validate platform tenant workflowId none tables = .ok (report, tables) ∧
      (tables.view workflowId).report = some report ∧
      report.get? "decision" = some (.str "accepted") := by
  obtain ⟨-, -, artifact, snapshot, findings, reportJson, hcommitted, hdecided⟩ :=
    (h.valid workflowId).stage_of hrow.1 hstate
  -- the stage speaks of the row with its own state
  have hself : { row with state := .succeeded } = row := by rw [← hstate]
  rw [hself] at hcommitted hdecided
  obtain ⟨stored, hartifact, href, -⟩ := hcommitted.getArtifact hrow
  obtain ⟨fields, hfields, hnodup, hdecision, hnames, hpolicy⟩ :=
    reportDict_keys_nodup artifact.ref snapshot findings
  have hprinted := hdecided.printed
  rw [hfields] at hprinted
  have hloads : loads reportJson = some (canon (.obj fields)) := loads_dumps hprinted
  have hsnapshot : subscript binding "policy" = .ok snapshot := by
    obtain ⟨_, bound, -, -, hbound, hbinding⟩ := hshows
    obtain ⟨value, hvalue, hsubscript⟩ := hdecided.bound bound hbound
    rw [loadsJson_eq hbinding] at hvalue
    rw [Except.ok.inj hvalue]
    exact hsubscript
  have hmatches : reportMatches (canon (.obj fields)) snapshot stored.ref = .ok true := by
    have hread : subscript (canon (.obj fields)) "policy" = .ok snapshot := by
      apply subscript_eq
      rw [get?_canon hnodup, hpolicy]
      exact congrArg some hdecided.canonical
    have hread' : subscript (canon (.obj fields)) "artifact" =
        .ok (artifactDict artifact.ref.artifactId artifact.ref.sha256) := by
      apply subscript_eq
      rw [get?_canon hnodup, hnames]
      exact congrArg some (artifactDict_canonical _ _)
    unfold reportMatches
    rw [hread, except_ok_bind, if_pos (pyEq_refl snapshot), hread', except_ok_bind, href, pyEq_refl]
    rfl
  have hrecorded : (tables.view workflowId).validation = some ⟨row.id, row.tenant, reportJson⟩ :=
    hdecided.report
  obtain ⟨hfetch, -⟩ := validations_fetchone h hrow
  rw [hrecorded] at hfetch
  refine ⟨canon (.obj fields), ?_, ?_, ?_⟩
  · unfold validate
    rw [bind_of_ok (hshows.read h)]
    show (lift (subscript binding "policy") >>= _) tables = _
    rw [bind_of_ok (lift_eq hsnapshot), bind_of_ok (selectWorkflow_holds hrow)]
    show (query (fun tables : Tables => tables.validations.fetchone fun found : ValidationRow =>
      decide (found.tenant = tenant) && decide (found.workflowId = workflowId)) >>= _) tables = _
    rw [bind_of_ok (query_eq hfetch), bind_of_ok hartifact]
    show (lift (loadsJson reportJson) >>= _) tables = _
    rw [bind_of_ok (lift_eq (loadsJson_eq hloads)), bind_of_ok (lift_eq hmatches)]
    rfl
  · unfold View.report
    rw [hrecorded]
    exact hloads
  · rw [get?_canon hnodup, hdecision, hdecided.decision]
    rfl

/-- A workflow that is not decided has no report. -/
theorem report_of_succeeded (h : tables.Stored platform) (hrow : tables.Holds tenant workflowId row)
    (hstate : row.state = .succeeded) : ∃ report, (tables.view workflowId).report = some report ∧
      report.get? "decision" = some (.str "accepted") := by
  have hmap : (tables.workflows.find workflowId).map WorkflowRow.state =
      some (if true then .succeeded else .rejected) := by
    rw [hrow.1]
    exact congrArg some hstate
  obtain ⟨report, ⟨recorded, hrecorded, hloads⟩, hdecision⟩ := reported_of_decided h.valid hmap
  refine ⟨report, ?_, hdecision⟩
  have hview : (tables.view workflowId).validation = some recorded := hrecorded
  unfold View.report
  rw [hview]
  exact hloads

/-- The states `cancel` leaves alone. -/
def WorkflowState.isCancellable (state : WorkflowState) : Bool :=
  decide (state = .cancelled) || decide (state = .ready) || decide (state = .running) ||
    decide (state = .awaitingValidation)

/-- `cancel` answers by the state of the workflow, and ends what it may end. -/
theorem cancel_answers (hrow : tables.Holds tenant workflowId row) :
    ∃ final, cancel tenant workflowId tables = .ok (row.state.isCancellable, final) ∧
      (row.state.isCancellable = false → final = tables) := by
  have hselect : (selectWorkflow tenant workflowId : Tx _) tables = .ok (some row, tables) :=
    selectWorkflow_holds hrow
  unfold cancel
  rw [bind_of_ok hselect]
  dsimp only
  cases hstate : row.state with
  | cancelled => exact ⟨tables, rfl, fun _ => rfl⟩
  | ready | running | awaitingValidation => exact ⟨_, rfl, fun h => by cases h⟩
  | uncertain | failed | succeeded | rejected => exact ⟨tables, rfl, fun _ => rfl⟩

theorem cancel_ends (h : cancel tenant workflowId tables = .ok (true, final))
    (hrow : tables.Holds tenant workflowId row) :
    ∃ row', final.Holds tenant workflowId row' ∧ row'.state = .cancelled := by
  rcases cancel_ok h with hsame | ⟨found, hfound, htenant, -, hmoves⟩
  · -- nothing was written, so it was cancelled before
    obtain ⟨final', hanswer, -⟩ := cancel_answers hrow
    rw [h] at hanswer
    have hcancellable := (Prod.mk.inj (Except.ok.inj hanswer)).1
    refine ⟨row, by rw [hsame]; exact hrow, ?_⟩
    by_contra hother
    have hmoved := h
    unfold cancel at hmoved
    rw [bind_of_ok (selectWorkflow_holds hrow)] at hmoved
    dsimp only at hmoved
    cases hstate : row.state with
    | cancelled => exact hother hstate
    | ready | running | awaitingValidation =>
        rw [hstate] at hmoved
        have hfinal := (Prod.mk.inj (Except.ok.inj hmoved)).2
        have hevents := congrArg (fun tables => tables.events.length) hfinal
        rw [hsame] at hevents
        simp [Tables.log, Tables.setWorkflow] at hevents
    | uncertain | failed | succeeded | rejected =>
        rw [hstate] at hcancellable
        cases hcancellable
  · refine ⟨found.cancelled, ⟨?_, htenant⟩, rfl⟩
    show (final.view workflowId).row = some found.cancelled
    rw [hmoves.self]
    rfl

/-! ### Creations -/

/-- What the tenant and the key of a creation stand for. -/
def Tables.Registered (tables : Tables) (tenant key id digest : String) : Prop :=
  ⟨(tenant, key), id, digest⟩ ∈ tables.requests

/-- Nothing is created under the key. -/
def Tables.Fresh (tables : Tables) (tenant key : String) : Prop :=
  (tenant, key) ∉ tables.requests.map Registration.key

theorem Tables.Registered.evolves {key id digest : String}
    (h : tables.Registered tenant key id digest) (hevolves : Evolves platform tables later) :
    later.Registered tenant key id digest := by
  obtain ⟨calls, rfl⟩ := hevolves
  exact (store_registers platform).kept calls h

theorem attempt_eq {change : Tables → Option Tables} {error : PyError}
    (h : change tables = some final) :
    (attempt change error : Tx Unit) tables = .ok ((), final) := attempt_ok.mpr h

theorem fetchone_fresh {key : String} (h : tables.Fresh tenant key) :
    tables.workflows.fetchone (fun row =>
      decide (row.tenant = tenant) && decide (row.idempotencyKey = key)) = none := by
  apply List.find?_eq_none.mpr
  intro row hrow hmatch
  apply h
  rw [← (requested_iff row).mp hmatch]
  exact List.mem_map_of_mem (List.mem_map_of_mem hrow)

/-- A creation under a fresh key, with a binding, stores a workflow that is shown. -/
theorem register_fresh {key hashed uuid4 encoded text : String} {binding : Json}
    (h : tables.Stored platform) (hfresh : tables.Fresh tenant key)
    (habsent : tables.workflows.find uuid4 = none) (hloads : loads text = some binding) :
    ∃ final, register platform tenant key (encoded, some text) hashed uuid4 tables =
      .ok (uuid4, final) ∧ final.Shows tenant uuid4 binding := by
  have hquery : tables.workflows.fetchone (fun row =>
      decide (row.tenant = tenant) && decide (row.idempotencyKey = key)) = none :=
    fetchone_fresh hfresh
  let row : WorkflowRow := ⟨uuid4, tenant, key, platform.sha256 hashed, encoded, .ready, 0,
    none, none, none, none⟩
  obtain ⟨workflows, hworkflows⟩ := Table.insert_of_fresh (show tables.workflows.find row.id = none
    from habsent)
  have hunbound : tables.bindings.find uuid4 = none := by
    have hview : (tables.view uuid4).row = none := habsent
    have hempty := congrArg View.binding ((h.valid uuid4).absent hview)
    exact hempty
  let bound : BindingRow := ⟨uuid4, tenant, text⟩
  obtain ⟨bindings, hbindings⟩ := Table.insert_of_fresh (show tables.bindings.find bound.workflowId =
    none from hunbound)
  refine ⟨Tables.log tenant uuid4 (.state .ready) 0 { tables with workflows, bindings }, ?_, row,
    bound, ?_, rfl, ?_, hloads⟩
  · unfold register
    rw [bind_of_ok (query_eq hquery)]
    have hadded : Tables.addWorkflow row tables = some { tables with workflows } := by
      unfold Tables.addWorkflow
      rw [hworkflows]
      rfl
    have hbound : Tables.addBinding bound { tables with workflows } =
        some { tables with workflows, bindings } := by
      show (tables.bindings.insert bound).map _ = _
      rw [hbindings]
      rfl
    show (attempt (Tables.addWorkflow row) PyError.integrityError >>= _) tables = _
    rw [bind_of_ok (attempt_eq hadded)]
    show (attempt (Tables.addBinding bound) PyError.integrityError >>= _)
      { tables with workflows } = _
    rw [bind_of_ok (attempt_eq hbound)]
    rfl
  · show workflows.find uuid4 = some row
    rw [Table.find_insert hworkflows]
    exact if_pos rfl
  · show bindings.find uuid4 = some bound
    rw [Table.find_insert hbindings]
    exact if_pos rfl

/-- A creation under a fresh key fails when the identifier is taken. -/
theorem register_taken {key hashed uuid4 : String} {request : String × Option String}
    (hfresh : tables.Fresh tenant key) (htaken : tables.workflows.find uuid4 = some row) :
    register platform tenant key request hashed uuid4 tables = .error .integrityError := by
  have hquery : tables.workflows.fetchone (fun row =>
      decide (row.tenant = tenant) && decide (row.idempotencyKey = key)) = none :=
    fetchone_fresh hfresh
  unfold register
  rw [bind_of_ok (query_eq hquery)]
  have hfull : Tables.addWorkflow ⟨uuid4, tenant, key, platform.sha256 hashed, request.1, .ready, 0,
      none, none, none, none⟩ tables = none := by
    cases hadd : Tables.addWorkflow ⟨uuid4, tenant, key, platform.sha256 hashed, request.1, .ready,
        0, none, none, none, none⟩ tables with
    | none => rfl
    | some added =>
        obtain ⟨workflows, hinsert, -⟩ := Option.map_eq_some_iff.mp hadd
        have habsent : tables.workflows.find uuid4 = none := Table.insert_fresh hinsert
        rw [htaken] at habsent
        cases habsent
  have hfailed : (attempt (Tables.addWorkflow ⟨uuid4, tenant, key, platform.sha256 hashed,
      request.1, .ready, 0, none, none, none, none⟩) PyError.integrityError : Tx Unit) tables =
        .error .integrityError := by
    unfold attempt
    rw [hfull]
  show (Except.bind ((attempt (Tables.addWorkflow _) PyError.integrityError : Tx Unit) tables) _) = _
  rw [hfailed]
  rfl

end Workflows
end Ryuk
