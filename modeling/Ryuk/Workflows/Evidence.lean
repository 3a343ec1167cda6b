import Ryuk.Workflows.Acceptance
import Ryuk.Workflows.CrashConsistency
import Ryuk.Workflows.Shown

/-!
# Evidence

What a reachable store holds can be checked again.  The digest of a workflow is that of
the packet and the binding stored with it, and a recorded report is what the validator says
about the stored result under the bound policy, so an accepted result keeps every rule of
the policy.
-/

namespace Ryuk
namespace Workflows

open Foundation Foundation.Json Foundation.Registry Foundation.Transaction Audit

variable {platform : Platform} {tables later final : Tables} {tenant workflowId : String}
  {row : WorkflowRow} {binding : Json}

/-! ### Digests -/

/-- The request a workflow was created from, as it is stored. -/
def Tables.request (tables : Tables) (row : WorkflowRow) : String × Option String :=
  (row.packet, (tables.bindings.find row.id).map BindingRow.bindingJson)

/-- The digest of every workflow is that of the packet and the binding it was created from,
which are stored with it. -/
def Tables.Digested (platform : Platform) (tables : Tables) : Prop :=
  ∀ row ∈ tables.workflows.rows, ∃ packet binding text,
    taskRequest packet binding = .ok (tables.request row) ∧
    taskText (tables.request row) = .ok text ∧ row.requestHash = platform.sha256 text

theorem Tables.Digested.of_requests (h : tables.Digested platform)
    (hrefines : Refines platform tables final) (hrequests : final.requests = tables.requests) :
    final.Digested platform := by
  intro row hrow
  obtain ⟨earlier, hearlier, hid, hkept⟩ := earlier_row hrefines hrequests hrow
  obtain ⟨packet, binding, text, hrequest, htext, hdigest⟩ := h earlier hearlier
  have hbinding : final.bindings.find row.id = tables.bindings.find row.id := hkept.binding
  have hsame : final.request row = tables.request earlier := by
    unfold Tables.request
    rw [hbinding, hkept.packet, hid]
  exact ⟨packet, binding, text, hsame ▸ hrequest, hsame ▸ htext, hkept.digest.trans hdigest⟩

/-- A new workflow has the digest of its request; the others keep theirs. -/
theorem Tables.Digested.create {key uuid4 id : String} {packet : TaskPacket}
    {binding : Option (List (String × Json))} (h : tables.Digested platform)
    (hvalid : AllValid platform tables)
    (hcreate : create platform tenant key packet binding uuid4 tables = .ok (id, final)) :
    final.Digested platform := by
  obtain ⟨-, -, request, hashed, hrequest, hhashed, hregister⟩ := create_request hcreate
  rcases register_adds hregister with rfl | ⟨added, hadds⟩
  · exact h
  · have hfresh : tables.workflows.find added.id = none := Table.insert_fresh hadds.inserted
    have hunbound : tables.bindings.find added.id = none :=
      congrArg View.binding ((hvalid added.id).absent hfresh)
    intro row hrow
    rw [Table.mem_insert hadds.inserted] at hrow
    rcases hrow with hold | rfl
    · -- the binding that was added is not that of an earlier workflow
      have hother : added.id ≠ row.id := by
        intro hsame
        rw [hsame, Table.find_of_mem hold] at hfresh
        cases hfresh
      have hbinding : final.bindings.find row.id = tables.bindings.find row.id := by
        cases hpart : request.2 with
        | none => rw [hadds.unbound hpart]
        | some text =>
            rw [Table.find_insert (hadds.bound text hpart)]
            exact if_neg hother
      have hsame : final.request row = tables.request row := by
        unfold Tables.request
        rw [hbinding]
      rw [hsame]
      exact h row hold
    · have hbinding : (final.bindings.find row.id).map BindingRow.bindingJson = request.2 := by
        cases hpart : request.2 with
        | none =>
            rw [hadds.unbound hpart, hunbound]
            rfl
        | some text =>
            rw [Table.find_insert (hadds.bound text hpart), if_pos rfl]
            rfl
      have hsame : final.request row = request := by
        unfold Tables.request
        rw [hbinding, hadds.packet]
      rw [hsame]
      exact ⟨packet, _, hashed, hrequest, hhashed, hadds.digest⟩

theorem next_digested (tables : Tables) (call : Call) (hvalid : AllValid platform tables)
    (h : tables.Digested platform) : ((store platform).next tables call).Digested platform :=
  next_cases call h (fun _ hrefines => h.of_requests hrefines)
    fun _ _ _ _ _ _ _ hcreate => h.create hvalid hcreate

/-- A workflow was created from another request than that of a text, and both have one
digest. -/
def Tables.Clashes (platform : Platform) (tables : Tables) (workflowId hashed : String) : Prop :=
  ∃ row text, tables.workflows.find workflowId = some row ∧
    taskText (tables.request row) = .ok text ∧ text ≠ hashed ∧
    platform.sha256 text = platform.sha256 hashed

/-- A workflow found under the digest of a request holds the binding of the request, or the
requests clash. -/
theorem Tables.Digested.replayed {key id hashed encoded part : String} {packet : TaskPacket}
    {bound : Option (List (String × Json))} {shown : Json} (h : tables.Digested platform)
    (hregistered : tables.Registered tenant key id (platform.sha256 hashed))
    (hrequest : taskRequest packet bound = .ok (encoded, some part))
    (hhashed : taskText (encoded, some part) = .ok hashed) (hloads : loads part = some shown) :
    tables.Shows tenant id shown ∨ tables.Clashes platform id hashed := by
  obtain ⟨row, hrow, hentry⟩ := List.mem_map.mp hregistered
  obtain ⟨packet', binding', text, hrequest', htext, hdigest⟩ := h row hrow
  have hid : row.id = id := congrArg Registration.identity hentry
  have htenant : row.tenant = tenant := congrArg (fun entry => entry.key.1) hentry
  have hsha : row.requestHash = platform.sha256 hashed := congrArg Registration.digest hentry
  by_cases hsame : text = hashed
  · refine Or.inl ?_
    rw [hsame] at htext
    have hparts := congrArg Prod.snd (taskText_injective hrequest' hrequest htext hhashed)
    obtain ⟨binding, hbinding, hjson⟩ := Option.map_eq_some_iff.mp hparts
    refine ⟨row, binding, ?_, htenant, ?_, ?_⟩
    · rw [← hid]
      exact Table.find_of_mem hrow
    · rw [← hid]
      exact hbinding
    · rw [hjson]
      exact hloads
  · exact Or.inr ⟨row, text, hid ▸ Table.find_of_mem hrow, htext, hsame, hdigest.symm.trans hsha⟩

/-! ### Reports -/

/-- Every recorded report is what the validator says about the stored result under the
policy that is shown. -/
def Tables.Audited (platform : Platform) (tables : Tables) : Prop :=
  ∀ workflowId recorded, (tables.view workflowId).validation = some recorded →
    ∃ (stored : StoredArtifact platform) (snapshot report : Json),
      validateArtifact stored snapshot = .ok report ∧
      dumps report = some recorded.reportJson ∧
      (tables.view workflowId).result = some stored.payload ∧
      ∀ tenant binding, tables.Shows tenant workflowId binding →
        subscript binding "policy" = .ok snapshot

/-- What is shown after a step was shown before, of a workflow that was there. -/
theorem Tables.Shows.earlier (hrefines : Refines platform tables final)
    (hadvances : AllAdvance tables final) (hrow : tables.workflows.find workflowId = some row)
    (hshows : final.Shows tenant workflowId binding) : tables.Shows tenant workflowId binding := by
  obtain ⟨row', bound, hrow', htenant, hbound, hloads⟩ := hshows
  obtain ⟨found, hfound, hkept⟩ := @chain_sameRequest platform workflowId row
    (tables.view workflowId) (final.view workflowId) (hrefines workflowId) hrow
  obtain ⟨advanced, hadvanced, hsame⟩ := (hadvances workflowId).row row hrow
  have hrowSame : (final.view workflowId).row = some row' := hrow'
  rw [hadvanced, Option.some.injEq] at hrowSame
  subst hrowSame
  refine ⟨row, bound, hrow, hsame.tenant.symm.trans htenant, ?_, hloads⟩
  have hbinding : final.bindings.find workflowId = tables.bindings.find workflowId := hkept.binding
  rw [← hbinding]
  exact hbound

/-- A decision that is recorded is that of the validator. -/
theorem validate_audited {policy : Option ValidationPolicy} {report : Json}
    (h : tables.Stored platform)
    (hvalidate : validate platform tenant workflowId policy tables = .ok (report, final)) :
    final = tables ∨ ∃ (stored : StoredArtifact platform) (snapshot : Json),
      validateArtifact stored snapshot = .ok report ∧
      (tables.view workflowId).result = some stored.payload ∧
      ∀ binding, tables.Shows tenant workflowId binding →
        subscript binding "policy" = .ok snapshot := by
  rcases validate_ok hvalidate with ⟨hsame, -⟩ | ⟨row, -, -, -, -, hrow, htenant, hstate, -⟩
  · exact Or.inl hsame
  · -- the workflow awaits its decision, so its one artifact is there and no report is
    have hholds : tables.Holds tenant workflowId row := ⟨hrow, htenant⟩
    obtain ⟨-, -, hnone, artifact, hcommitted⟩ := (h.valid workflowId).stage_of hrow hstate
    have hself : { row with state := .awaitingValidation } = row := by rw [← hstate]
    rw [hself] at hcommitted
    obtain ⟨stored, hartifact, -, hloads⟩ := hcommitted.getArtifact hholds
    obtain ⟨hfetch, -⟩ := validations_fetchone h hholds
    rw [hnone] at hfetch
    have hresult : (tables.view workflowId).result = some stored.payload := by
      unfold View.result
      rw [hcommitted.only]
      exact hloads
    obtain ⟨shown, hread, hshown⟩ : ∃ shown,
        getBinding tenant workflowId tables = .ok (shown, tables) ∧
          ∀ binding, tables.Shows tenant workflowId binding → shown = some binding := by
      rcases getBinding_stored h tenant workflowId with ⟨binding, hshows, hread⟩ | ⟨habsent, hread⟩
      · exact ⟨_, hread, fun other hother => congrArg some (hother.unique hshows).2⟩
      · exact ⟨_, hread, fun other hother => absurd hother (habsent other)⟩
    unfold validate at hvalidate
    rw [bind_of_ok hread, lift_bind_ok] at hvalidate
    obtain ⟨snapshot, hsnapshot, hvalidate⟩ := hvalidate
    rw [bind_of_ok (selectWorkflow_holds hholds)] at hvalidate
    dsimp only at hvalidate
    rw [bind_of_ok (query_eq hfetch), bind_of_ok hartifact] at hvalidate
    unfold updateWorkflow event at hvalidate
    simp only [require_bind_ok, lift_bind_ok, attempt_bind_ok, write_bind_ok, pure_ok] at hvalidate
    obtain ⟨-, found, hreport, -, -, -, -, -, -, rfl, -⟩ := hvalidate
    refine Or.inr ⟨stored, snapshot, hreport, hresult, fun binding hshows => ?_⟩
    rcases validationSnapshot_ok hsnapshot with ⟨habsent, -⟩ | ⟨inner, hinner, hpolicy⟩
    · rw [hshown binding hshows] at habsent
      cases habsent
    · rw [hshown binding hshows, Option.some.injEq] at hinner
      rw [hinner]
      exact hpolicy

/-- A report stays what the validator says. -/
theorem Tables.Audited.of_validation (h : tables.Audited platform) (hvalid : AllValid platform tables)
    (hlater : AllValid platform final) (hrefines : Refines platform tables final)
    (hadvances : AllAdvance tables final) {recorded : ValidationRow}
    (hrecorded : (tables.view workflowId).validation = some recorded) :
    ∃ (stored : StoredArtifact platform) (snapshot report : Json),
      validateArtifact stored snapshot = .ok report ∧ dumps report = some recorded.reportJson ∧
      (final.view workflowId).result = some stored.payload ∧
      ∀ tenant binding, final.Shows tenant workflowId binding →
        subscript binding "policy" = .ok snapshot := by
  obtain ⟨stored, snapshot, report, hreport, hdumps, hresult, hpolicy⟩ := h workflowId recorded
    hrecorded
  cases hrow : (tables.view workflowId).row with
  | none =>
      rw [(hvalid workflowId).absent hrow] at hrecorded
      cases hrecorded
  | some row =>
      obtain ⟨accepted, -, -, -, -, hstate, -, -⟩ := (hvalid workflowId).decided hrow
        (by rw [hrecorded]; exact Option.some_ne_none recorded)
      have hfinal : Final row.state := by
        rw [hstate]
        cases accepted with
        | true => decide
        | false => decide
      obtain ⟨_, -, hended⟩ := Tables.Holds.ended hvalid hlater ⟨hrow, rfl⟩ hfinal hadvances
      exact ⟨stored, snapshot, report, hreport, hdumps, hended.result.trans hresult,
        fun tenant binding hshows =>
          hpolicy tenant binding (hshows.earlier hrefines hadvances hrow)⟩

/-- After a validation the recorded report is what the validator says. -/
theorem Tables.Audited.validated {policy : Option ValidationPolicy} {report : Json}
    {recorded : ValidationRow} (h : tables.Audited platform) (hstored : tables.Stored platform)
    (hrefines : Refines platform tables final) (hadvances : AllAdvance tables final)
    (hvalidate : validate platform tenant workflowId policy tables = .ok (report, final))
    (hrecorded : (final.view workflowId).validation = some recorded) :
    ∃ (stored : StoredArtifact platform) (snapshot report : Json),
      validateArtifact stored snapshot = .ok report ∧ dumps report = some recorded.reportJson ∧
      (final.view workflowId).result = some stored.payload ∧
      ∀ tenant binding, final.Shows tenant workflowId binding →
        subscript binding "policy" = .ok snapshot := by
  rcases validate_ok hvalidate with ⟨rfl, -⟩ | ⟨row, _, _, _, reportJson, hrow, htenant, -, -, -, -, -,
    -, hdumps, hmoves⟩
  · exact h workflowId recorded hrecorded
  · rcases validate_audited hstored hvalidate with rfl | ⟨stored, snapshot, hreport, hresult, hpolicy⟩
    · exact h workflowId recorded hrecorded
    · refine ⟨stored, snapshot, report, hreport, ?_, ?_, ?_⟩
      · rw [hmoves.self] at hrecorded
        rw [← Option.some.inj hrecorded]
        exact hdumps
      · unfold View.result
        rw [hmoves.self]
        exact hresult
      · intro other binding hshows
        have hearlier := hshows.earlier hrefines hadvances hrow
        apply hpolicy
        obtain ⟨found, _, hfound, rfl, -⟩ := hearlier
        have hsame : row = found := Option.some.inj (hrow.symm.trans hfound)
        rw [← htenant, hsame]
        exact hshows.earlier hrefines hadvances hrow

/-- Every call keeps the reports what the validator says. -/
theorem next_audited (tables : Tables) (call : Call) (hstored : tables.Stored platform)
    (h : tables.Audited platform) : ((store platform).next tables call).Audited platform := by
  have hrefines := @next_refines platform tables call
  have hadvances := next_advances tables call hstored.valid
  have hlater := next_valid tables call hstored.valid
  intro workflowId recorded hrecorded
  rcases commit_cases (call.body platform) tables with ⟨answer, -, hok⟩ | ⟨-, hsame⟩
  · cases hvalidates : call.validates workflowId with
    | false =>
        apply h.of_validation hstored.valid hlater hrefines hadvances
        rw [← (call_frame hok workflowId).2 hvalidates]
        exact hrecorded
    | true =>
        cases call with
        | validate tenant target policy =>
            obtain rfl : target = workflowId := of_decide_eq_true hvalidates
            obtain ⟨report, hvalidate, -⟩ := map_ok.mp hok
            exact h.validated hstored hrefines hadvances hvalidate hrecorded
        | create | claim | beginDispatch | recordOutcome | complete | reconcileUncertain | cancel
        | recoverExpired | recoverStartup => cases hvalidates
  · have hnext : (store platform).next tables call = tables := hsame
    rw [hnext] at hrecorded ⊢
    exact h workflowId recorded hrecorded

/-! ### Reachable stores -/

/-- What a store can show for itself. -/
structure Tables.Proven (platform : Platform) (tables : Tables) : Prop where
  stored : tables.Stored platform
  digested : tables.Digested platform
  audited : tables.Audited platform

theorem Tables.Proven.evolves (h : tables.Proven platform) (hlater : Evolves platform tables later) :
    later.Proven platform :=
  hlater.invariant (fun tables call hproven => ⟨hproven.stored.next call,
    next_digested tables call hproven.stored.valid hproven.digested,
    next_audited tables call hproven.stored hproven.audited⟩) h

theorem reachable_proven (h : Evolves platform Tables.empty tables) : tables.Proven platform := by
  apply Tables.Proven.evolves ⟨empty_stored, ?_, ?_⟩ h
  · intro row hrow
    exact (List.not_mem_nil hrow).elim
  · intro workflowId recorded hrecorded
    cases hrecorded

/-! ### Accepted results -/

/-- Some interpreter has room for the one document of a payload. -/
theorem exists_roomy (payload : Json) : ∃ interpreter, Roomy interpreter payload := by
  cases htext : outputText payload with
  | none =>
      refine ⟨⟨0, fun _ _ => .recursionError⟩, fun text document hfound => ?_⟩
      rw [htext] at hfound
      cases hfound
  | some text =>
      refine ⟨⟨((tree text).map nesting).getD 0, fun _ _ => .recursionError⟩,
        fun found document hfound htree => ?_⟩
      rw [htext, Option.some.injEq] at hfound
      rw [hfound, htree]
      exact Nat.le_refl _

/-- **Accepted results.**  The result of an accepted workflow is acceptable under the policy
that its binding holds. -/
theorem Tables.Proven.acceptable (h : tables.Proven platform)
    (hrow : tables.Holds tenant workflowId row) (hstate : row.state = .succeeded)
    (hshows : tables.Shows tenant workflowId binding) {policy : ValidationPolicy} {snapshot : Json}
    (hpolicy : subscript binding "policy" = .ok snapshot)
    (hsnapshot : policySnapshot policy = .ok snapshot) :
    ∃ payload, (tables.view workflowId).result = some payload ∧
      ∀ interpreter, Roomy interpreter payload →
        ∃ text, Acceptable interpreter platform policy payload text := by
  obtain ⟨report, hreport, hdecision⟩ := report_of_succeeded h.stored hrow hstate
  unfold View.report at hreport
  obtain ⟨recorded, hrecorded, hloads⟩ := Option.bind_eq_some_iff.mp hreport
  obtain ⟨stored, found, validated, hvalidated, hdumps, hresult, hbound⟩ :=
    h.audited workflowId recorded hrecorded
  obtain rfl : found = snapshot :=
    Except.ok.inj ((hbound tenant binding hshows).symm.trans hpolicy)
  refine ⟨stored.payload, hresult, fun interpreter hroomy => ?_⟩
  obtain ⟨findings, hwithin, hexact⟩ := validateArtifactWithin_report interpreter stored hsnapshot
  rw [validateArtifactWithin_roomy hsnapshot hroomy, hvalidated] at hwithin
  obtain rfl := Except.ok.inj hwithin
  -- the decision that was recorded is that of the report
  have hread : loads recorded.reportJson =
      some (canon (reportDict stored.ref found findings)) := loads_dumps hdumps
  rw [hloads, Option.some.injEq] at hread
  apply hexact.mp
  rw [← reportDict_accepted stored.ref found findings]
  obtain ⟨fields, hfields, hnodup, hlookup, -, -⟩ :=
    reportDict_keys_nodup stored.ref found findings
  rw [hread, hfields, get?_canon hnodup, hlookup, Option.map_some, canon] at hdecision
  rw [hfields]
  exact hlookup.trans hdecision

end Workflows
end Ryuk
