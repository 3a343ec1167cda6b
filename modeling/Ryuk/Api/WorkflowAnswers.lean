import Ryuk.Api.WorkflowRuns

/-!
# Answers that last

The routes run while workers and other requests use the store.  Once a request was told
that a workflow has ended, every later request about it is answered alike; a creation that
is repeated finds the workflow it made; and a result that is served keeps the rules of the
policy its workflow was created under.
-/

namespace Ryuk
namespace Api
namespace WorkflowRoutes

open Foundation Foundation.Json Foundation.Script
open Workflows (CreateWorkflowRequest Evolves Final Tables WorkflowPolicy WorkflowRow WorkflowState
  subscript)

variable {platform : Platform} {tables later final : Tables} {tenant workflowId : String}

/-! ### Ended workflows -/

/-- What every request about an ended workflow is answered. -/
structure Settled (platform : Platform) (tenant workflowId : String) (summary : Summary)
    (served : Except ApiError Served) (tables : Tables) : Prop where
  status : ∀ outcome final, (status platform tenant workflowId).Runs (Evolves platform) tables
    outcome final → outcome = .ok summary
  cancel : ∀ outcome final, (cancel platform tenant workflowId).Runs (Evolves platform) tables
    outcome final → outcome = if summary.state = .cancelled then .ok summary
      else .error (.raised (.workflowConflict "Workflow cannot be cancelled"))
  result : ∀ outcome final, (result platform tenant workflowId).Runs (Evolves platform) tables
    outcome final → outcome = served
  others : ∀ other, other ≠ tenant →
    (∀ outcome final, (WorkflowRoutes.status platform other workflowId).Runs (Evolves platform) tables
      outcome final → outcome = .error (.control notFound)) ∧
    (∀ outcome final, (WorkflowRoutes.cancel platform other workflowId).Runs (Evolves platform) tables
      outcome final → outcome = .error (.control notFound)) ∧
    (∀ outcome final, (WorkflowRoutes.result platform other workflowId).Runs (Evolves platform) tables
      outcome final → outcome = .error (.control notFound))

/-- What a request is answered that asks for the result of an ended workflow. -/
def resultOf (tables : Tables) (workflowId : String) (row : WorkflowRow) (binding : Json) :
    Except ApiError Served :=
  if row.state = .succeeded then
    servedOf workflowId binding (tables.view workflowId).result
      ((tables.view workflowId).report.getD .null)
  else .error (.raised (.workflowConflict "Workflow has no accepted result"))

theorem summaryOf_state {state : WorkflowState} {binding : Json} {summary : Summary}
    (h : summaryOf workflowId state binding = .ok summary) : summary.state = state := by
  unfold summaryOf at h
  cases hversion : subscript binding "version" with
  | error error =>
      rw [hversion] at h
      cases h
  | ok version =>
      rw [hversion] at h
      rw [← Except.ok.inj h]

/-- A workflow that has ended and is shown is settled in every later store. -/
theorem settled_of_ended {row : WorkflowRow} {binding : Json} {summary : Summary}
    (h : tables.Stored platform) (hshows : tables.Shows tenant workflowId binding)
    (hrow : tables.Holds tenant workflowId row) (hfinal : Final row.state)
    (hsummary : summaryOf workflowId row.state binding = .ok summary)
    (hlater : Evolves platform tables later) :
    Settled platform tenant workflowId summary (resultOf tables workflowId row binding) later := by
  have hlaterStored := h.evolves hlater
  -- whatever is read later is what is there now
  have hread : ∀ {state other row' binding'}, Evolves platform later state →
      state.Shows other workflowId binding' → state.Holds other workflowId row' →
      other = tenant ∧ binding' = binding ∧ row'.state = row.state ∧
        (state.view workflowId).result = (tables.view workflowId).result ∧
        (state.view workflowId).report = (tables.view workflowId).report := by
    intro state other row' binding' hstate hshows' hrow'
    have hevolves : Evolves platform tables state := hlater.trans hstate
    obtain ⟨kept, hkept, hended⟩ := hrow.ended h.valid (h.evolves hevolves).valid hfinal
      (hevolves.advances h)
    have hsame : kept = row' := Option.some.inj (hkept.1.symm.trans hrow'.1)
    subst hsame
    obtain ⟨hother, hbinding⟩ := (hshows.evolves (hevolves.advances h)).unique hshows'
    exact ⟨hother, hbinding, hended.state, hended.result, hended.report⟩
  have hthere := hshows.evolves (hlater.advances h)
  have hstate : summary.state = row.state := summaryOf_state hsummary
  refine ⟨?_, ?_, ?_, ?_⟩
  · intro outcome final hruns
    obtain ⟨-, ⟨-, habsent⟩ | ⟨state, record, row', binding', hstate', -, hsaw, houtcome⟩⟩ :=
      status_runs hlaterStored hruns
    · exact absurd hthere (habsent binding)
    · obtain ⟨-, rfl, hsame, -, -⟩ := hread hstate' hsaw.shows hsaw.holds
      rw [houtcome, hsame, hsummary]
  · intro outcome final hruns
    obtain ⟨-, ⟨-, habsent⟩ | ⟨state, row', binding', hstate', -, hshows', hrow', hcase⟩⟩ :=
      cancel_runs hlaterStored hruns
    · exact absurd hthere (habsent binding)
    · obtain ⟨-, rfl, hsame, -, -⟩ := hread hstate' hshows' hrow'
      rcases hcase with ⟨hrefused, houtcome⟩ | ⟨hallowed, -, houtcome⟩
      · have hother : row.state ≠ .cancelled := by
          intro hcancelled
          rw [hsame, hcancelled] at hrefused
          cases hrefused
        rw [hstate, if_neg hother, houtcome]
      · -- of the states that can be cancelled only this one is final
        have hcancelled : row.state = .cancelled := by
          rw [hsame] at hallowed
          rcases hfinal with hended | hended | hended | hended
          · rw [hended] at hallowed
            cases hallowed
          · rw [hended] at hallowed
            cases hallowed
          · rw [hended] at hallowed
            cases hallowed
          · exact hended
        rw [hstate, if_pos hcancelled, houtcome, ← hcancelled, hsummary]
  · intro outcome final hruns
    obtain ⟨-, ⟨-, habsent⟩ | ⟨state, record, row', binding', hstate', -, hsaw, hcase⟩⟩ :=
      result_runs hlaterStored hruns
    · exact absurd hthere (habsent binding)
    · obtain ⟨-, rfl, hsame, hresult, hreport⟩ := hread hstate' hsaw.shows hsaw.holds
      unfold resultOf
      rcases hcase with ⟨hother, houtcome⟩ | ⟨report, hsucceeded, hfound, -, houtcome⟩
      · rw [hsame] at hother
        rw [if_neg hother, houtcome]
      · rw [hsame] at hsucceeded
        rw [hreport] at hfound
        rw [if_pos hsucceeded, houtcome, hresult, hfound, Option.getD_some]
  · intro other hother
    refine ⟨?_, ?_, ?_⟩
    · intro outcome final hruns
      obtain ⟨-, ⟨houtcome, -⟩ | ⟨state, _, _, _, hstate', -, hsaw, -⟩⟩ :=
        status_runs hlaterStored hruns
      · exact houtcome
      · exact absurd (hread hstate' hsaw.shows hsaw.holds).1 hother
    · intro outcome final hruns
      obtain ⟨-, ⟨houtcome, -⟩ | ⟨state, _, _, hstate', -, hshows', hrow', -⟩⟩ :=
        cancel_runs hlaterStored hruns
      · exact houtcome
      · exact absurd (hread hstate' hshows' hrow').1 hother
    · intro outcome final hruns
      obtain ⟨-, ⟨houtcome, -⟩ | ⟨state, _, _, _, hstate', -, hsaw, -⟩⟩ :=
        result_runs hlaterStored hruns
      · exact houtcome
      · exact absurd (hread hstate' hsaw.shows hsaw.holds).1 hother

/-- A request was told that a workflow has ended, and perhaps its result. -/
inductive ToldEnd (platform : Platform) (tenant workflowId : String) (tables final : Tables) :
    Summary → Option Served → Prop
  | status {summary : Summary}
      (hruns : (status platform tenant workflowId).Runs (Evolves platform) tables (.ok summary) final)
      (hfinal : Final summary.state) : ToldEnd platform tenant workflowId tables final summary none
  | cancelled {summary : Summary}
      (hruns : (cancel platform tenant workflowId).Runs (Evolves platform) tables (.ok summary)
        final) : ToldEnd platform tenant workflowId tables final summary none
  | served {served : Served}
      (hruns : (result platform tenant workflowId).Runs (Evolves platform) tables (.ok served)
        final) : ToldEnd platform tenant workflowId tables final served.summary (some served)

/-- **Ends are final.**  Once a request was told that a workflow has ended, there is one answer
to every request for its result, the one that was told if one was, and every later request is
answered by it and by the same summary. -/
def EndsAreFinal (platform : Platform) : Prop :=
  ∀ tables, Evolves platform Tables.empty tables →
    ∀ tenant workflowId final summary told,
      ToldEnd platform tenant workflowId tables final summary told →
      ∃ served : Except ApiError Served, (∀ value ∈ told, served = .ok value) ∧
        (served.isOk = true ↔ summary.state = .succeeded) ∧
        ∀ later, Evolves platform final later →
          Settled platform tenant workflowId summary served later

/-- The end a request was told of, in a store that it read. -/
structure Witnessed (platform : Platform) (tenant workflowId : String) (middle final : Tables)
    (summary : Summary) (row : WorkflowRow) (binding : Json) : Prop where
  stored : middle.Stored platform
  shows : middle.Shows tenant workflowId binding
  holds : middle.Holds tenant workflowId row
  ended : Final row.state
  told : summaryOf workflowId row.state binding = .ok summary
  evolves : Evolves platform middle final

/-- What a request was told was in the store. -/
theorem ToldEnd.witnessed {summary : Summary} {told : Option Served} (h : tables.Stored platform)
    (htold : ToldEnd platform tenant workflowId tables final summary told) :
    ∃ middle row binding, Witnessed platform tenant workflowId middle final summary row binding ∧
      ∀ value ∈ told, resultOf middle workflowId row binding = .ok value := by
  cases htold with
  | status hruns hfinal =>
      obtain ⟨-, ⟨hfailed, -⟩ | ⟨middle, record, row, binding, hmiddle, hend, hsaw, houtcome⟩⟩ :=
        status_runs h hruns
      · cases hfailed
      · rw [summaryOf_state houtcome.symm] at hfinal
        exact ⟨middle, row, binding, ⟨h.evolves hmiddle, hsaw.shows, hsaw.holds, hfinal,
          houtcome.symm, hend⟩, nofun⟩
  | cancelled hruns =>
      obtain ⟨hfinal, ⟨hfailed, -⟩ | ⟨middle, row, binding, hmiddle, hend, hshows, hrow, hcase⟩⟩ :=
        cancel_runs h hruns
      · cases hfailed
      · rcases hcase with ⟨-, hfailed⟩ | ⟨-, ⟨row', hrow', hcancelled⟩, houtcome⟩
        · cases hfailed
        · have hmiddleStored := h.evolves hmiddle
          refine ⟨final, row', binding, ⟨h.evolves hfinal,
            hshows.evolves (hend.advances hmiddleStored), hrow', ?_, ?_,
            Machine.Reachable.refl final⟩, nofun⟩
          · rw [hcancelled]
            decide
          · rw [hcancelled]
            exact houtcome.symm
  | @served told hruns =>
      obtain ⟨-, ⟨hfailed, -⟩ | ⟨middle, record, row, binding, hmiddle, hend, hsaw, hcase⟩⟩ :=
        result_runs h hruns
      · cases hfailed
      · rcases hcase with ⟨-, hfailed⟩ | ⟨report, hstate, hreport, -, houtcome⟩
        · cases hfailed
        · have hresult : resultOf middle workflowId row binding = .ok told := by
            unfold resultOf
            rw [if_pos hstate, hreport, Option.getD_some]
            exact houtcome.symm
          have hsummary : summaryOf workflowId row.state binding = .ok told.summary := by
            unfold servedOf at houtcome
            rw [hstate]
            cases hmade : summaryOf workflowId .succeeded binding with
            | error error =>
                rw [hmade] at houtcome
                cases houtcome
            | ok summary =>
                rw [hmade] at houtcome
                rw [Except.ok.inj houtcome]
          refine ⟨middle, row, binding, ⟨h.evolves hmiddle, hsaw.shows, hsaw.holds, ?_, hsummary,
            hend⟩, ?_⟩
          · rw [hstate]
            decide
          · intro value hvalue
            rw [← Option.some.inj hvalue]
            exact hresult

theorem ends_are_final (platform : Platform) : EndsAreFinal platform := by
  intro tables hreachable tenant workflowId final summary told htold
  obtain ⟨middle, row, binding, hseen, hserved⟩ :=
    htold.witnessed (Workflows.reachable_stored hreachable)
  refine ⟨resultOf middle workflowId row binding, hserved, ?_, ?_⟩
  · have htoldState := hseen.told
    rw [summaryOf_state htoldState]
    unfold resultOf servedOf
    by_cases hstate : row.state = .succeeded
    · rw [hstate] at htoldState
      rw [if_pos hstate, htoldState]
      exact ⟨fun _ => hstate, fun _ => rfl⟩
    · rw [if_neg hstate]
      constructor
      · intro hok
        cases hok
      · exact fun hsame => absurd hsame hstate
  · intro later hlater
    exact settled_of_ended hseen.stored hseen.shows hseen.holds hseen.ended hseen.told
      (hseen.evolves.trans hlater)

/-! ### Creations -/

/-- A creation that is answered came with a policy it fits, of a tenant with a proper name. -/
theorem create_answered {uuid5 : String → Inference.Text} {policy : Option WorkflowPolicy}
    {limits : InputLimits} {payload : CreateWorkflowRequest} {uuid4 : String} {summary : Summary}
    (hruns : (create platform tenant uuid5 policy limits payload uuid4).Runs (Evolves platform)
      tables (.ok summary) final) :
    ∃ rules, policy = some rules ∧ Fits rules limits payload ∧
      Workflows.isCanonicalId tenant = true := by
  cases policy with
  | none =>
      obtain ⟨hfailed, -⟩ := hruns
      cases hfailed
  | some rules =>
      by_cases hfits : Fits rules limits payload
      · refine ⟨rules, rfl, hfits, ?_⟩
        obtain ⟨_, _, _, _, _, _, -, -, -, -, -, hcalls⟩ := create_calls platform tenant uuid5 hfits
        rw [hcalls] at hruns
        obtain ⟨before, -, ⟨id, next, hcreated, -⟩ | ⟨_, -, hfailed, -⟩⟩ :=
          runs_transact_bind.mp hruns
        · exact (Workflows.create_request hcreated).1
        · cases hfailed
      · rw [create_limited hfits] at hruns
        obtain ⟨hfailed, -⟩ := hruns
        cases hfailed

/-- What a creation that is answered leaves: its key stands for the workflow it names, which
is bound to its policy unless it clashed with the request. -/
theorem create_made {uuid5 : String → Inference.Text} {rules : WorkflowPolicy}
    {limits : InputLimits} {payload : CreateWorkflowRequest} {uuid4 : String} {summary : Summary}
    (h : tables.Proven platform)
    (hruns : (create platform tenant uuid5 (some rules) limits payload uuid4).Runs
      (Evolves platform) tables (.ok summary) final) :
    ∃ hashed binding, requestText tenant uuid5 rules payload = .ok hashed ∧
      Evolves platform tables final ∧
      final.Registered tenant payload.idempotencyKey summary.workflowId (platform.sha256 hashed) ∧
      final.Shows tenant summary.workflowId binding ∧
      subscript binding "version" = .ok summary.policyVersion ∧
      (Binds rules binding ∨ ∃ seen, Evolves platform tables seen ∧ Evolves platform seen final ∧
        seen.Clashes platform summary.workflowId hashed) := by
  obtain ⟨found, hfound, hfits, htenant⟩ := create_answered hruns
  obtain rfl := Option.some.inj hfound
  obtain ⟨_, _, _, _, _, hashed, _, -, -, -, -, -, hhashed, -⟩ :=
    request_total tenant uuid5 rules payload
  obtain ⟨before, hbefore, hcase⟩ := create_runs h htenant hfits hhashed hruns
  rcases hcase with ⟨_, _, -, -, hfailed, -⟩ | ⟨-, -, hfailed, -⟩ | ⟨id, next, hnext, hregistered,
    hbound, hstatus⟩
  · cases hfailed
  · cases hfailed
  · have hstored := ((h.evolves hbefore).evolves hnext).stored
    obtain ⟨hend, ⟨hfailed, -⟩ | ⟨middle, record, row, binding, hmiddle, hlast, hsaw, houtcome⟩⟩ :=
      status_runs hstored hstatus
    · cases hfailed
    · have hid : summary.workflowId = id ∧
          subscript binding "version" = .ok summary.policyVersion := by
        unfold summaryOf at houtcome
        cases hversion : subscript binding "version" with
        | error error =>
            rw [hversion] at houtcome
            cases houtcome
        | ok version =>
            rw [hversion] at houtcome
            rw [Except.ok.inj houtcome]
            exact ⟨rfl, rfl⟩
      obtain ⟨rfl, hversion⟩ := hid
      refine ⟨hashed, binding, hhashed, (hbefore.trans hnext).trans hend,
        hregistered.evolves hend, ?_, hversion, ?_⟩
      · exact hsaw.shows.evolves (hlast.advances (hstored.evolves hmiddle))
      · rcases hbound with ⟨bound, hshows, hbinds⟩ | hclashes
        · have hthere := hshows.evolves (hmiddle.advances hstored)
          rw [(hsaw.shows.unique hthere).2] at hbinds
          exact Or.inl hbinds
        · exact Or.inr ⟨next, hbefore.trans hnext, hend, hclashes⟩

/-- A workflow has one registration. -/
theorem registered_unique {key key' digest digest' other : String}
    (h : tables.Registered tenant key workflowId digest)
    (h' : tables.Registered other key' workflowId digest') : other = tenant ∧ key' = key := by
  obtain ⟨row, hrow, hentry⟩ := List.mem_map.mp h
  obtain ⟨row', hrow', hentry'⟩ := List.mem_map.mp h'
  have hid : row.id = row'.id := (congrArg Registry.Registration.identity hentry).trans
    (congrArg Registry.Registration.identity hentry').symm
  have hsame : some row = some row' := by
    rw [← Table.find_of_mem hrow, ← Table.find_of_mem hrow', hid]
  obtain rfl := Option.some.inj hsame
  have hkeys := (congrArg Registry.Registration.key hentry').symm.trans
    (congrArg Registry.Registration.key hentry)
  exact Prod.mk.inj hkeys

/-- **Creations are idempotent.**  After a creation was answered, whatever happens in between, a
creation that is answered names the same workflow exactly when it is of the same tenant under
the same key, and then with the same version; and the same request is answered again. -/
def CreationsAreIdempotent (platform : Platform) : Prop :=
  ∀ tables, Evolves platform Tables.empty tables →
    ∀ tenant uuid5 rules limits payload uuid4 summary final,
      (create platform tenant uuid5 (some rules) limits payload uuid4).Runs (Evolves platform)
        tables (.ok summary) final →
      ∀ later, Evolves platform final later →
        (∀ other uuid5' rules' limits' payload' uuid4' summary' last,
          (create platform other uuid5' (some rules') limits' payload' uuid4').Runs
            (Evolves platform) later (.ok summary') last →
          (summary'.workflowId = summary.workflowId ↔
            other = tenant ∧ payload'.idempotencyKey = payload.idempotencyKey) ∧
          (summary'.workflowId = summary.workflowId →
            summary'.policyVersion = summary.policyVersion)) ∧
        ∀ limits' uuid4' outcome last, Fits rules limits' payload →
          (create platform tenant uuid5 (some rules) limits' payload uuid4').Runs
            (Evolves platform) later outcome last →
          ∃ summary', outcome = .ok summary' ∧ summary'.workflowId = summary.workflowId

theorem creations_are_idempotent (platform : Platform) : CreationsAreIdempotent platform := by
  intro tables hreachable tenant uuid5 rules limits payload uuid4 summary final hfirst later hlater
  have hproven := Workflows.reachable_proven hreachable
  obtain ⟨hashed, binding, hhashed, hfinal, hregistered, hshows, hversion, -⟩ :=
    create_made hproven hfirst
  have hfinalProven := hproven.evolves hfinal
  have hlaterProven := hfinalProven.evolves hlater
  have hthere := hregistered.evolves hlater
  constructor
  · intro other uuid5' rules' limits' payload' uuid4' summary' last hsecond
    obtain ⟨hashed', binding', -, hlast, hregistered', hshows', hversion', -⟩ :=
      create_made hlaterProven hsecond
    have hkept := hthere.evolves hlast
    refine ⟨⟨fun hsame => ?_, ?_⟩, fun hsame => ?_⟩
    · rw [hsame] at hregistered'
      exact registered_unique hkept hregistered'
    · rintro ⟨rfl, hkey⟩
      rw [hkey] at hregistered'
      have hsame := Registry.eq_of_key (hlaterProven.evolves hlast).stored.keys hregistered' hkept rfl
      exact congrArg Registry.Registration.identity hsame
    · rw [hsame] at hshows'
      have hshown := hshows.evolves (Evolves.advances hfinalProven.stored (hlater.trans hlast))
      rw [(hshown.unique hshows').2, hversion] at hversion'
      exact (Except.ok.inj hversion').symm
  · intro limits' uuid4' outcome last hfits hsecond
    obtain ⟨-, -, -, htenant⟩ := create_answered hfirst
    obtain ⟨before, hbefore, hcase⟩ := create_runs hlaterProven htenant hfits hhashed hsecond
    have hkept := hthere.evolves hbefore
    have hstored := (hlaterProven.evolves hbefore).stored
    rcases hcase with ⟨id, digest, hother, hdigest, -⟩ | ⟨hfresh, -⟩ | ⟨id, next, hnext, hnamed, -,
      hstatus⟩
    · have hsame := Registry.eq_of_key hstored.keys hother hkept rfl
      exact absurd (congrArg Registry.Registration.digest hsame) hdigest
    · exact absurd (List.mem_map_of_mem hkept) hfresh
    · have hnextStored := hstored.evolves hnext
      have hsame := Registry.eq_of_key hnextStored.keys hnamed (hkept.evolves hnext) rfl
      have hid : id = summary.workflowId := congrArg Registry.Registration.identity hsame
      subst hid
      have hshown := hshows.evolves (Evolves.advances hfinalProven.stored
        ((hlater.trans hbefore).trans hnext))
      obtain ⟨-, ⟨-, habsent⟩ | ⟨middle, record, row, binding', hmiddle, -, hsaw, houtcome⟩⟩ :=
        status_runs hnextStored hstatus
      · exact absurd hshown (habsent binding)
      · have hbinding := (hshown.evolves (hmiddle.advances hnextStored)).unique hsaw.shows
        unfold summaryOf at houtcome
        rw [hbinding.2, hversion] at houtcome
        exact ⟨_, houtcome, rfl⟩

/-! ### Served results -/

/-- During a creation the store held a workflow under its key that was created from another
request, whose digest is that of the creation's own. -/
def CreationClashes (platform : Platform) (tables final : Tables)
    (hashed : Except PyError String) (workflowId : String) : Prop :=
  ∃ seen text, Evolves platform tables seen ∧ Evolves platform seen final ∧ hashed = .ok text ∧
    seen.Clashes platform workflowId text

/-- **Served results keep the rules.**  A result that is served, at any later time, of a workflow
that a creation was answered with, was accepted, and its text keeps every rule of the policy of
the creation, unless the creation clashed with another request of the same digest. -/
def ServedResultsKeepRules (platform : Platform) : Prop :=
  ∀ tables, Evolves platform Tables.empty tables →
    ∀ tenant uuid5 rules limits payload uuid4 summary final,
      (create platform tenant uuid5 (some rules) limits payload uuid4).Runs (Evolves platform)
        tables (.ok summary) final →
      ∀ later, Evolves platform final later →
        ∀ served last, (result platform tenant summary.workflowId).Runs (Evolves platform) later
          (.ok served) last →
          (served.summary.policyVersion = .str rules.version ∧
            served.validation.get? "decision" = some (.str "accepted") ∧
            ∃ payload text, served.result = some payload ∧
              Workflows.outputText payload = some text ∧
              Workflows.KeepsRules platform rules.acceptance.policy text) ∨
          CreationClashes platform tables final (requestText tenant uuid5 rules payload)
            summary.workflowId

theorem served_results_keep_rules (platform : Platform) : ServedResultsKeepRules platform := by
  intro tables hreachable tenant uuid5 rules limits payload uuid4 summary final hcreated later hlater
    served last hserved
  have hproven := Workflows.reachable_proven hreachable
  obtain ⟨hashed, binding, hhashed, hfinal, -, hshows, hversion, hbinds⟩ :=
    create_made hproven hcreated
  rcases hbinds with ⟨hnamed, snapshot, hsnapshot, hpolicy⟩ | ⟨seen, hbefore, hseen, hclashes⟩
  · refine Or.inl ?_
    have hfinalProven := hproven.evolves hfinal
    have hlaterProven := hfinalProven.evolves hlater
    obtain ⟨-, ⟨hfailed, -⟩ | ⟨middle, record, row, shown, hmiddle, -, hsaw, hcase⟩⟩ :=
      result_runs hlaterProven.stored hserved
    · cases hfailed
    · rcases hcase with ⟨-, hfailed⟩ | ⟨report, hstate, -, hdecision, houtcome⟩
      · cases hfailed
      · have hthere := hshows.evolves (Evolves.advances hfinalProven.stored (hlater.trans hmiddle))
        obtain rfl : shown = binding := (hthere.unique hsaw.shows).2
        obtain ⟨value, hvalue, hacceptable⟩ := (hlaterProven.evolves hmiddle).acceptable hsaw.holds
          hstate hsaw.shows hpolicy hsnapshot
        unfold servedOf summaryOf at houtcome
        rw [hnamed] at houtcome
        have hsame := Except.ok.inj houtcome
        rw [hsame]
        obtain ⟨interpreter, hroomy⟩ := Workflows.exists_roomy value
        obtain ⟨text, htext⟩ := hacceptable interpreter hroomy
        exact ⟨rfl, hdecision, value, text, hvalue,
          (Workflows.outputText_iff value text).mpr ⟨htext.stored, htext.visible⟩, htext.rules⟩
  · exact Or.inr ⟨seen, hashed, hbefore, hseen, hhashed, hclashes⟩

end WorkflowRoutes
end Api
end Ryuk
