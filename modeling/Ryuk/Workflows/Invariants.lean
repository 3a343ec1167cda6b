import Ryuk.Workflows.Recovery

/-!
# Runs of the store

Every call that returns refines a chain of transitions of each workflow, and a
call that raises changes nothing; so along every run of the store each view stays
valid and only advances.
-/

namespace Ryuk
namespace Workflows

open Foundation Foundation.Transaction Relation

variable {platform : Platform} {tables final : Tables} {workflowId : String} {view : View}

/-! ### Recovery as transitions -/

theorem lapsed_refines {selected : WorkflowRow → Bool}
    (hselected : ∀ row, selected row = true → row.state = .running) (view : View) :
    ReflTransGen (Step platform workflowId) view (view.lapsed selected) := by
  unfold View.lapsed
  cases hrow : view.row with
  | none => exact ReflTransGen.refl
  | some row =>
      by_cases htrue : selected row = true
      · simp only [htrue, if_true]
        exact ReflTransGen.single (Step.expire hrow (hselected row htrue))
      · simp only [htrue, Bool.false_eq_true, if_false]
        exact ReflTransGen.refl

/-- A verdict to commit rests on a journal that holds the outcome. -/
theorem verdict_evidence {row : WorkflowRow} {encoded : String} {succeeded : Bool}
    (h : view.verdict platform row = .inl (encoded, succeeded)) :
    ∃ journal, view.dispatch = some journal ∧ journal.tenant = row.tenant ∧
      Evidence platform journal encoded row.fence ∧
      succeeded = decide (journal.succeeded = some 1) := by
  unfold View.verdict at h
  cases hfound : view.dispatch.filter fun journal => decide (journal.tenant = row.tenant) with
  | none => simp [hfound] at h
  | some journal =>
      have hjournal := Option.filter_eq_some_iff.mp hfound
      simp only [hfound] at h
      cases houtcome : journal.outcomeJson with
      | none => simp [houtcome] at h
      | some outcome =>
          simp only [houtcome] at h
          split_ifs at h with hvalid
          obtain ⟨rfl, rfl⟩ := Prod.mk.inj (Sum.inl.inj h)
          exact ⟨journal, hjournal.1, by simpa using hjournal.2,
            (validEvidence_iff houtcome).mp hvalid, rfl⟩

theorem resolved_refines (uuid4 : String) (view : View) :
    ReflTransGen (Step platform workflowId) view (view.resolved platform uuid4) := by
  unfold View.resolved
  cases hrow : view.row with
  | none => exact ReflTransGen.refl
  | some row =>
      by_cases hstate : row.state = .uncertain
      · simp only [hstate, if_true]
        unfold View.settled
        cases hverdict : view.verdict platform row with
        | inr reason => exact ReflTransGen.refl
        | inl outcome =>
            obtain ⟨journal, hjournal, -, hevidence, hflag⟩ := verdict_evidence hverdict
            have hholds := hevidence.holds
            rw [← hflag] at hholds
            exact ReflTransGen.single
              (Step.reconcile outcome.1 outcome.2 uuid4 hrow hstate hjournal hholds
                hevidence.object)
      · simp only [hstate, if_false]
        exact ReflTransGen.refl

theorem expiredAt_running {current : String} {row : WorkflowRow}
    (h : expiredAt current row = true) : row.state = .running := by
  simp only [expiredAt, Bool.and_eq_true, decide_eq_true_eq] at h
  exact h.1

/-! ### Calls -/

/-- **Refinement.**  A call that returns makes each workflow take transitions of
its life. -/
theorem call_refines {call : Call} {answer : Answer}
    (h : call.body platform tables = .ok (answer, final)) : Refines platform tables final := by
  cases call with
  | create tenant key packet binding uuid4 =>
      obtain ⟨id, hcreate, -⟩ := map_ok.mp h
      rcases create_ok hcreate with rfl | ⟨digest, encoded, bound, -, hnone, hbound, hmoves⟩
      · exact Refines.refl _
      · exact hmoves.refines
          (Step.create _ bound hnone rfl rfl rfl rfl rfl rfl rfl hbound)
  | claim tenant workflowId owner leaseSeconds now =>
      obtain ⟨fence, hclaim, -⟩ := map_ok.mp h
      obtain ⟨row, expiry, hrow, -, hstate, -, hmoves⟩ := claim_ok hclaim
      exact hmoves.refines (Step.claim owner expiry hrow hstate)
  | beginDispatch tenant workflowId owner fence budget now =>
      obtain ⟨_, hbegin, -⟩ := map_ok.mp h
      obtain ⟨row, encoded, hrow, -, hstate, -, -, hnone, hmoves⟩ := beginDispatch_ok hbegin
      exact hmoves.refines (Step.beginDispatch encoded hrow hstate hnone)
  | recordOutcome tenant workflowId owner fence result succeeded now =>
      obtain ⟨_, hrecord, -⟩ := map_ok.mp h
      obtain ⟨row, journal, encoded, hrow, -, hstate, -, -, hjournal, -, hencoded, hcase⟩ :=
        recordOutcome_ok hrecord
      rcases hcase with ⟨-, rfl⟩ | ⟨hopen, hmoves⟩
      · exact Refines.refl _
      · exact hmoves.refines (Step.recordOutcome encoded succeeded hrow hstate hjournal hopen
          (objectText_of_canonicalJson hencoded))
  | complete tenant workflowId owner fence result succeeded now uuid4 =>
      obtain ⟨ref, hcomplete, -⟩ := map_ok.mp h
      obtain ⟨row, encoded, hrow, -, hstate, -, -, hencoded, hjournal, -, hmoves⟩ :=
        complete_ok hcomplete
      exact hmoves.refines (Step.complete encoded succeeded uuid4 hrow hstate hjournal
        (objectText_of_canonicalJson hencoded))
  | reconcileUncertain tenant workflowId uuid4 =>
      obtain ⟨state, hreconcile, -⟩ := map_ok.mp h
      obtain ⟨row, hrow, -, hcase⟩ := reconcileUncertain_ok hreconcile
      rcases hcase with ⟨rfl, -⟩ | ⟨journal, encoded, hstate, hjournal, -, hevidence, -, hmoves⟩
      · exact Refines.refl _
      · exact hmoves.refines (Step.reconcile encoded _ uuid4 hrow hstate hjournal
          hevidence.holds hevidence.object)
  | validate tenant workflowId policy =>
      obtain ⟨report, hvalidate, -⟩ := map_ok.mp h
      rcases validate_ok hvalidate with ⟨rfl, -⟩ | ⟨row, artifact, snapshot, findings, reportJson,
        hrow, -, hstate, hmem, hnamed, hsource, hbound, hreport, hjson, hmoves⟩
      · exact Refines.refl _
      · rw [hreport] at hjson
        exact hmoves.refines (Step.validate snapshot findings reportJson hrow hstate hmem hnamed
          hsource hbound hjson)
  | cancel tenant workflowId =>
      obtain ⟨_, hcancel, -⟩ := map_ok.mp h
      rcases cancel_ok hcancel with rfl | ⟨row, hrow, -, hstate, hmoves⟩
      · exact Refines.refl _
      · exact hmoves.refines (Step.cancel hrow hstate)
  | recoverExpired tenant now =>
      obtain ⟨count, hrecover, -⟩ := map_ok.mp h
      obtain ⟨current, hviews⟩ := recoverExpired_ok hrecover
      intro workflowId
      rw [hviews workflowId]
      refine lapsed_refines (fun row hrow => ?_) _
      exact expiredAt_running (Bool.and_eq_true_iff.mp hrow).2
  | recoverStartup limit now uuid4 =>
      obtain ⟨report, hrecover, -⟩ := map_ok.mp h
      obtain ⟨current, -, -, -, -, -, hviews, -⟩ := recoverStartup_ok hrecover
      intro workflowId
      rw [hviews workflowId]
      exact (lapsed_refines (fun _ => expiredAt_running) _).trans (resolved_refines _ _)

/-- One step of the store refines, whether the call returns or raises. -/
theorem next_refines (tables : Tables) (call : Call) :
    Refines platform tables ((store platform).next tables call) := by
  rcases commit_cases (call.body platform) tables with ⟨answer, -, hok⟩ | ⟨-, hsame⟩
  · exact call_refines hok
  · change Refines platform tables (commit (call.body platform) tables).2
    rw [hsame]
    exact Refines.refl _

/-- A call that raises leaves the store unchanged. -/
theorem next_of_error {call : Call} {error : PyError}
    (h : (store platform).answer tables call = .error error) :
    (store platform).next tables call = tables :=
  commit_error h

/-- A call that returns ran its body. -/
theorem body_of_answer {call : Call} {answer : Answer}
    (h : (store platform).answer tables call = .ok answer) :
    call.body platform tables = .ok (answer, (store platform).next tables call) := by
  rcases commit_cases (call.body platform) tables with ⟨found, hfound, hok⟩ | ⟨⟨error, herror⟩, -⟩
  · have hsame : found = answer := by
      have : (store platform).answer tables call = .ok found := hfound
      rw [h] at this
      exact (Except.ok.inj this).symm
    rw [← hsame]
    exact hok
  · have : (store platform).answer tables call = .error error := herror
    rw [h] at this
    cases this

/-! ### Runs -/

/-- Every view of the tables is valid. -/
def AllValid (platform : Platform) (tables : Tables) : Prop :=
  ∀ workflowId, Valid platform workflowId (tables.view workflowId)

/-- Every view of the later tables keeps what it must of the earlier ones. -/
def AllAdvance (tables later : Tables) : Prop :=
  ∀ workflowId, Advances (tables.view workflowId) (later.view workflowId)

theorem AllAdvance.refl (tables : Tables) : AllAdvance tables tables :=
  fun _ => Advances.refl _

theorem AllAdvance.trans {first second third : Tables} (hfirst : AllAdvance first second)
    (hsecond : AllAdvance second third) : AllAdvance first third :=
  fun workflowId => (hfirst workflowId).trans (hsecond workflowId)

theorem chain_valid {later : View} (hchain : ReflTransGen (Step platform workflowId) view later)
    (h : Valid platform workflowId view) : Valid platform workflowId later := by
  induction hchain with
  | refl => exact h
  | tail _ hstep ih => exact hstep.valid ih

theorem chain_advances {later : View}
    (hchain : ReflTransGen (Step platform workflowId) view later)
    (h : Valid platform workflowId view) : Advances view later := by
  induction hchain with
  | refl => exact Advances.refl view
  | tail hchain hstep ih => exact ih.trans (hstep.advances (chain_valid hchain h))

/-- **Step lemma** of the store for the invariant. -/
theorem next_valid (tables : Tables) (call : Call) (h : AllValid platform tables) :
    AllValid platform ((store platform).next tables call) :=
  fun workflowId => chain_valid (next_refines tables call workflowId) (h workflowId)

/-- **Step lemma** of the store for progress. -/
theorem next_advances (tables : Tables) (call : Call) (h : AllValid platform tables) :
    AllAdvance tables ((store platform).next tables call) :=
  fun workflowId => chain_advances (next_refines tables call workflowId) (h workflowId)

theorem empty_valid : AllValid platform Tables.empty :=
  fun _ => Valid.of_absent

/-- **Run lemma.**  The invariant holds in every reachable store. -/
theorem reachable_valid (h : (store platform).Reachable Tables.empty tables) :
    AllValid platform tables :=
  h.invariant next_valid empty_valid

/-- **Run lemma.**  Nothing goes back along a run. -/
theorem after_advances (h : AllValid platform tables) (calls : List Call) :
    AllAdvance tables ((store platform).after tables calls) :=
  Machine.after_related next_valid AllAdvance.refl (fun _ _ _ => AllAdvance.trans) next_advances h
    calls

end Workflows
end Ryuk
