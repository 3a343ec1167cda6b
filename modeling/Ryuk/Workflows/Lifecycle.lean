import Ryuk.Workflows.Store

/-!
# The life of one workflow

What the store is for, seen from one workflow: a view collects everything the
tables hold about it, and `Step` lists the ways the view can change.  `Valid`
says what the view looks like in each state, `Advances` what never goes back.
Both are shown here for single steps; that every store call is made of such
steps is shown against the tables.
-/

namespace Ryuk
namespace Workflows

open Foundation Foundation.Json Foundation.Datetime

/-- Everything the tables hold about one workflow. -/
structure View where
  row : Option WorkflowRow
  events : List EventRow
  artifacts : List ArtifactRow
  validation : Option ValidationRow
  dispatch : Option DispatchRow
  binding : Option BindingRow

/-- The view of a workflow that does not exist. -/
def View.absent : View := ⟨none, [], [], none, none, none⟩

/-- The view of one workflow. -/
def Tables.view (tables : Tables) (workflowId : String) : View where
  row := tables.workflows.find workflowId
  events := tables.events.filter fun event => decide (event.workflowId = workflowId)
  artifacts := tables.artifacts.select fun row => decide (row.workflowId = workflowId)
  validation := tables.validations.find workflowId
  dispatch := tables.dispatches.find workflowId
  binding := tables.bindings.find workflowId

/-- The view with a new row, and the event that goes with it. -/
def View.moved (view : View) (row : WorkflowRow) (label : EventLabel) : View :=
  { view with
    row := some row
    events := view.events ++ [⟨row.id, row.tenant, label, row.fence⟩] }

/-! ### Rows after a transition -/

def WorkflowRow.claimed (row : WorkflowRow) (owner : String) (expiry : Instant) : WorkflowRow :=
  { row with
    state := .running
    fence := row.fence + 1
    owner := some owner
    leaseUntil := some expiry.isoformat }

def WorkflowRow.committed (row : WorkflowRow) (encoded : String) (succeeded : Bool)
    (artifactId : String) : WorkflowRow :=
  { row with
    state := resultState succeeded
    result := some encoded
    resultArtifactId := some artifactId
    owner := none
    leaseUntil := none }

def WorkflowRow.decided (row : WorkflowRow) (accepted : Bool) : WorkflowRow :=
  { row with state := if accepted then .succeeded else .rejected }

def WorkflowRow.cancelled (row : WorkflowRow) : WorkflowRow :=
  { row with state := .cancelled, fence := row.fence + 1, owner := none, leaseUntil := none }

def WorkflowRow.expired (row : WorkflowRow) : WorkflowRow :=
  { row with state := .uncertain, fence := row.fence + 1, owner := none, leaseUntil := none }

/-- The artifact a commit stores. -/
def WorkflowRow.artifact (platform : Platform) (row : WorkflowRow) (encoded artifactId : String) :
    ArtifactRow :=
  ⟨artifactId, row.id, row.tenant, 1, platform.sha256 encoded, encoded.utf8ByteSize, encoded⟩

/-- The reference to a stored artifact. -/
def ArtifactRow.ref (artifact : ArtifactRow) : ArtifactRef :=
  ⟨artifact.id, artifact.workflowId, artifact.sha256, artifact.sizeBytes, artifact.schemaVersion,
    "application/json"⟩

/-- A journal row with its outcome. -/
def DispatchRow.recorded (platform : Platform) (journal : DispatchRow) (encoded : String)
    (succeeded : Bool) : DispatchRow :=
  { journal with
    outcomeJson := some encoded
    outcomeSha256 := some (platform.sha256 encoded)
    succeeded := some (intOfBool succeeded) }

/-- A text that reads as a JSON object. -/
def ObjectText (text : String) : Prop := ∃ fields, loads text = some (.obj fields)

/-- A journal row agrees with a payload and a flag. -/
def DispatchRow.Holds (journal : DispatchRow) (encoded : String) (succeeded : Bool) : Prop :=
  journal.outcomeJson = some encoded ∧ journal.succeeded = some (intOfBool succeeded)

/-- A snapshot is the policy of a binding. -/
def BindingRow.Policy (binding : BindingRow) (snapshot : Json) : Prop :=
  ∃ value, loadsJson binding.bindingJson = .ok value ∧ subscript value "policy" = .ok snapshot

/-! ### Transitions -/

section Transitions

variable (platform : Platform) (workflowId : String)

/-- One transition of a workflow. -/
inductive Step : View → View → Prop
  | create {view : View} (row : WorkflowRow) (binding : Option BindingRow)
      (habsent : view.row = none) (hid : row.id = workflowId) (hstate : row.state = .ready)
      (hfence : row.fence = 0) (howner : row.owner = none) (hlease : row.leaseUntil = none)
      (hresult : row.result = none) (hartifact : row.resultArtifactId = none)
      (hbinding : ∀ bound ∈ binding, bound ∈ view.binding ∨ (bound.tenant = row.tenant ∧
        ∃ fields, dumps (.obj fields) = some bound.bindingJson)) :
      Step view { view.moved row (.state .ready) with binding := binding }
  | claim {view : View} {row : WorkflowRow} (owner : String) (expiry : Instant)
      (hrow : view.row = some row) (hstate : row.state = .ready) :
      Step view (view.moved (row.claimed owner expiry) (.state .running))
  | beginDispatch {view : View} {row : WorkflowRow} (budget : String)
      (hrow : view.row = some row) (hstate : row.state = .running)
      (hnone : view.dispatch = none) :
      Step view
        { view.moved row .dispatchStarted with
          dispatch := some ⟨row.id, row.tenant, row.fence, budget, none, none, none⟩ }
  | recordOutcome {view : View} {row : WorkflowRow} {journal : DispatchRow} (encoded : String)
      (succeeded : Bool) (hrow : view.row = some row) (hstate : row.state = .running)
      (hjournal : view.dispatch = some journal) (hopen : journal.outcomeJson = none)
      (hobject : ObjectText encoded) :
      Step view
        { view.moved row .outcomeRecorded with
          dispatch := some (journal.recorded platform encoded succeeded) }
  | complete {view : View} {row : WorkflowRow} (encoded : String) (succeeded : Bool)
      (artifactId : String) (hrow : view.row = some row) (hstate : row.state = .running)
      (hjournal : ∀ journal ∈ view.dispatch, journal.tenant = row.tenant →
        journal.Holds encoded succeeded)
      (hobject : ObjectText encoded) :
      Step view
        { view.moved (row.committed encoded succeeded artifactId) (.state (resultState succeeded))
          with
          artifacts := view.artifacts ++ [row.artifact platform encoded artifactId] }
  | reconcile {view : View} {row : WorkflowRow} {journal : DispatchRow} (encoded : String)
      (succeeded : Bool) (artifactId : String) (hrow : view.row = some row)
      (hstate : row.state = .uncertain) (hjournal : view.dispatch = some journal)
      (hholds : journal.Holds encoded succeeded) (hobject : ObjectText encoded) :
      Step view
        { view.moved (row.committed encoded succeeded artifactId) (.state (resultState succeeded))
          with
          artifacts := view.artifacts ++ [row.artifact platform encoded artifactId] }
  | validate {view : View} {row : WorkflowRow} {artifact : ArtifactRow} (snapshot : Json)
      (findings : List Json) (reportJson : String) (hrow : view.row = some row)
      (hstate : row.state = .awaitingValidation) (hmem : artifact ∈ view.artifacts)
      (hnamed : row.resultArtifactId = some artifact.id)
      (hsource : canon snapshot = snapshot ∨ ∃ bound ∈ view.binding, bound.Policy snapshot)
      (hbound : ∀ bound ∈ view.binding, bound.tenant = row.tenant → bound.Policy snapshot)
      (hreport : dumps (reportDict artifact.ref snapshot findings) = some reportJson) :
      Step view
        { view.moved (row.decided findings.isEmpty) (.state (row.decided findings.isEmpty).state)
          with
          validation := some ⟨row.id, row.tenant, reportJson⟩ }
  | cancel {view : View} {row : WorkflowRow} (hrow : view.row = some row)
      (hstate : row.state = .ready ∨ row.state = .running ∨ row.state = .awaitingValidation) :
      Step view (view.moved row.cancelled (.state .cancelled))
  | expire {view : View} {row : WorkflowRow} (hrow : view.row = some row)
      (hstate : row.state = .running) :
      Step view (view.moved row.expired (.state .uncertain))

/-! ### What each state looks like -/

/-- No result yet. -/
def Bare (view : View) (row : WorkflowRow) : Prop :=
  view.artifacts = [] ∧ view.validation = none ∧ row.result = none ∧ row.resultArtifactId = none

/-- Nobody holds the workflow. -/
def Unowned (row : WorkflowRow) : Prop := row.owner = none ∧ row.leaseUntil = none

/-- The one artifact of a workflow whose result was committed. -/
structure Committed (view : View) (row : WorkflowRow) (succeeded : Bool)
    (artifact : ArtifactRow) : Prop where
  only : view.artifacts = [artifact]
  workflowId : artifact.workflowId = row.id
  tenant : artifact.tenant = row.tenant
  named : row.resultArtifactId = some artifact.id
  result : row.result = some artifact.contentJson
  digest : artifact.sha256 = platform.sha256 artifact.contentJson
  size : artifact.sizeBytes = artifact.contentJson.utf8ByteSize
  version : artifact.schemaVersion = 1
  object : ObjectText artifact.contentJson
  journal : ∀ journal ∈ view.dispatch, journal.Holds artifact.contentJson succeeded

/-- The one report of a workflow that was decided. -/
structure Decided (view : View) (row : WorkflowRow) (artifact : ArtifactRow)
    (accepted : Bool) (snapshot : Json) (findings : List Json) (reportJson : String) : Prop where
  report : view.validation = some ⟨row.id, row.tenant, reportJson⟩
  printed : dumps (reportDict artifact.ref snapshot findings) = some reportJson
  decision : findings.isEmpty = accepted
  canonical : canon snapshot = snapshot
  bound : ∀ bound ∈ view.binding, bound.Policy snapshot

/-- What a view looks like in the state of its row. -/
def Stage (view : View) (row : WorkflowRow) : Prop :=
  match row.state with
  | .ready => row.fence = 0 ∧ Unowned row ∧ view.dispatch = none ∧ Bare view row
  | .running => row.fence = 1 ∧ row.owner.isSome = true ∧
      (∃ expiry : Instant, row.leaseUntil = some expiry.isoformat) ∧ Bare view row
  | .uncertain => row.fence = 2 ∧ Unowned row ∧ Bare view row
  | .awaitingValidation => (row.fence = 1 ∨ row.fence = 2) ∧ Unowned row ∧
      view.validation = none ∧ ∃ artifact, Committed platform view row true artifact
  | .failed => (row.fence = 1 ∨ row.fence = 2) ∧ Unowned row ∧
      view.validation = none ∧ ∃ artifact, Committed platform view row false artifact
  | .succeeded => (row.fence = 1 ∨ row.fence = 2) ∧ Unowned row ∧
      ∃ artifact snapshot findings reportJson, Committed platform view row true artifact ∧
        Decided view row artifact true snapshot findings reportJson
  | .rejected => (row.fence = 1 ∨ row.fence = 2) ∧ Unowned row ∧
      ∃ artifact snapshot findings reportJson, Committed platform view row true artifact ∧
        Decided view row artifact false snapshot findings reportJson
  | .cancelled => (row.fence = 1 ∨ row.fence = 2 ∨ row.fence = 3) ∧ Unowned row ∧
      view.validation = none ∧
        (Bare view row ∨ ∃ artifact, Committed platform view row true artifact)

/-- A journal row of a workflow: written by its one execution, open or with a
complete outcome. -/
structure Journal (tenant : String) (journal : DispatchRow) : Prop where
  tenant : journal.tenant = tenant
  fence : journal.fence = 1
  outcome : journal.outcomeJson = none ∨ ∃ encoded succeeded, ObjectText encoded ∧
    journal.Holds encoded succeeded ∧ journal.outcomeSha256 = some (platform.sha256 encoded)

/-- The invariant of a view. -/
structure Valid (view : View) : Prop where
  absent : view.row = none → view = View.absent
  identity : ∀ row ∈ view.row, row.id = workflowId
  stage : ∀ row ∈ view.row, Stage platform view row
  journal : ∀ row ∈ view.row, ∀ journal ∈ view.dispatch, Journal platform row.tenant journal
  binding : ∀ row ∈ view.row, ∀ bound ∈ view.binding, bound.tenant = row.tenant ∧
    ∃ fields, dumps (.obj fields) = some bound.bindingJson

end Transitions

/-- A state no transition leaves. -/
def Final (state : WorkflowState) : Prop :=
  state = .failed ∨ state = .rejected ∨ state = .succeeded ∨ state = .cancelled

instance (state : WorkflowState) : Decidable (Final state) :=
  inferInstanceAs (Decidable (_ ∨ _))

/-- What the later row keeps of the earlier one. -/
structure RowAdvances (view later : View) (row row' : WorkflowRow) : Prop where
  tenant : row'.tenant = row.tenant
  fence : row.fence ≤ row'.fence
  started : row.state ≠ .ready → row'.state ≠ .ready
  final : Final row.state → row'.state = row.state ∧ row'.fence = row.fence ∧
    row'.resultArtifactId = row.resultArtifactId ∧ later.validation = view.validation ∧
      later.dispatch = view.dispatch

/-- What a later view keeps of an earlier one. -/
structure Advances (view later : View) : Prop where
  row : ∀ row, view.row = some row → ∃ row', later.row = some row' ∧ RowAdvances view later row row'
  journal : ∀ journal, view.dispatch = some journal →
    ∃ journal', later.dispatch = some journal' ∧
      (journal.outcomeJson.isSome = true → journal' = journal)
  binding : ∀ bound, view.binding = some bound → later.binding = some bound
  artifacts : view.artifacts <+: later.artifacts
  validation : ∀ report, view.validation = some report → later.validation = some report
  events : view.events <+: later.events

/-! ### Every transition keeps the invariant -/

section Invariant

variable {platform : Platform} {workflowId : String} {view : View} {row : WorkflowRow}

theorem Valid.of_absent : Valid platform workflowId View.absent where
  absent _ := rfl
  identity row hrow := by cases hrow
  stage row hrow := by cases hrow
  journal row hrow := by cases hrow
  binding row hrow := by cases hrow

/-- A subscript that returns is the field. -/
theorem get?_of_subscript {value field : Json} {key : String} (h : subscript value key = .ok field) :
    value.get? key = some field := by
  unfold subscript at h
  cases value with
  | obj fields =>
      change lookup key fields = some field
      cases hlookup : lookup key fields with
      | none => simp [hlookup] at h
      | some found =>
          simp only [hlookup, Except.ok.injEq] at h
          rw [h]
  | null | bool _ | int _ | float _ | str _ | arr _ => cases h

/-- A view with a row is valid when its row is. -/
theorem Valid.of_row (hrow : view.row = some row) (hid : row.id = workflowId)
    (hstage : Stage platform view row)
    (hjournal : ∀ journal ∈ view.dispatch, Journal platform row.tenant journal)
    (hbinding : ∀ bound ∈ view.binding, bound.tenant = row.tenant ∧
      ∃ fields, dumps (.obj fields) = some bound.bindingJson) :
    Valid platform workflowId view where
  absent h := by rw [hrow] at h; cases h
  identity row' h := by
    rw [hrow, Option.mem_some_iff] at h
    exact h ▸ hid
  stage row' h := by
    rw [hrow, Option.mem_some_iff] at h
    exact h ▸ hstage
  journal row' h := by
    rw [hrow, Option.mem_some_iff] at h
    exact h ▸ hjournal
  binding row' h := by
    rw [hrow, Option.mem_some_iff] at h
    exact h ▸ hbinding

theorem Valid.stage_of (h : Valid platform workflowId view) (hrow : view.row = some row)
    {state : WorkflowState} (hstate : row.state = state) :
    Stage platform view { row with state := state } := by
  subst hstate
  exact h.stage row hrow

/-- A workflow has no result yet, or one committed artifact. -/
theorem Valid.bare_or_committed (h : Valid platform workflowId view) (hrow : view.row = some row) :
    Bare view row ∨ ∃ succeeded artifact, Committed platform view row succeeded artifact := by
  have hstage := h.stage row hrow
  unfold Stage at hstage
  cases hstate : row.state with
  | ready | running =>
      rw [hstate] at hstage
      exact Or.inl hstage.2.2.2
  | uncertain =>
      rw [hstate] at hstage
      exact Or.inl hstage.2.2
  | awaitingValidation | failed =>
      rw [hstate] at hstage
      obtain ⟨-, -, -, artifact, hcommitted⟩ := hstage
      exact Or.inr ⟨_, artifact, hcommitted⟩
  | succeeded | rejected =>
      rw [hstate] at hstage
      obtain ⟨-, -, artifact, _, _, _, hcommitted, -⟩ := hstage
      exact Or.inr ⟨_, artifact, hcommitted⟩
  | cancelled =>
      rw [hstate] at hstage
      obtain ⟨-, -, -, hbare | ⟨artifact, hcommitted⟩⟩ := hstage
      · exact Or.inl hbare
      · exact Or.inr ⟨_, artifact, hcommitted⟩

/-- A commit onto a bare view stores the one artifact. -/
theorem Bare.committed (h : Bare view row) {encoded : String} {succeeded : Bool}
    (artifactId : String) (hobject : ObjectText encoded)
    (hjournal : ∀ journal ∈ view.dispatch, journal.Holds encoded succeeded) :
    Committed platform
      { view.moved (row.committed encoded succeeded artifactId) (.state (resultState succeeded))
        with
        artifacts := view.artifacts ++ [row.artifact platform encoded artifactId] }
      (row.committed encoded succeeded artifactId) succeeded
      (row.artifact platform encoded artifactId) where
  only := by simp [h.1]
  workflowId := rfl
  tenant := rfl
  named := rfl
  result := rfl
  digest := rfl
  size := rfl
  version := rfl
  object := hobject
  journal := hjournal

/-- The committed row is in the state its flag names. -/
theorem stage_committed {later : View} {encoded artifactId : String} {succeeded : Bool}
    {artifact : ArtifactRow} (hfence : row.fence = 1 ∨ row.fence = 2)
    (hvalidation : later.validation = none)
    (hcommitted : Committed platform later (row.committed encoded succeeded artifactId) succeeded
      artifact) :
    Stage platform later (row.committed encoded succeeded artifactId) := by
  cases succeeded with
  | true => exact ⟨hfence, ⟨rfl, rfl⟩, hvalidation, artifact, hcommitted⟩
  | false => exact ⟨hfence, ⟨rfl, rfl⟩, hvalidation, artifact, hcommitted⟩

/-- The policy of a canonical binding is canonical. -/
theorem BindingRow.Policy.canonical {bound : BindingRow} {snapshot : Json}
    {fields : List (String × Json)} (h : bound.Policy snapshot)
    (hfields : dumps (.obj fields) = some bound.bindingJson) : canon snapshot = snapshot := by
  obtain ⟨value, hloads, hsubscript⟩ := h
  have hvalue : value = canon (.obj fields) := by
    unfold loadsJson at hloads
    rw [loads_dumps hfields] at hloads
    exact (Except.ok.inj hloads).symm
  have hcanonical : Canonical value := by
    rw [hvalue]
    exact canon_canonical _
  exact canon_of_canonical snapshot
    (canonical_of_get? hcanonical (get?_of_subscript hsubscript))

/-- **Step lemma.**  Every transition keeps the invariant. -/
theorem Step.valid {later : View} (hstep : Step platform workflowId view later)
    (h : Valid platform workflowId view) : Valid platform workflowId later := by
  cases hstep with
  | create row binding habsent hid hstate hfence howner hlease hresult hartifact hbinding =>
      have hview := h.absent habsent
      refine Valid.of_row rfl hid ?_ ?_ ?_
      · unfold Stage
        rw [hstate]
        refine ⟨hfence, ⟨howner, hlease⟩, ?_, ?_, ?_, hresult, hartifact⟩
        · rw [hview]; rfl
        · rw [hview]; rfl
        · rw [hview]; rfl
      · intro journal hjournal
        rw [hview] at hjournal
        cases hjournal
      · intro bound hbound
        rcases hbinding bound hbound with hold | hnew
        · rw [hview] at hold
          cases hold
        · exact hnew
  | @claim row owner expiry hrow hstate =>
      obtain ⟨hfence, -, hdispatch, hbare⟩ := h.stage_of hrow hstate
      refine Valid.of_row rfl (h.identity row hrow) ?_ ?_ (h.binding row hrow)
      · refine ⟨?_, rfl, ⟨expiry, rfl⟩, hbare⟩
        change row.fence + 1 = 1
        have : row.fence = 0 := hfence
        omega
      · intro journal hjournal
        have : view.dispatch = some journal := hjournal
        rw [hdispatch] at this
        cases this
  | @beginDispatch row budget hrow hstate hnone =>
      have hrunning := h.stage_of hrow hstate
      refine Valid.of_row rfl (h.identity row hrow) ?_ ?_ (h.binding row hrow)
      · unfold Stage
        rw [hstate]
        exact hrunning
      · intro journal hjournal
        obtain rfl := Option.some.inj hjournal
        exact ⟨rfl, hrunning.1, Or.inl rfl⟩
  | @recordOutcome row journal encoded succeeded hrow hstate hjournal hopen hobject =>
      have hrunning := h.stage_of hrow hstate
      have hold := h.journal row hrow journal hjournal
      refine Valid.of_row rfl (h.identity row hrow) ?_ ?_ (h.binding row hrow)
      · unfold Stage
        rw [hstate]
        exact hrunning
      · intro journal' hjournal'
        obtain rfl := Option.some.inj hjournal'
        exact ⟨hold.tenant, hold.fence, Or.inr ⟨encoded, succeeded, hobject, ⟨rfl, rfl⟩, rfl⟩⟩
  | @complete row encoded succeeded artifactId hrow hstate hjournal hobject =>
      obtain ⟨hfence, -, -, hbare⟩ := h.stage_of hrow hstate
      have hholds : ∀ journal ∈ view.dispatch, journal.Holds encoded succeeded :=
        fun journal hmem => hjournal journal hmem (h.journal row hrow journal hmem).tenant
      refine Valid.of_row rfl (h.identity row hrow) ?_ (h.journal row hrow) (h.binding row hrow)
      exact stage_committed (Or.inl hfence) hbare.2.1 (hbare.committed artifactId hobject hholds)
  | @reconcile row journal encoded succeeded artifactId hrow hstate hjournal hholds hobject =>
      obtain ⟨hfence, -, hbare⟩ := h.stage_of hrow hstate
      have hall : ∀ other ∈ view.dispatch, other.Holds encoded succeeded := by
        intro other hother
        rw [hjournal, Option.mem_some_iff] at hother
        exact hother ▸ hholds
      refine Valid.of_row rfl (h.identity row hrow) ?_ (h.journal row hrow) (h.binding row hrow)
      exact stage_committed (Or.inr hfence) hbare.2.1 (hbare.committed artifactId hobject hall)
  | @validate row artifact snapshot findings reportJson hrow hstate hmem hnamed hsource hbound
      hreport =>
      obtain ⟨hfence, hunowned, -, artifact', hcommitted⟩ := h.stage_of hrow hstate
      have hsame : artifact = artifact' := by
        rw [hcommitted.only, List.mem_singleton] at hmem
        exact hmem
      subst hsame
      refine Valid.of_row rfl (h.identity row hrow) ?_ (h.journal row hrow) (h.binding row hrow)
      have hkept : Committed platform
          { view.moved (row.decided findings.isEmpty)
              (.state (row.decided findings.isEmpty).state) with
            validation := some ⟨row.id, row.tenant, reportJson⟩ }
          (row.decided findings.isEmpty) true artifact :=
        ⟨hcommitted.only, hcommitted.workflowId, hcommitted.tenant, hcommitted.named,
          hcommitted.result, hcommitted.digest, hcommitted.size, hcommitted.version,
          hcommitted.object, hcommitted.journal⟩
      have hcanon : canon snapshot = snapshot := by
        rcases hsource with hcanon | ⟨bound, hmem, hpolicy⟩
        · exact hcanon
        · obtain ⟨-, fields, hfields⟩ := h.binding row hrow bound hmem
          exact hpolicy.canonical hfields
      have hpolicy : ∀ bound ∈ view.binding, bound.Policy snapshot :=
        fun bound hmem => hbound bound hmem (h.binding row hrow bound hmem).1
      cases hempty : findings.isEmpty with
      | true =>
          rw [hempty] at hkept
          exact ⟨hfence, hunowned, artifact, snapshot, findings, reportJson, hkept,
            rfl, hreport, hempty, hcanon, hpolicy⟩
      | false =>
          rw [hempty] at hkept
          exact ⟨hfence, hunowned, artifact, snapshot, findings, reportJson, hkept,
            rfl, hreport, hempty, hcanon, hpolicy⟩
  | @cancel row hrow hstate =>
      refine Valid.of_row rfl (h.identity row hrow) ?_ (h.journal row hrow) (h.binding row hrow)
      rcases hstate with hstate | hstate | hstate
      · obtain ⟨hfence, -, -, hbare⟩ := h.stage_of hrow hstate
        have hzero : row.fence = 0 := hfence
        refine ⟨Or.inl ?_, ⟨rfl, rfl⟩, hbare.2.1, Or.inl hbare⟩
        change row.fence + 1 = 1
        omega
      · obtain ⟨hfence, -, -, hbare⟩ := h.stage_of hrow hstate
        have hone : row.fence = 1 := hfence
        refine ⟨Or.inr (Or.inl ?_), ⟨rfl, rfl⟩, hbare.2.1, Or.inl hbare⟩
        change row.fence + 1 = 2
        omega
      · obtain ⟨hfence, -, hvalidation, artifact, hcommitted⟩ := h.stage_of hrow hstate
        have hsome : row.fence = 1 ∨ row.fence = 2 := hfence
        refine ⟨?_, ⟨rfl, rfl⟩, hvalidation, Or.inr ⟨artifact, ?_⟩⟩
        · change row.fence + 1 = 1 ∨ row.fence + 1 = 2 ∨ row.fence + 1 = 3
          omega
        · exact ⟨hcommitted.only, hcommitted.workflowId, hcommitted.tenant, hcommitted.named,
            hcommitted.result, hcommitted.digest, hcommitted.size, hcommitted.version,
            hcommitted.object, hcommitted.journal⟩
  | @expire row hrow hstate =>
      obtain ⟨hfence, -, -, hbare⟩ := h.stage_of hrow hstate
      refine Valid.of_row rfl (h.identity row hrow) ?_ (h.journal row hrow) (h.binding row hrow)
      refine ⟨?_, ⟨rfl, rfl⟩, hbare⟩
      have hone : row.fence = 1 := hfence
      change row.fence + 1 = 2
      omega

/-! ### Nothing goes back -/

theorem Advances.refl (view : View) : Advances view view where
  row row hrow := ⟨row, hrow, rfl, le_refl _, id, fun _ => ⟨rfl, rfl, rfl, rfl, rfl⟩⟩
  journal journal hjournal := ⟨journal, hjournal, fun _ => rfl⟩
  binding _ h := h
  artifacts := List.prefix_refl _
  validation _ h := h
  events := List.prefix_refl _

theorem Advances.trans {first second third : View} (hfirst : Advances first second)
    (hsecond : Advances second third) : Advances first third where
  row row hrow := by
    obtain ⟨row', hrow', hadvance⟩ := hfirst.row row hrow
    obtain ⟨row'', hrow'', hadvance'⟩ := hsecond.row row' hrow'
    refine ⟨row'', hrow'', hadvance'.tenant.trans hadvance.tenant,
      hadvance.fence.trans hadvance'.fence, fun h => hadvance'.started (hadvance.started h), ?_⟩
    intro hfinal
    obtain ⟨hstate, hfence, hartifact, hvalidation, hdispatch⟩ := hadvance.final hfinal
    obtain ⟨hstate', hfence', hartifact', hvalidation', hdispatch'⟩ :=
      hadvance'.final (by rw [hstate]; exact hfinal)
    exact ⟨hstate'.trans hstate, hfence'.trans hfence, hartifact'.trans hartifact,
      hvalidation'.trans hvalidation, hdispatch'.trans hdispatch⟩
  journal journal hjournal := by
    obtain ⟨journal', hjournal', hkeep⟩ := hfirst.journal journal hjournal
    obtain ⟨journal'', hjournal'', hkeep'⟩ := hsecond.journal journal' hjournal'
    refine ⟨journal'', hjournal'', fun hdone => ?_⟩
    have hsame := hkeep hdone
    subst hsame
    exact hkeep' hdone
  binding bound h := hsecond.binding bound (hfirst.binding bound h)
  artifacts := hfirst.artifacts.trans hsecond.artifacts
  validation report h := hsecond.validation report (hfirst.validation report h)
  events := hfirst.events.trans hsecond.events

/-- A transition of a row that is not final keeps what it must. -/
theorem Advances.of_row {later : View} {row' : WorkflowRow} (hrow : view.row = some row)
    (hlater : later.row = some row') (htenant : row'.tenant = row.tenant)
    (hfence : row.fence ≤ row'.fence) (hstarted : row.state ≠ .ready → row'.state ≠ .ready)
    (hfinal : ¬ Final row.state)
    (hjournal : ∀ journal, view.dispatch = some journal →
      ∃ journal', later.dispatch = some journal' ∧
        (journal.outcomeJson.isSome = true → journal' = journal))
    (hbinding : later.binding = view.binding) (hartifacts : view.artifacts <+: later.artifacts)
    (hvalidation : ∀ report, view.validation = some report → later.validation = some report)
    (hevents : view.events <+: later.events) : Advances view later where
  row := by
    intro found hfound
    rw [hrow, Option.some.injEq] at hfound
    subst hfound
    exact ⟨row', hlater, htenant, hfence, hstarted, fun h => absurd h hfinal⟩
  journal := hjournal
  binding := by
    intro bound hbound
    rw [hbinding, hbound]
  artifacts := hartifacts
  validation := hvalidation
  events := hevents

/-- **Step lemma.**  No transition goes back. -/
theorem Step.advances {later : View} (hstep : Step platform workflowId view later)
    (h : Valid platform workflowId view) : Advances view later := by
  have hkept : ∀ journal, view.dispatch = some journal →
      ∃ journal', view.dispatch = some journal' ∧
        (journal.outcomeJson.isSome = true → journal' = journal) :=
    fun journal hjournal => ⟨journal, hjournal, fun _ => rfl⟩
  cases hstep with
  | create row binding habsent hid hstate hfence howner hlease hresult hartifact hbinding =>
      have hview := h.absent habsent
      subst hview
      refine ⟨?_, ?_, ?_, List.nil_prefix, ?_, List.nil_prefix⟩
      · intro row hrow
        cases hrow
      · intro journal hjournal
        cases hjournal
      · intro bound hbound
        cases hbound
      · intro report hreport
        cases hreport
  | @claim row owner expiry hrow hstate =>
      refine Advances.of_row hrow rfl rfl ?_ ?_ ?_ hkept rfl (List.prefix_refl _)
        (fun _ h => h) (List.prefix_append ..)
      · change row.fence ≤ row.fence + 1
        omega
      · intro _
        change WorkflowState.running ≠ .ready
        decide
      · rw [hstate]
        decide
  | @beginDispatch row budget hrow hstate hnone =>
      refine Advances.of_row hrow rfl rfl (le_refl _) id ?_ ?_ rfl (List.prefix_refl _)
        (fun _ h => h) (List.prefix_append ..)
      · rw [hstate]
        decide
      · intro journal hjournal
        rw [hnone] at hjournal
        cases hjournal
  | @recordOutcome row journal encoded succeeded hrow hstate hjournal hopen hobject =>
      refine Advances.of_row hrow rfl rfl (le_refl _) id ?_ ?_ rfl (List.prefix_refl _)
        (fun _ h => h) (List.prefix_append ..)
      · rw [hstate]
        decide
      · intro found hfound
        rw [hjournal, Option.some.injEq] at hfound
        subst hfound
        refine ⟨_, rfl, fun hdone => ?_⟩
        rw [hopen] at hdone
        cases hdone
  | @complete row encoded succeeded artifactId hrow hstate hjournal hobject =>
      refine Advances.of_row hrow rfl rfl (le_refl _) ?_ ?_ hkept rfl (List.prefix_append ..)
        (fun _ h => h) (List.prefix_append ..)
      · intro _
        change resultState succeeded ≠ .ready
        cases succeeded <;> decide
      · rw [hstate]
        decide
  | @reconcile row journal encoded succeeded artifactId hrow hstate hjournal hholds hobject =>
      refine Advances.of_row hrow rfl rfl (le_refl _) ?_ ?_ hkept rfl (List.prefix_append ..)
        (fun _ h => h) (List.prefix_append ..)
      · intro _
        change resultState succeeded ≠ .ready
        cases succeeded <;> decide
      · rw [hstate]
        decide
  | @validate row artifact snapshot findings reportJson hrow hstate hmem hnamed hsource hbound
      hreport =>
      have hnone : view.validation = none := (h.stage_of hrow hstate).2.2.1
      refine Advances.of_row hrow rfl rfl (le_refl _) ?_ ?_ hkept rfl (List.prefix_refl _) ?_
        (List.prefix_append ..)
      · intro _
        change (if findings.isEmpty = true then WorkflowState.succeeded else .rejected) ≠ .ready
        split_ifs <;> decide
      · rw [hstate]
        decide
      · intro report hfound
        rw [hnone] at hfound
        cases hfound
  | @cancel row hrow hstate =>
      refine Advances.of_row hrow rfl rfl ?_ ?_ ?_ hkept rfl (List.prefix_refl _)
        (fun _ h => h) (List.prefix_append ..)
      · change row.fence ≤ row.fence + 1
        omega
      · intro _
        change WorkflowState.cancelled ≠ .ready
        decide
      · rcases hstate with hstate | hstate | hstate
        · rw [hstate]; decide
        · rw [hstate]; decide
        · rw [hstate]; decide
  | @expire row hrow hstate =>
      refine Advances.of_row hrow rfl rfl ?_ ?_ ?_ hkept rfl (List.prefix_refl _)
        (fun _ h => h) (List.prefix_append ..)
      · change row.fence ≤ row.fence + 1
        omega
      · intro _
        change WorkflowState.uncertain ≠ .ready
        decide
      · rw [hstate]
        decide

end Invariant

end Workflows
end Ryuk
