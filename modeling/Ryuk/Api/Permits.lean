import Ryuk.Api.Inference
import Ryuk.Foundation.Halting

/-!
# Permits that are lost

An endpoint gives its permit back and writes its terminal record exactly when the task can be
built.  The constructors of the task refuse what the validators of the request let pass: text
of white space only.
-/

namespace Ryuk
namespace Api

open Foundation Foundation.Text
open Control (AdmissionController AdmissionPermit ControlPlaneFailure admitPermit)
open Inference (ChatInput ChatMessage GenerationConfig InferenceResult InferenceTask
  RawRequirements RoutingRequirements TaskInput Temperature TextInput TraceContext optionalText
  requireText)

variable {settings : Settings}

/-! ### Requests whose task can be built -/

/-- A text that has something besides white space, if it is there. -/
def Written (value : Option String) : Prop := ∀ text ∈ value, isBlank text = false

/-- What the constructors check beyond the validators, of the shared fields. -/
structure RequestOptions.Constructible (options : RequestOptions settings) : Prop where
  model : Written options.requiredModel
  accelerator : Written options.requiredAccelerator
  topology : Written options.requiredTopology
  location : Written options.requiredDataLocation

structure GenerateRequest.Constructible (payload : GenerateRequest settings) : Prop where
  prompt : isBlank payload.prompt = false
  model : isBlank payload.requestedModel = false
  options : payload.toRequestOptions.Constructible

structure ChatGenerateRequest.Constructible (payload : ChatGenerateRequest settings) : Prop where
  model : Written payload.requestedModel
  options : payload.toRequestOptions.Constructible

/-! ### The constructors -/

theorem exists_requireText {value fieldName : String} :
    (∃ text, requireText value fieldName = .ok text) ↔ isBlank value = false := by
  unfold requireText
  split_ifs with h
  · simp [h]
  · simp [h]

theorem exists_optionalText {value : Option String} {fieldName : String} :
    (∃ text, optionalText value fieldName = .ok text) ↔ Written value := by
  unfold Written
  cases value with
  | none => simp [optionalText]
  | some text =>
      show (∃ found, (requireText text fieldName).map some = .ok found) ↔ _
      unfold requireText
      split_ifs with h
      · simp [h, Except.map]
      · simp [h, Except.map]

theorem exists_generation {maxTokens : Option Int} {temperature : Temperature}
    (htokens : ∀ tokens ∈ maxTokens, 1 ≤ tokens) (hrange : temperature.inRange = true) :
    ∃ generation, GenerationConfig.new maxTokens temperature = .ok generation := by
  unfold GenerationConfig.new
  rw [dif_pos htokens, dif_pos hrange]
  exact ⟨_, rfl⟩

theorem exists_requirements {raw : RawRequirements}
    (hcontext : ∀ tokens ∈ raw.requiredContextTokens, 1 ≤ tokens) :
    (∃ requirements, RoutingRequirements.new raw = .ok requirements) ↔
      Written raw.requestedModel ∧ Written raw.requiredModel ∧ Written raw.requiredAccelerator ∧
        Written raw.requiredTopology ∧ Written raw.requiredDataLocation := by
  unfold RoutingRequirements.new
  simp only [dif_pos hcontext, except_bind_ok]
  constructor
  · rintro ⟨_, _, hrequested, _, hrequired, _, haccelerator, _, htopology, _, hlocation, -⟩
    exact ⟨exists_optionalText.mp ⟨_, hrequested⟩, exists_optionalText.mp ⟨_, hrequired⟩,
      exists_optionalText.mp ⟨_, haccelerator⟩, exists_optionalText.mp ⟨_, htopology⟩,
      exists_optionalText.mp ⟨_, hlocation⟩⟩
  · rintro ⟨hrequested, hrequired, haccelerator, htopology, hlocation⟩
    obtain ⟨_, hrequested⟩ := (@exists_optionalText _ "requested_model").mpr hrequested
    obtain ⟨_, hrequired⟩ := (@exists_optionalText _ "required_model").mpr hrequired
    obtain ⟨_, haccelerator⟩ := (@exists_optionalText _ "required_accelerator").mpr haccelerator
    obtain ⟨_, htopology⟩ := (@exists_optionalText _ "required_topology").mpr htopology
    obtain ⟨_, hlocation⟩ := (@exists_optionalText _ "required_data_location").mpr hlocation
    exact ⟨_, _, hrequested, _, hrequired, _, haccelerator, _, htopology, _, hlocation, rfl⟩

/-- A temperature within the bounds of the validators is in range. -/
theorem inRange_of_bounds {value : Decimal.Float} (h : withinBounds value = true) :
    (Temperature.float value).inRange = true := by
  cases value with
  | nan => cases h
  | infinity negative => cases h
  | finite value => exact h

/-- The task of a request is built exactly when its input is and the constructors accept the
rest. -/
theorem exists_buildTask {options : RequestOptions settings} {input : Except PyError TaskInput}
    {requestedModel : Option String} {request : HttpRequest} :
    (∃ task, options.buildTask input requestedModel request = .ok task) ↔
      (∃ found, input = .ok found) ∧ Written requestedModel ∧ options.Constructible := by
  have htokens : ∀ tokens ∈ options.maxTokens, 1 ≤ tokens :=
    fun tokens hmem => (options.tokens tokens hmem).1
  unfold RequestOptions.buildTask
  simp only [except_bind_ok]
  constructor
  · rintro ⟨_, found, hinput, _, hgeneration, _, hrequirements, -⟩
    obtain ⟨hrequested, hrequired, haccelerator, htopology, hlocation⟩ :=
      (exists_requirements options.context).mp ⟨_, hrequirements⟩
    exact ⟨⟨found, hinput⟩, hrequested, hrequired, haccelerator, htopology, hlocation⟩
  · rintro ⟨⟨found, hinput⟩, hrequested, hoptions⟩
    obtain ⟨_, hgeneration⟩ :=
      exists_generation htokens (inRange_of_bounds options.bounds)
    obtain ⟨_, hrequirements⟩ :=
      (@exists_requirements (options.requirements requestedModel) options.context).mpr
        ⟨hrequested, hoptions.model, hoptions.accelerator, hoptions.topology, hoptions.location⟩
    obtain ⟨id, htrace⟩ := (@exists_requireText _ "request_id").mpr request.requestId.2
    have hnew : TraceContext.new request.requestId.1 request.traceparent =
        .ok ⟨id, request.traceparent⟩ := by
      unfold TraceContext.new
      rw [htrace]
      rfl
    exact ⟨_, found, hinput, _, hgeneration, _, hrequirements, _, hnew, dif_pos options.aware⟩

theorem GenerateRequest.exists_task {payload : GenerateRequest settings} {request : HttpRequest} :
    (∃ task, payload.task request = .ok task) ↔ payload.Constructible := by
  have hinput : (∃ found, (TextInput.new payload.prompt).map TaskInput.text = .ok found) ↔
      isBlank payload.prompt = false := by
    unfold TextInput.new requireText
    split_ifs with h
    · simp [h, Except.map]
    · simp [h, Except.map]
  unfold GenerateRequest.task
  rw [exists_buildTask, hinput]
  constructor
  · rintro ⟨hprompt, hmodel, hoptions⟩
    exact ⟨hprompt, hmodel _ rfl, hoptions⟩
  · intro h
    refine ⟨h.prompt, ?_, h.options⟩
    intro text htext
    cases htext
    exact h.model

/-- The messages of a chat request are always accepted. -/
theorem ChatGenerateRequest.exists_input (payload : ChatGenerateRequest settings) :
    ∃ found, payload.input = .ok found := by
  have hmessage : ∀ message ∈ payload.messages, ∃ built,
      ChatMessage.new message.role message.content = .ok built := by
    intro message _
    obtain ⟨text, htext⟩ := (@exists_requireText _ "content").mpr message.written
    refine ⟨⟨message.role, text⟩, ?_⟩
    unfold ChatMessage.new
    rw [htext]
    rfl
  obtain ⟨messages, hmessages⟩ := mapM_total hmessage
  have hnonempty : messages ≠ [] := by
    rintro rfl
    have hlength := (mapM_eq_ok.mp hmessages).length_eq
    exact payload.nonempty (List.length_eq_zero_iff.mp hlength)
  refine ⟨.chat ⟨messages, hnonempty⟩, ?_⟩
  unfold ChatGenerateRequest.input
  rw [hmessages, except_ok_bind]
  unfold ChatInput.new
  rw [dif_pos hnonempty]
  rfl

theorem ChatGenerateRequest.exists_task {payload : ChatGenerateRequest settings}
    {request : HttpRequest} :
    (∃ task, payload.task request = .ok task) ↔ payload.Constructible := by
  unfold ChatGenerateRequest.task
  rw [exists_buildTask, and_iff_right payload.exists_input]
  exact ⟨fun h => ⟨h.1, h.2⟩, fun h => ⟨h.model, h.options⟩⟩

/-! ### One call -/

/-- A call that was granted a permit gives it back exactly once, holds as much as before for
every tenant, and attempts exactly one terminal record. -/
structure Conserves (before after : ApiState) (tenantId : String) : Prop where
  released : after.releases = before.releases ++ [tenantId]
  held : ∀ other, after.admission.held other = before.admission.held other
  recorded : ∃ record, after.recorded = before.recorded ++ [record]

namespace Circumstances

variable {given : Circumstances} {operation : String} {state : ApiState} {estimatedTokens : Int}
  {task : Except PyError InferenceTask}

/-- Whether the admission grants a permit. -/
def isGranted (given : Circumstances) (estimatedTokens : Int) (state : ApiState) : Bool :=
  (admitPermit state.admission given.tenantId estimatedTokens given.current).1.isOk

/-- A granted permit is a fresh one of the tenant, and is held. -/
theorem admitRequest_granted (h : given.isGranted estimatedTokens state = true) :
    ∃ admitted : ApiState,
      given.admitRequest operation state estimatedTokens =
        (.ok (.new given.tenantId), admitted) ∧
      admitted.releases = state.releases ∧ admitted.recorded = state.recorded ∧
      ∀ other, admitted.admission.held other =
        state.admission.held other + if other = given.tenantId then 1 else 0 := by
  unfold isGranted at h
  unfold admitRequest
  split
  · rename_i permit admission hpermit
    obtain rfl := Control.permit_of_admitPermit hpermit
    refine ⟨{ state with admission, sound := sound_admitted hpermit }, rfl, rfl, rfl, ?_⟩
    intro other
    show admission.held other = _
    rw [Control.held_admitPermit hpermit]
    simp [Except.isOk, Except.toBool]
  · rename_i failure admission hpermit
    rw [hpermit] at h
    cases h

/-- A refused request holds nothing. -/
theorem admitRequest_refused (h : given.isGranted estimatedTokens state = false) :
    ∃ failure after, given.admitRequest operation state estimatedTokens = (.error failure, after) ∧
      ∀ other, after.admission.held other = state.admission.held other := by
  unfold isGranted at h
  unfold admitRequest
  split
  · rename_i permit admission hpermit
    rw [hpermit] at h
    cases h
  · rename_i failure admission hpermit
    refine ⟨failure, _, rfl, ?_⟩
    intro other
    unfold recordTerminal
    dsimp only
    split_ifs
    · show admission.held other = _
      rw [Control.held_admitPermit hpermit]
      simp [Except.isOk, Except.toBool]
    · show admission.held other = _
      rw [Control.held_admitPermit hpermit]
      simp [Except.isOk, Except.toBool]

/-- Recording changes the records only. -/
theorem recordTerminal_state {record : TerminalRecord} {stored : Bool} :
    (recordTerminal record stored state).2 =
      { state with recorded := state.recorded ++ [record] } := by
  unfold recordTerminal
  dsimp only
  split_ifs
  · rfl
  · rfl

/-- The state after a call whose task was built. -/
theorem serve_built {built : InferenceTask} (h : given.isGranted estimatedTokens state = true) :
    Conserves state (given.serve operation state estimatedTokens (.ok built)).2
      given.tenantId := by
  obtain ⟨admitted, hadmitted, hreleases, hrecorded, hheld⟩ :=
    @admitRequest_granted given operation state estimatedTokens h
  have hafter : (given.serve operation state estimatedTokens (.ok built)).2 =
      (recordTerminal (given.terminalOf operation (given.router built)) given.stored
        (release admitted (.new given.tenantId))).2 := by
    unfold serve
    rw [hadmitted]
    dsimp only
    generalize recordTerminal _ _ _ = outcome
    obtain ⟨recording, after⟩ := outcome
    cases recording with
    | error failure => rfl
    | ok _ => rfl
  rw [hafter, recordTerminal_state]
  have hrelease : release admitted (.new given.tenantId) =
      { admitted with
        admission := admitted.admission.release given.tenantId
        releases := admitted.releases ++ [given.tenantId]
        sound := sound_released } := rfl
  rw [hrelease]
  refine ⟨?_, ?_, ?_⟩
  · show admitted.releases ++ [given.tenantId] = _
    rw [hreleases]
  · intro other
    show (admitted.admission.release given.tenantId).held other = _
    rw [AdmissionController.held_release (admitted.sound _), hheld, hheld]
    have hsound := state.sound given.tenantId
    by_cases hother : other = given.tenantId
    · rw [if_pos hother, if_pos rfl, hother]
      omega
    · rw [if_neg hother, if_neg hother, add_zero]
  · exact ⟨_, congrArg (· ++ [_]) hrecorded⟩

/-- The state after a call whose task was refused: the permit stays held. -/
theorem serve_unbuilt {error : PyError} (h : given.isGranted estimatedTokens state = true) :
    (given.serve operation state estimatedTokens (.error error)).2.releases = state.releases ∧
      (given.serve operation state estimatedTokens (.error error)).2.recorded = state.recorded ∧
      ∀ other, (given.serve operation state estimatedTokens (.error error)).2.admission.held
        other = state.admission.held other + if other = given.tenantId then 1 else 0 := by
  obtain ⟨admitted, hadmitted, hreleases, hrecorded, hheld⟩ :=
    @admitRequest_granted given operation state estimatedTokens h
  unfold serve
  rw [hadmitted]
  exact ⟨hreleases, hrecorded, hheld⟩

theorem serve_refused (h : given.isGranted estimatedTokens state = false) (other : String) :
    (given.serve operation state estimatedTokens task).2.admission.held other =
      state.admission.held other := by
  obtain ⟨failure, after, hrefused, hheld⟩ :=
    @admitRequest_refused given operation state estimatedTokens h
  unfold serve
  rw [hrefused]
  exact hheld other

/-- **One call.**  A granted call conserves its permit exactly when the task is built. -/
theorem serve_conserves_iff (h : given.isGranted estimatedTokens state = true) :
    Conserves state (given.serve operation state estimatedTokens task).2 given.tenantId ↔
      ∃ built, task = .ok built := by
  cases task with
  | ok built => exact ⟨fun _ => ⟨built, rfl⟩, fun _ => serve_built h⟩
  | error error =>
      constructor
      · intro hconserves
        have hreleased := hconserves.released
        rw [(serve_unbuilt h).1] at hreleased
        have hlength := congrArg List.length hreleased
        rw [List.length_append, List.length_singleton] at hlength
        omega
      · rintro ⟨built, hbuilt⟩
        cases hbuilt

end Circumstances

/-! ### Runs -/

/-- A call of one of the two endpoints. -/
inductive ApiCall (settings : Settings) where
  | generate (payload : GenerateRequest settings) (given : Circumstances)
  | chat (payload : ChatGenerateRequest settings) (given : Circumstances)

namespace ApiCall

/-- The endpoints as a machine; one call is over before the next begins. -/
def machine : Machine ApiState (ApiCall settings) (Except ApiError InferenceResult) where
  step state call :=
    match call with
    | .generate payload given => inferenceGenerate payload given state
    | .chat payload given => inferenceChat payload given state

def given : ApiCall settings → Circumstances
  | .generate _ given => given
  | .chat _ given => given

/-- Whether the call is granted a permit. -/
def isGranted (state : ApiState) : ApiCall settings → Bool
  | .generate payload given => given.isGranted payload.estimatedTokens state
  | .chat payload given => given.isGranted payload.estimatedTokens state

def Constructible : ApiCall settings → Prop
  | .generate payload _ => payload.Constructible
  | .chat payload _ => payload.Constructible

/-- Whether the task of a call is built. -/
def isBuilt : ApiCall settings → Bool
  | .generate payload given => (payload.task given.request).isOk
  | .chat payload given => (payload.task given.request).isOk

/-- The call loses a permit of a tenant. -/
def loses (tenantId : String) (state : ApiState) (call : ApiCall settings) : Bool :=
  call.isGranted state && !call.isBuilt && decide (tenantId = call.given.tenantId)

theorem isBuilt_iff (call : ApiCall settings) : call.isBuilt = true ↔ call.Constructible := by
  have hisOk : ∀ task : Except PyError InferenceTask,
      task.isOk = true ↔ ∃ built, task = .ok built := by
    intro task
    cases task with
    | ok built => exact ⟨fun _ => ⟨built, rfl⟩, fun _ => rfl⟩
    | error error =>
        constructor
        · intro h
          cases h
        · rintro ⟨built, hbuilt⟩
          cases hbuilt
  cases call with
  | generate payload given => exact (hisOk _).trans payload.exists_task
  | chat payload given => exact (hisOk _).trans payload.exists_task

/-- What one endpoint holds more: the permit it was granted and did not give back. -/
theorem serve_held {given : Circumstances} {operation : String} {state : ApiState}
    {estimatedTokens : Int} {task : Except PyError InferenceTask} (tenantId : String) :
    (given.serve operation state estimatedTokens task).2.admission.held tenantId =
      state.admission.held tenantId +
        if (given.isGranted estimatedTokens state && !task.isOk &&
          decide (tenantId = given.tenantId)) = true then 1 else 0 := by
  cases hgranted : given.isGranted estimatedTokens state with
  | false =>
      rw [Circumstances.serve_refused hgranted]
      simp
  | true =>
      cases task with
      | ok built =>
          rw [(Circumstances.serve_built hgranted).held]
          simp [Except.isOk, Except.toBool]
      | error error =>
          rw [(Circumstances.serve_unbuilt hgranted).2.2]
          simp [Except.isOk, Except.toBool]

/-- **Step lemma.** -/
theorem next_held (tenantId : String) (state : ApiState) (call : ApiCall settings) :
    (machine.next state call).admission.held tenantId =
      state.admission.held tenantId + if loses tenantId state call = true then 1 else 0 := by
  cases call with
  | generate payload given => exact serve_held tenantId
  | chat payload given => exact serve_held tenantId

/-- **Run lemma.**  A tenant holds one permit more for each that was lost. -/
theorem after_held (tenantId : String) (state : ApiState) (calls : List (ApiCall settings)) :
    (machine.after state calls).admission.held tenantId =
      state.admission.held tenantId + machine.count (loses tenantId) state calls :=
  @Machine.after_counted _ _ _ machine (loses tenantId) (fun state => state.admission.held tenantId)
    (next_held tenantId) state calls

/-- No tenant loses a permit in a run exactly when every granted call has a task. -/
theorem run_conserves_iff (state : ApiState) (calls : List (ApiCall settings)) :
    (∀ tenantId, (machine.after state calls).admission.held tenantId =
      state.admission.held tenantId) ↔
    ∀ before call later, calls = before ++ call :: later →
      call.isGranted (machine.after state before) = true → call.Constructible := by
  have hzero : ∀ tenantId, ((machine.after state calls).admission.held tenantId =
      state.admission.held tenantId ↔ machine.count (loses tenantId) state calls = 0) := by
    intro tenantId
    rw [after_held]
    omega
  constructor
  · intro hheld before call later hsplit hgranted
    have hkept := Machine.count_eq_zero_iff.mp ((hzero call.given.tenantId).mp (hheld _))
      before call later hsplit
    unfold loses at hkept
    rw [hgranted, decide_eq_true rfl, Bool.true_and, Bool.and_true, Bool.not_eq_false'] at hkept
    exact call.isBuilt_iff.mp hkept
  · intro hbuilt tenantId
    rw [hzero, Machine.count_eq_zero_iff]
    intro before call later hsplit
    unfold loses
    cases hgranted : call.isGranted (machine.after state before) with
    | false => rfl
    | true =>
        rw [call.isBuilt_iff.mpr (hbuilt before call later hsplit hgranted)]
        rfl

end ApiCall

/-- Both endpoints conserve a permit they were granted exactly when the task of the request can
be built, and runs lose no permit exactly when all their granted requests are such. -/
structure PermitsConserved (settings : Settings) : Prop where
  generate : ∀ (payload : GenerateRequest settings) (given : Circumstances) (state : ApiState),
    given.isGranted payload.estimatedTokens state = true →
    (Conserves state (inferenceGenerate payload given state).2 given.tenantId ↔
      payload.Constructible)
  chat : ∀ (payload : ChatGenerateRequest settings) (given : Circumstances) (state : ApiState),
    given.isGranted payload.estimatedTokens state = true →
    (Conserves state (inferenceChat payload given state).2 given.tenantId ↔
      payload.Constructible)
  runs : ∀ (state : ApiState) (calls : List (ApiCall settings)),
    (∀ tenantId, (ApiCall.machine.after state calls).admission.held tenantId =
      state.admission.held tenantId) ↔
    ∀ before call later, calls = before ++ call :: later →
      call.isGranted (ApiCall.machine.after state before) = true → call.Constructible

/-- **Permits.**  Whatever the router and the records do. -/
theorem permits_conserved (settings : Settings) : PermitsConserved settings where
  generate payload _ _ hgranted :=
    (Circumstances.serve_conserves_iff hgranted).trans payload.exists_task
  chat payload _ _ hgranted :=
    (Circumstances.serve_conserves_iff hgranted).trans payload.exists_task
  runs := ApiCall.run_conserves_iff

/-! ### A blank prompt -/

/-- The default settings, outside of production. -/
def defaultSettings : Settings := ⟨100000, 32768, false, by omega, by omega⟩

theorem noText_notEmpty : NotEmpty none := by
  intro text htext
  cases htext

/-- A body with the prompt of one blank. -/
def blankRequest : GenerateRequest defaultSettings where
  preferredEngine := none
  maxTokens := some 1
  temperature := .finite ⟨false, 0, 0, by decide, by decide⟩
  deadlineAt := none
  requiredModel := none
  requiredContextTokens := none
  requiresStructuredOutput := false
  requiresStreaming := false
  requiredAccelerator := none
  requiredTopology := none
  requiredDataLocation := none
  productionOnly := false
  tokens := by
    intro count hcount
    cases hcount
    decide
  bounds := by decide +kernel
  aware := by
    intro deadline hdeadline
    cases hdeadline
  model := noText_notEmpty
  context := by
    intro count hcount
    cases hcount
  accelerator := noText_notEmpty
  topology := noText_notEmpty
  location := noText_notEmpty
  prompt := " "
  requestedModel := "model"
  promptText := by decide
  requestedText := by decide

/-- A service in which every tenant may hold one permit. -/
def freshService : ApiState where
  admission := .new fun _ => some ⟨1, 1, 1, by decide⟩
  releases := []
  recorded := []
  sound _ := le_rfl

/-- A call with the blank prompt; the router would return a failure. -/
def blankCall : Circumstances where
  request := ⟨⟨"request-1", by decide⟩, none⟩
  tenantId := "tenant"
  current := 0
  stored := true
  router _ := .escaped .cancelled

/-- The blank prompt passes the validators and is granted a permit, which is never given back. -/
theorem blank_prompt_loses :
    blankCall.isGranted blankRequest.estimatedTokens freshService = true ∧
      ¬ Conserves freshService (inferenceGenerate blankRequest blankCall freshService).2
        blankCall.tenantId := by
  have hgranted : blankCall.isGranted blankRequest.estimatedTokens freshService = true := by
    decide +kernel
  refine ⟨hgranted, ?_⟩
  intro hconserves
  have hbuilt := (Circumstances.serve_conserves_iff hgranted).mp hconserves
  have hprompt : isBlank " " = false := (blankRequest.exists_task.mp hbuilt).prompt
  have hblank : isBlank " " = true := by decide
  rw [hblank] at hprompt
  cases hprompt

end Api
end Ryuk
