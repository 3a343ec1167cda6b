import Ryuk.Workflows.GraphCodec

/-!
# Packets survive storage

A packet is stored as the text of its dictionary and decoded again by every claim.
The dictionary is canonical, so its fields come back sorted by name; each decoder
reads the fields it knows by name and the constructors accept what they had
accepted before.  A deadline is written in UTC and comes back in UTC.
-/

namespace Ryuk
namespace Workflows

open Foundation Foundation.Json Foundation.Text Foundation.Datetime Inference

/-! ### Reading a sorted dictionary -/

theorem mem_keys_sortFields (key : String) (fields : List (String × Json)) :
    key ∈ keys (sortFields fields) ↔ key ∈ keys fields := by
  suffices ∀ done, key ∈ keys
      (fields.foldl (fun sorted field => insertField field.1 field.2 sorted) done) ↔
      key ∈ keys fields ∨ key ∈ keys done by
    simpa [sortFields, keys] using this []
  induction fields with
  | nil => simp [keys]
  | cons field rest ih =>
      intro done
      rw [List.foldl_cons, ih, keys_insertField]
      simp only [keys, List.map_cons, List.mem_cons]
      tauto

/-- A dictionary whose keys are all known passes `**value`. -/
theorem keywords_canon {fields : List (String × Json)} {names : List String}
    (h : ∀ key ∈ keys fields, key ∈ names) :
    keywords (canon (.obj fields)) names = .ok (sortFields (canonFields fields)) := by
  have hknown : (keys (sortFields (canonFields fields))).all names.contains = true := by
    rw [List.all_eq_true]
    intro key hkey
    rw [mem_keys_sortFields, keys_canonFields] at hkey
    exact List.contains_iff_mem.mpr (h key hkey)
  unfold canon keywords
  simp only [hknown, if_true]

/-- A field of a sorted dictionary is the field that was written. -/
theorem lookup_canon {fields : List (String × Json)} (h : (keys fields).Nodup) (key : String) :
    lookup key (sortFields (canonFields fields)) = (lookup key fields).map canon := by
  rw [lookup_sortFields (by rw [keys_canonFields]; exact h), lookup_canonFields]

theorem pop_of_lookup {fields : List (String × Json)} {key : String} {value : Json}
    (h : lookup key fields = some value) :
    pop key fields = .ok (value, fields.filter fun field => decide (field.1 ≠ key)) := by
  unfold pop
  rw [h]

/-! ### What the constructors accepted, they accept again -/

theorem requireText_self (text : Text) (fieldName : String) :
    requireText text.1 fieldName = .ok text :=
  requireText_ok_iff.mpr rfl

theorem optionalText_self (text : Option Text) (fieldName : String) :
    optionalText (text.map (·.1)) fieldName = .ok text := by
  cases text with
  | none => rfl
  | some found =>
      unfold optionalText
      simp only [Option.map_some, requireText_self]
      rfl

theorem chatRole_ofValue_value (role : ChatRole) : ChatRole.ofValue role.value = .ok role := by
  cases role with
  | system => rfl
  | user => rfl
  | assistant => rfl

theorem generationConfig_new_self (generation : GenerationConfig) :
    GenerationConfig.new generation.maxOutputTokens generation.temperature = .ok generation := by
  unfold GenerationConfig.new
  rw [dif_pos generation.positive, dif_pos generation.bounded]

theorem inferenceTask_new_self (task : InferenceTask) :
    InferenceTask.new task.input task.generation task.requirements task.trace task.deadlineAt =
      .ok task := by
  unfold InferenceTask.new
  rw [dif_pos task.aware]

theorem TaskPacket.new_self (packet : TaskPacket) :
    TaskPacket.new packet.task packet.schemaVersion = .ok packet := by
  unfold TaskPacket.new
  rw [dif_pos packet.supported]

/-! ### The parts of a task -/

theorem asOptionalText_optionalStr (text : Option String) :
    asOptionalText (canon (optionalStr text)) = .ok text := by
  cases text with
  | none => rfl
  | some found => rfl

theorem asOptionalInt_optionalInt (value : Option Int) :
    asOptionalInt (canon (optionalInt value)) = .ok value := by
  cases value with
  | none => rfl
  | some found => rfl

theorem asTemperature_temperatureJson (temperature : Temperature) :
    asTemperature (canon (temperatureJson temperature)) = .ok temperature := by
  cases temperature with
  | int value => rfl
  | float value => rfl

theorem decodeMessage_canon (message : ChatMessage) :
    decodeMessage (canon
      (.obj [("role", .str message.role.value), ("content", .str message.content)])) =
      .ok message := by
  have hcanon : canon (.obj [("role", .str message.role.value), ("content", .str message.content)])
      = .obj [("content", .str message.content), ("role", .str message.role.value)] := by
    have hlt : "content" < "role" := by decide
    simp only [canon, canonFields, sortFields, List.foldl_cons, List.foldl_nil, insertField, hlt,
      if_true]
  rw [hcanon]
  unfold decodeMessage
  simp only [except_bind_ok]
  refine ⟨(.str message.role.value, _), rfl, message.role.value, rfl, message.role,
    chatRole_ofValue_value message.role, (.str message.content, _), rfl, message.content, rfl,
    message, ?_, rfl⟩
  unfold ChatMessage.new
  rw [requireText_self]
  rfl

theorem decodeInput_canon (input : TaskInput) :
    ∃ content, pyDict (canon (inputDict input)) = .ok content ∧
      decodeInput content = .ok input := by
  cases input with
  | text input =>
      have hlt : "kind" < "text" := by decide
      refine ⟨[("kind", .str "text"), ("text", .str input.text)], ?_, ?_⟩
      · simp only [inputDict, canon, canonFields, sortFields, List.foldl_cons, List.foldl_nil,
          insertField, hlt, if_true, pyDict]
      · unfold decodeInput
        simp only [except_bind_ok]
        refine ⟨(.str "text", _), rfl, ?_⟩
        simp only [if_true, except_bind_ok]
        refine ⟨_, rfl, (.str input.text, _), rfl, input.text, rfl, input, ?_, rfl⟩
        unfold TextInput.new
        rw [requireText_self]
        rfl
  | chat input =>
      have hlt : "kind" < "messages" := by decide
      let written : ChatMessage → Json := fun message =>
        .obj [("role", .str message.role.value), ("content", .str message.content)]
      have hitems : ∀ messages : List ChatMessage,
          canonItems (messages.map written) = messages.map fun message => canon (written message) := by
        intro messages
        induction messages with
        | nil => rfl
        | cons message rest ih => rw [List.map_cons, canonItems, ih, List.map_cons]
      refine ⟨[("kind", .str "chat"), ("messages", .arr (canonItems (input.messages.map written)))],
        ?_, ?_⟩
      · simp only [inputDict, canon, canonFields, sortFields, List.foldl_cons, List.foldl_nil,
          insertField, hlt, if_true, pyDict, written]
      · unfold decodeInput
        simp only [except_bind_ok]
        refine ⟨(.str "chat", _), rfl, ?_⟩
        have hmessages : (canonItems (input.messages.map written)).mapM decodeMessage =
            .ok input.messages := by
          rw [hitems, mapM_eq_ok, List.forall₂_map_left_iff]
          exact List.forall₂_same.mpr fun message _ => decodeMessage_canon message
        have hother : ¬ Json.str "chat" = .str "text" := by decide
        rw [if_neg hother, if_pos ⟨rfl, rfl⟩]
        show (do
          let messages ← (canonItems (input.messages.map written)).mapM decodeMessage
          let input ← ChatInput.new messages
          pure (TaskInput.chat input)) = .ok (TaskInput.chat input)
        rw [hmessages]
        show (do
          let input ← ChatInput.new input.messages
          pure (TaskInput.chat input)) = .ok (TaskInput.chat input)
        unfold ChatInput.new
        rw [dif_pos input.nonempty]
        rfl

theorem decodeGeneration_canon (generation : GenerationConfig) :
    decodeGeneration (canon (generationDict generation)) = .ok generation := by
  have hnodup : (keys [("max_output_tokens", optionalInt generation.maxOutputTokens),
      ("temperature", temperatureJson generation.temperature)]).Nodup := by
    simp [keys]
  unfold decodeGeneration generationDict
  rw [keywords_canon (by simp [keys])]
  simp only [except_bind_ok]
  refine ⟨_, rfl, generation.maxOutputTokens, ?_, generation.temperature, ?_,
    generationConfig_new_self generation⟩
  · unfold keyword
    rw [lookup_canon hnodup]
    exact asOptionalInt_optionalInt _
  · unfold keyword
    rw [lookup_canon hnodup]
    exact asTemperature_temperatureJson _

theorem routingRequirements_new_self (requirements : RoutingRequirements) :
    RoutingRequirements.new
      { requestedModel := requirements.requestedModel.map (·.1)
        requiredModel := requirements.requiredModel.map (·.1)
        requiredContextTokens := requirements.requiredContextTokens
        requiresStructuredOutput := requirements.requiresStructuredOutput
        requiresStreaming := requirements.requiresStreaming
        requiredAccelerator := requirements.requiredAccelerator.map (·.1)
        requiredTopology := requirements.requiredTopology.map (·.1)
        requiredDataLocation := requirements.requiredDataLocation.map (·.1)
        productionOnly := requirements.productionOnly } = .ok requirements := by
  unfold RoutingRequirements.new
  simp only [except_bind_ok]
  refine ⟨_, optionalText_self requirements.requestedModel _, _,
    optionalText_self requirements.requiredModel _, ?_⟩
  rw [dif_pos requirements.positive]
  simp only [except_bind_ok]
  exact ⟨_, optionalText_self requirements.requiredAccelerator _, _,
    optionalText_self requirements.requiredTopology _, _,
    optionalText_self requirements.requiredDataLocation _, rfl⟩

theorem decodeRequirements_canon (requirements : RoutingRequirements) :
    decodeRequirements (canon (requirementsDict requirements)) = .ok requirements := by
  have hkeyword : ∀ {fields : List (String × Json)} {name : String} {value : Json},
      (keys fields).Nodup → lookup name fields = some value → ∀ default,
        keyword (sortFields (canonFields fields)) name default = canon value := by
    intro fields name value hnodup hvalue default
    unfold keyword
    rw [lookup_canon hnodup, hvalue]
    rfl
  unfold decodeRequirements requirementsDict
  rw [keywords_canon (by simp [keys])]
  simp only [except_bind_ok]
  refine ⟨_, rfl, requirements.requestedModel.map (·.1), ?_, requirements.requiredModel.map (·.1),
    ?_, requirements.requiredContextTokens, ?_, requirements.requiresStructuredOutput, ?_,
    requirements.requiresStreaming, ?_, requirements.requiredAccelerator.map (·.1), ?_,
    requirements.requiredTopology.map (·.1), ?_, requirements.requiredDataLocation.map (·.1), ?_,
    requirements.productionOnly, ?_, routingRequirements_new_self requirements⟩
  -- each field is read under its own name
  · rw [hkeyword (by simp [keys]) rfl]
    exact asOptionalText_optionalStr _
  · rw [hkeyword (by simp [keys]) rfl]
    exact asOptionalText_optionalStr _
  · rw [hkeyword (by simp [keys]) rfl]
    exact asOptionalInt_optionalInt _
  · rw [hkeyword (by simp [keys]) rfl]
    rfl
  · rw [hkeyword (by simp [keys]) rfl]
    rfl
  · rw [hkeyword (by simp [keys]) rfl]
    exact asOptionalText_optionalStr _
  · rw [hkeyword (by simp [keys]) rfl]
    exact asOptionalText_optionalStr _
  · rw [hkeyword (by simp [keys]) rfl]
    exact asOptionalText_optionalStr _
  · rw [hkeyword (by simp [keys]) rfl]
    rfl

theorem decodeTrace_canon (trace : TraceContext) :
    decodeTrace (canon (traceDict trace)) = .ok trace := by
  have hnodup : (keys [("request_id", Json.str trace.requestId),
      ("traceparent", optionalStr trace.traceparent)]).Nodup := by
    simp [keys]
  unfold decodeTrace traceDict
  rw [keywords_canon (by simp [keys])]
  simp only [except_bind_ok]
  refine ⟨_, rfl, (.str trace.requestId, _), pop_of_lookup ?_, trace.requestId, rfl,
    trace.traceparent, ?_, ?_⟩
  · rw [lookup_canon hnodup]
    rfl
  · unfold keyword
    have hother : lookup "traceparent" (sortFields (canonFields
        [("request_id", .str trace.requestId), ("traceparent", optionalStr trace.traceparent)])) =
        some (canon (optionalStr trace.traceparent)) := by
      rw [lookup_canon hnodup]
      rfl
    rw [hother]
    exact asOptionalText_optionalStr _
  · unfold TraceContext.new
    rw [requireText_self]
    rfl

/-- A deadline in UTC is written as it reads. -/
theorem deadlineJson_utc {deadline : DateTime} (h : deadline.utcoffset = some 0) :
    deadlineJson (some deadline) = .ok (.str deadline.reading.isoformat) := by
  have hinstant : DateTime.astimezoneUtc deadline.reading (deadline.utcoffset.getD 0) =
      some deadline.reading := by
    rw [h]
    exact DateTime.astimezoneUtc_zero _
  unfold deadlineJson
  simp only [hinstant]

theorem decodeDeadline_deadlineJson {deadline : Option DateTime} {value : Json}
    (hutc : ∀ found ∈ deadline, found.utcoffset = some 0) (h : deadlineJson deadline = .ok value) :
    decodeDeadline (canon value) = .ok deadline := by
  cases deadline with
  | none =>
      obtain rfl := Except.ok.inj h
      rfl
  | some found =>
      have hoffset : found.utcoffset = some 0 := hutc found rfl
      rw [deadlineJson_utc hoffset] at h
      rw [← Except.ok.inj h]
      unfold canon decodeDeadline
      have hfound : found.reading.utc = found := by
        unfold Instant.utc
        rw [← hoffset]
      simp only [fromisoformat_isoformat, hfound]

/-! ### The packet -/

/-- Whether the deadline of a packet, if it has one, is written in UTC. -/
def TaskPacket.InUtc (packet : TaskPacket) : Prop :=
  ∀ deadline ∈ packet.task.deadlineAt, deadline.utcoffset = some 0

/-- The body of `fromDict` up to the check of the written form. -/
theorem TaskPacket.decode_parts {packet : TaskPacket} {deadline value : Json}
    (hutc : packet.InUtc) (hdeadline : deadlineJson packet.task.deadlineAt = .ok deadline)
    (hvalue : value = canon (.obj [("schema_version", .int packet.schemaVersion),
      ("task", .obj [("input", inputDict packet.task.input),
        ("generation", generationDict packet.task.generation),
        ("requirements", requirementsDict packet.task.requirements),
        ("trace", traceDict packet.task.trace), ("deadline_at", deadline)])]))
    {text : String} (hdict : packet.toDict = .ok value) (htext : canonicalJson value = .ok text) :
    TaskPacket.decode value = .ok packet := by
  obtain ⟨content, hcontent, hinput⟩ := decodeInput_canon packet.task.input
  have hcanon : value = .obj [("schema_version", .int packet.schemaVersion),
      ("task", .obj [("deadline_at", canon deadline),
        ("generation", canon (generationDict packet.task.generation)),
        ("input", canon (inputDict packet.task.input)),
        ("requirements", canon (requirementsDict packet.task.requirements)),
        ("trace", canon (traceDict packet.task.trace))])] := by
    have hversion : ¬ "task" < "schema_version" := by decide
    have hgeneration : "generation" < "input" := by decide
    have hrequirements : ¬ "requirements" < "generation" := by decide
    have hrequirements' : ¬ "requirements" < "input" := by decide
    have htrace : ¬ "trace" < "generation" := by decide
    have htrace' : ¬ "trace" < "input" := by decide
    have htrace'' : ¬ "trace" < "requirements" := by decide
    have hdeadline : "deadline_at" < "generation" := by decide
    rw [hvalue]
    simp only [canon, canonFields, sortFields, List.foldl_cons, List.foldl_nil, insertField,
      hversion, hgeneration, hrequirements, hrequirements', htrace, htrace', htrace'', hdeadline,
      if_true, if_false, String.reduceEq]
  unfold TaskPacket.decode
  rw [hcanon]
  simp only [except_bind_ok]
  refine ⟨_, rfl, (.int packet.schemaVersion, _), rfl, (_, _), rfl, _, rfl,
    (canon (inputDict packet.task.input), _), rfl, content, hcontent, packet.task.input, hinput,
    (canon deadline, _), rfl, (canon (generationDict packet.task.generation), _), rfl,
    packet.task.generation, decodeGeneration_canon _,
    (canon (requirementsDict packet.task.requirements), _), rfl, packet.task.requirements,
    decodeRequirements_canon _, (canon (traceDict packet.task.trace), _), rfl, packet.task.trace,
    decodeTrace_canon _, packet.task.deadlineAt, decodeDeadline_deadlineJson hutc hdeadline, ?_⟩
  rw [if_pos (by rfl)]
  simp only [except_bind_ok]
  refine ⟨packet.task, inferenceTask_new_self packet.task, ?_⟩
  rw [← hcanon]
  refine ⟨packet, packet.new_self, value, hdict, text, htext, text, htext, ?_⟩
  rw [if_pos rfl]
  rfl

/-- **Round trip.**  A packet with its deadline in UTC is read back from its
dictionary. -/
theorem TaskPacket.fromDict_toDict {packet : TaskPacket} {value : Json} (hutc : packet.InUtc)
    (h : packet.toDict = .ok value) : TaskPacket.fromDict value = .ok packet := by
  have hdict := h
  unfold TaskPacket.toDict at h
  simp only [except_bind_ok] at h
  obtain ⟨deadline, hdeadline, text, htext, h⟩ := h
  rw [loadsJson_canonicalJson htext, Except.ok.injEq] at h
  have hdecode : TaskPacket.decode value = .ok packet :=
    TaskPacket.decode_parts hutc hdeadline h.symm hdict (by rw [← h]; exact canonicalJson_canon htext)
  unfold TaskPacket.fromDict
  rw [hdecode]

end Workflows
end Ryuk
