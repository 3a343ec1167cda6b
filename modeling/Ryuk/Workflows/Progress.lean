import Ryuk.Workflows.PacketCodec
import Ryuk.Workflows.Refinement

/-!
# What the single-task store does not refuse

The safety results say what a committed call did.  Here are the calls that do
commit: a storable packet is created under a fresh key, and a stored ready packet
is claimed at any time whose lease ends before the calendar does.
-/

namespace Ryuk
namespace Workflows

open Foundation Foundation.Json Foundation.Text Foundation.Datetime Foundation.Transaction

/-- A packet that has a stored form it is read back from. -/
structure TaskPacket.Storable (packet : TaskPacket) : Prop where
  utc : packet.InUtc
  written : ∃ value, packet.toDict = .ok value

/-- A bound policy that has a text. -/
def Printable (binding : Option (List (String × Json))) : Prop :=
  ∀ fields ∈ binding, printable (.obj fields) = true

theorem canonicalJson_printable {value : Json} (h : printable value = true) :
    ∃ text, canonicalJson value = .ok text := by
  unfold canonicalJson dumps
  simp only [h, if_true]
  exact ⟨_, rfl⟩

theorem printable_of_canonicalJson {value : Json} {text : String}
    (h : canonicalJson value = .ok text) : printable value = true := by
  have hdumps := canonicalJson_ok h
  unfold dumps at hdumps
  split_ifs at hdumps with hprintable
  exact hprintable

/-- The dictionary of a packet has a text. -/
theorem TaskPacket.toDict_printable {packet : TaskPacket} {value : Json}
    (h : packet.toDict = .ok value) : printable value = true := by
  unfold TaskPacket.toDict at h
  simp only [except_bind_ok] at h
  obtain ⟨deadline, -, text, htext, h⟩ := h
  rw [loadsJson_canonicalJson htext] at h
  rw [← Except.ok.inj h]
  exact printable_canon _ (printable_of_canonicalJson htext)

/-- A temperature in range has a text. -/
theorem printable_temperature {temperature : Inference.Temperature}
    (h : temperature.inRange = true) : printable (temperatureJson temperature) = true := by
  cases temperature with
  | int value =>
      unfold Inference.Temperature.inRange at h
      rw [Bool.and_eq_true, decide_eq_true_eq, decide_eq_true_eq] at h
      obtain ⟨hlow, hhigh⟩ := h
      interval_cases value
      · rfl
      · rfl
      · rfl
  | float value =>
      cases value with
      | nan => cases h
      | infinity negative => cases h
      | finite value => rfl

theorem printable_optionalStr (text : Option String) : printable (optionalStr text) = true := by
  cases text with
  | none => rfl
  | some found => rfl

theorem printable_optionalInt {value : Option Int}
    (h : ∀ found ∈ value, printable (.int found) = true) :
    printable (optionalInt value) = true := by
  cases value with
  | none => rfl
  | some found => exact h found rfl

theorem printable_inputDict (input : Inference.TaskInput) : printable (inputDict input) = true := by
  cases input with
  | text input => rfl
  | chat input =>
      unfold inputDict
      simp only [printable, printableFields, Bool.and_true]
      induction input.messages with
      | nil => rfl
      | cons message rest ih => simpa [printableItems, printable, printableFields] using ih

/-- **Storable packets.**  A packet with its deadline in UTC is storable as long as
its token counts have a text. -/
theorem TaskPacket.storable {packet : TaskPacket} (hutc : packet.InUtc)
    (htokens : ∀ tokens ∈ packet.task.generation.maxOutputTokens,
      printable (.int tokens) = true)
    (hcontext : ∀ tokens ∈ packet.task.requirements.requiredContextTokens,
      printable (.int tokens) = true) : packet.Storable := by
  refine ⟨hutc, ?_⟩
  obtain ⟨deadline, hdeadline, hprintable⟩ : ∃ deadline,
      deadlineJson packet.task.deadlineAt = .ok deadline ∧ printable deadline = true := by
    have hutc := hutc
    unfold TaskPacket.InUtc at hutc
    cases hfound : packet.task.deadlineAt with
    | none => exact ⟨.null, rfl, rfl⟩
    | some found => exact ⟨_, deadlineJson_utc (hutc found hfound), rfl⟩
  have hversion : printable (.int packet.schemaVersion) = true := by
    rw [packet.supported]
    rfl
  obtain ⟨text, htext⟩ := @canonicalJson_printable (.obj
      [("schema_version", .int packet.schemaVersion), ("task", .obj
        [("input", inputDict packet.task.input),
          ("generation", generationDict packet.task.generation),
          ("requirements", requirementsDict packet.task.requirements),
          ("trace", traceDict packet.task.trace), ("deadline_at", deadline)])]) (by
    have hgeneration : printable (generationDict packet.task.generation) = true := by
      simp only [generationDict, printable, printableFields, printable_optionalInt htokens,
        printable_temperature packet.task.generation.bounded, Bool.and_self]
    have hrequirements : printable (requirementsDict packet.task.requirements) = true := by
      simp only [requirementsDict, printable, printableFields, printable_optionalStr,
        printable_optionalInt hcontext, Bool.and_self]
    have htrace : printable (traceDict packet.task.trace) = true := by
      simp only [traceDict, printable, printableFields, printable_optionalStr, Bool.and_self]
    simp only [printable, printableFields, printable_inputDict, hgeneration, hrequirements, htrace,
      hprintable, Bool.and_self, Bool.and_true]
    exact hversion)
  unfold TaskPacket.toDict
  simp only [except_bind_ok]
  exact ⟨_, deadline, hdeadline, text, htext, loadsJson_canonicalJson htext⟩

theorem letter_notBlank : isBlank "x" = false := by decide

theorem unset_aware : ∀ deadline ∈ (none : Option DateTime),
    deadline.utcoffset.isSome = true := by simp

/-- The packet of one short text, with every other field at its default. -/
def TaskPacket.short : TaskPacket where
  task :=
    { input := .text ⟨⟨"x", letter_notBlank⟩⟩
      generation := ⟨none, .int 0, Inference.noTokens_positive, Inference.zero_inRange⟩
      requirements :=
        ⟨none, none, none, false, false, none, none, none, false, Inference.noTokens_positive⟩
      trace := ⟨⟨"x", letter_notBlank⟩, none⟩
      deadlineAt := none
      aware := unset_aware }
  schemaVersion := 1
  supported := rfl

theorem TaskPacket.short_storable : TaskPacket.short.Storable := by
  apply TaskPacket.storable
  · intro deadline hdeadline
    cases hdeadline
  · intro tokens htokens
    cases htokens
  · intro tokens htokens
    cases htokens

/-- A storable packet is decoded from the text of its dictionary. -/
theorem TaskPacket.Storable.stored {packet : TaskPacket} (h : packet.Storable) {value : Json}
    {encoded : String} (hvalue : packet.toDict = .ok value)
    (hencoded : canonicalJson value = .ok encoded) :
    ∃ stored, loadsJson encoded = .ok stored ∧ TaskPacket.fromDict stored = .ok packet := by
  refine ⟨canon value, loadsJson_canonicalJson hencoded, ?_⟩
  rw [canon_of_canonical value (TaskPacket.toDict_canonical hvalue)]
  exact TaskPacket.fromDict_toDict h.utc hvalue

/-- What the request hash of a workflow covers has a text. -/
theorem hashed_printable {value : Json} {encoded : String} {bound : Option String}
    (hvalue : printable value = true)
    (hbound : ∀ text ∈ bound, ∃ detached, loadsJson text = .ok detached ∧
      printable detached = true) :
    ∃ hashed, (match bound with
      | none => pure encoded
      | some text => do
          let detached ← loadsJson text
          canonicalJson (.obj [("packet", value), ("binding", detached)]) : Except PyError String) =
        .ok hashed := by
  cases bound with
  | none => exact ⟨encoded, rfl⟩
  | some text =>
      obtain ⟨detached, hdetached, hprintable⟩ := hbound text rfl
      have hpair : printable (.obj [("packet", value), ("binding", detached)]) = true := by
        simp [printable, printableFields, hvalue, hprintable]
      obtain ⟨hashed, hhashed⟩ := canonicalJson_printable hpair
      refine ⟨hashed, ?_⟩
      simp only [except_bind_ok]
      exact ⟨detached, hdetached, hhashed⟩

/-- A printable binding has a text, which is read back. -/
theorem bound_printable (binding : Option (List (String × Json))) : Printable binding →
    ∃ bound : Option String,
      (match binding with
        | none => pure none
        | some fields => (canonicalJson (.obj fields)).map some : Except PyError (Option String)) =
          .ok bound ∧
      bound = binding.bind (fun fields => dumps (.obj fields)) ∧
      ∀ text ∈ bound, ∃ detached, loadsJson text = .ok detached ∧ printable detached = true := by
  intro h
  cases binding with
  | none => exact ⟨none, rfl, rfl, fun text htext => by cases htext⟩
  | some fields =>
      obtain ⟨text, htext⟩ := canonicalJson_printable (h fields rfl)
      refine ⟨some text, ?_, ?_, ?_⟩
      · simp only [htext]
        rfl
      · exact (canonicalJson_ok htext).symm
      · intro other hother
        obtain rfl := Option.some.inj hother
        exact ⟨_, loadsJson_canonicalJson htext, printable_canon _ (h fields rfl)⟩

section

variable {platform : Platform} {tenant key uuid4 : String} {packet : TaskPacket}
  {binding : Option (List (String × Json))} {tables : Tables}

/-- A call whose body returns is answered and kept. -/
theorem step_of_body {call : Call} {answer : Answer} {final : Tables}
    (h : call.body platform tables = .ok (answer, final)) :
    (store platform).step tables call = (.ok answer, final) :=
  commit_of_ok h

/-- **Creation.**  A storable packet under a fresh key and a fresh id becomes the
last row, ready, with its binding beside it. -/
theorem create_fresh (htenant : isCanonicalId tenant = true) (hkey : isCanonicalId key = true)
    (hpacket : packet.Storable) (hbinding : Printable binding)
    (hnew : ∀ row ∈ tables.workflows.rows, ¬ (row.tenant = tenant ∧ row.idempotencyKey = key))
    (hid : tables.workflows.find uuid4 = none) (hunbound : tables.bindings.find uuid4 = none) :
    ∃ row final, create platform tenant key packet binding uuid4 tables = .ok (uuid4, final) ∧
      final.workflows.rows = tables.workflows.rows ++ [row] ∧ row.id = uuid4 ∧
      row.tenant = tenant ∧ row.idempotencyKey = key ∧ row.state = .ready ∧
      (∃ stored, loadsJson row.packet = .ok stored ∧ TaskPacket.fromDict stored = .ok packet) ∧
      (∀ other, final.bindings.find other = if other = uuid4 then
        (binding.bind fun fields => dumps (.obj fields)).map fun text => ⟨uuid4, tenant, text⟩
        else tables.bindings.find other) := by
  obtain ⟨value, hvalue⟩ := hpacket.written
  have hdecode : TaskPacket.fromDict value = .ok packet := TaskPacket.fromDict_toDict hpacket.utc hvalue
  obtain ⟨encoded, hencoded⟩ := canonicalJson_printable (TaskPacket.toDict_printable hvalue)
  obtain ⟨bound, hbound, hdumps, hdetached⟩ := bound_printable binding hbinding
  obtain ⟨hashed, hhashed⟩ := @hashed_printable value encoded bound
    (TaskPacket.toDict_printable hvalue) hdetached
  have habsent : tables.workflows.fetchone (fun row =>
      decide (row.tenant = tenant) && decide (row.idempotencyKey = key)) = none := by
    unfold Table.fetchone
    rw [List.find?_eq_none]
    intro row hrow hmatch
    rw [Bool.and_eq_true, decide_eq_true_eq, decide_eq_true_eq] at hmatch
    exact hnew row hrow hmatch
  let row : WorkflowRow :=
    ⟨uuid4, tenant, key, platform.sha256 hashed, encoded, .ready, 0, none, none, none, none⟩
  obtain ⟨workflows, hworkflows⟩ : ∃ next, tables.workflows.insert row = some next :=
    Table.insert_of_fresh hid
  have hadded : tables.addWorkflow row = some { tables with workflows } := by
    unfold Tables.addWorkflow
    rw [hworkflows]
    rfl
  -- the binding row goes in beside it
  obtain ⟨final, hbindings, hrows, hfinds⟩ : ∃ final, insertBinding
      (bound.map fun text => ⟨uuid4, tenant, text⟩) { tables with workflows } = .ok ((), final) ∧
      final.workflows = workflows ∧ ∀ other, final.bindings.find other = if other = uuid4 then
        bound.map fun text => ⟨uuid4, tenant, text⟩ else tables.bindings.find other := by
    clear hbound hhashed hdumps
    cases bound with
    | none =>
        refine ⟨{ tables with workflows }, rfl, rfl, fun other => ?_⟩
        split_ifs with hother
        · rw [hother]
          exact hunbound
        · rfl
    | some text =>
        obtain ⟨bindings, hinsert⟩ : ∃ next, tables.bindings.insert ⟨uuid4, tenant, text⟩ =
            some next := Table.insert_of_fresh hunbound
        refine ⟨{ tables with workflows, bindings }, ?_, rfl, fun other => ?_⟩
        · unfold insertBinding
          simp only [Option.map_some, attempt_ok, Tables.addBinding, hinsert]
        · rw [Table.find_insert hinsert]
          simp only [Option.map_some]
          exact if_congr eq_comm rfl rfl
  refine ⟨row, final.log tenant uuid4 (.state .ready) 0, ?_, ?_, rfl, rfl, rfl, rfl,
    hpacket.stored hvalue hencoded, ?_⟩
  · unfold create identifier
    simp only [require_bind_ok, lift_bind_ok, query_bind_ok]
    refine ⟨htenant, hkey, value, hvalue, packet, hdecode, value, hvalue, encoded, hencoded, bound,
      hbound, hashed, hhashed, ?_⟩
    rw [habsent]
    simp only [attempt_bind_ok]
    refine ⟨_, hadded, ?_⟩
    rw [bind_ok]
    refine ⟨(), final, hbindings, ?_⟩
    unfold event
    rw [write_bind_ok, pure_ok]
    exact ⟨rfl, rfl⟩
  · show final.workflows.rows = _
    rw [hrows, Table.insert_rows hworkflows]
  · intro other
    rw [← hdumps]
    exact hfinds other

/-- **Claim.**  A ready workflow with a readable packet is claimed at every time
whose lease has an end. -/
theorem claim_ready {workflowId owner : String} {leaseSeconds : Int} {now : DateTime}
    {current expiry : Instant} {row : WorkflowRow} {stored : Json}
    (howner : isCanonicalId owner = true) (hlease : 1 ≤ leaseSeconds ∧ leaseSeconds ≤ 3600)
    (hnow : utcNow now = .ok current)
    (hexpiry : current.shift (leaseSeconds * 1000000) = some expiry)
    (hrow : (tables.view workflowId).row = some row) (htenant : row.tenant = tenant)
    (hready : row.state = .ready) (hstored : loadsJson row.packet = .ok stored)
    (hpacket : TaskPacket.fromDict stored = .ok packet) :
    ∃ final, claim tenant workflowId owner leaseSeconds now tables =
      .ok (row.fence + 1, final) := by
  have hfound := fetchone_owned_iff.mpr ⟨hrow, htenant⟩
  have hlimit : (decide (1 ≤ leaseSeconds) && decide (leaseSeconds ≤ 3600)) = true := by
    rw [Bool.and_eq_true, decide_eq_true_eq, decide_eq_true_eq]
    exact hlease
  have hstate : decide (row.state = .ready) = true := decide_eq_true hready
  unfold claim identifier selectWorkflow updateWorkflow event
  simp only [require_bind_ok, lift_bind_ok, query_bind_ok, hfound, write_bind_ok, pure_ok]
  refine ⟨_, howner, hlimit, current, hnow, expiry, ?_, hstate, stored, hstored, packet, hpacket,
    trivial, rfl⟩
  rw [hexpiry]
  rfl

end

end Workflows
end Ryuk
