import Ryuk.Foundation.JsonLines
import Ryuk.Workflows.Progress

/-!
# The dependency envelope

`bind_dependency_artifacts` hands accepted results to a node in band: a marker and one
line of JSON after the author's text, or in a last message of the user.  The line
contains no line break, so where it was appended it can be taken off again, and the
entries it was made from can be read from it.  Nothing keeps an author from writing
such a line: whether there were dependencies at all is not in the text.
-/

namespace Ryuk
namespace Workflows

open Foundation Foundation.Json Foundation.Text Inference

variable {platform : Platform}

/-- One accepted dependency: the node and its artifact. -/
abbrev Dependency (platform : Platform) := String × StoredArtifact platform

/-- `artifact.payload().get("output")`. -/
def StoredArtifact.output (artifact : StoredArtifact platform) : Json :=
  (lookup "output" artifact.content).getD .null

def dependencyEntry (dependency : Dependency platform) : Json :=
  .obj
    [("node_id", .str dependency.1), ("artifact_id", .str dependency.2.ref.artifactId),
      ("sha256", .str dependency.2.ref.sha256), ("output", dependency.2.output)]

def dependencyEnvelope (dependencies : List (Dependency platform)) : Json :=
  .obj
    [("schema_version", .int 1),
      ("accepted_dependencies", .arr (dependencies.map dependencyEntry))]

/-- The marker with the line of JSON. -/
def dependencyMarker (envelope : String) : String :=
  "RYUK_ACCEPTED_DEPENDENCIES_JSON:\n" ++ envelope

/-- The input with the marker appended. -/
def appendMarker (marker : String) : TaskInput → Except PyError TaskInput
  | .text input => (TextInput.new (input.text.1 ++ "\n\n" ++ marker)).map .text
  | .chat input => do
      let message ← ChatMessage.new .user marker
      let bound ← ChatInput.new (input.messages ++ [message])
      pure (.chat bound)

/-- `bind_dependency_artifacts`. -/
def bindDependencyArtifacts (packet : TaskPacket) (dependencies : List (Dependency platform)) :
    Except PyError TaskPacket :=
  if dependencies.isEmpty then pure packet
  else do
    let envelope ← canonicalJson (dependencyEnvelope dependencies)
    let bound ← appendMarker (dependencyMarker envelope) packet.task.input
    TaskPacket.new { packet.task with input := bound } 1

/-! ### The marker -/

/-- The characters of the marker, up to the line break before the envelope. -/
theorem toList_dependencyMarker (envelope : String) :
    (dependencyMarker envelope).toList =
      "RYUK_ACCEPTED_DEPENDENCIES_JSON:".toList ++ '\n' :: envelope.toList := by
  have hfirst : "RYUK_ACCEPTED_DEPENDENCIES_JSON:\n".toList =
      "RYUK_ACCEPTED_DEPENDENCIES_JSON:".toList ++ ['\n'] := by decide
  unfold dependencyMarker
  rw [String.toList_append, hfirst, List.append_assoc, List.singleton_append]

/-- A marker shows its envelope. -/
theorem dependencyMarker_injective {first second : String}
    (h : dependencyMarker first = dependencyMarker second) : first = second := by
  have hlist := congrArg String.toList h
  rw [toList_dependencyMarker, toList_dependencyMarker] at hlist
  have htail := List.append_cancel_left hlist
  exact String.toList_inj.mp (List.cons.inj htail).2

/-- A text with a marker shows the text and the envelope. -/
theorem append_dependencyMarker_injective {text text' first second : String}
    (hfirst : OneLine first.toList) (hsecond : OneLine second.toList)
    (h : text ++ "\n\n" ++ dependencyMarker first = text' ++ "\n\n" ++ dependencyMarker second) :
    text = text' ∧ first = second := by
  have hlist := congrArg String.toList h
  simp only [String.toList_append, toList_dependencyMarker] at hlist
  rw [← List.append_assoc, ← List.append_assoc] at hlist
  obtain ⟨hbefore, hline⟩ := lastLine_injective hfirst hsecond hlist
  rw [List.append_cancel_right_eq, List.append_cancel_right_eq] at hbefore
  exact ⟨String.toList_inj.mp hbefore, String.toList_inj.mp hline⟩

theorem oneLine_canonicalJson {value : Json} {text : String} (h : canonicalJson value = .ok text) :
    OneLine text.toList :=
  oneLine_dumps (canonicalJson_ok h)

/-- A bound text is the author's, a gap and the marker. -/
theorem appendMarker_text {marker : String} {input : TextInput} {bound : TaskInput}
    (h : appendMarker marker (.text input) = .ok bound) :
    ∃ text : TextInput, bound = .text text ∧ text.text.1 = input.text.1 ++ "\n\n" ++ marker := by
  change Except.map TaskInput.text (Except.map TextInput.mk
    (requireText (input.text.1 ++ "\n\n" ++ marker) "text")) = .ok bound at h
  cases hrequired : requireText (input.text.1 ++ "\n\n" ++ marker) "text" with
  | error error =>
      rw [hrequired] at h
      cases h
  | ok text =>
      rw [hrequired] at h
      obtain rfl := Except.ok.inj h
      exact ⟨⟨text⟩, rfl, requireText_ok_iff.mp hrequired⟩

/-- A bound chat is the author's messages and one of the user with the marker. -/
theorem appendMarker_chat {marker : String} {input : ChatInput} {bound : TaskInput}
    (h : appendMarker marker (.chat input) = .ok bound) :
    ∃ (chat : ChatInput) (content : Inference.Text), bound = .chat chat ∧ content.1 = marker ∧
      chat.messages = input.messages ++ [⟨.user, content⟩] := by
  unfold appendMarker ChatMessage.new at h
  cases hrequired : requireText marker "content" with
  | error error =>
      rw [hrequired] at h
      cases h
  | ok content =>
      rw [hrequired] at h
      change (ChatInput.new (input.messages ++ [⟨.user, content⟩]) >>= fun chat =>
        pure (TaskInput.chat chat)) = .ok bound at h
      rw [except_bind_ok] at h
      obtain ⟨chat, hchat, h⟩ := h
      obtain rfl := Except.ok.inj h
      unfold ChatInput.new at hchat
      split_ifs at hchat
      obtain rfl := Except.ok.inj hchat
      exact ⟨_, content, rfl, requireText_ok_iff.mp hrequired, rfl⟩

/-- A text that ends in a marker is not blank. -/
theorem append_marker_written (text envelope : String) :
    isBlank (text ++ dependencyMarker envelope) = false := by
  rw [← Bool.not_eq_true, isBlank_iff]
  intro hspaces
  have hmem : 'R' ∈ (text ++ dependencyMarker envelope).toList := by
    rw [String.toList_append, toList_dependencyMarker]
    exact List.mem_append_right _ (List.mem_append_left _ (by decide))
  cases (by decide : Text.isSpace 'R' ≠ true) (hspaces 'R' hmem)

/-- A marker can be appended to every input. -/
theorem appendMarker_total (envelope : String) (input : TaskInput) :
    ∃ bound, appendMarker (dependencyMarker envelope) input = .ok bound := by
  cases input with
  | text input =>
      have hwritten := append_marker_written (input.text.1 ++ "\n\n") envelope
      show ∃ bound, Except.map TaskInput.text (Except.map TextInput.mk (requireText _ "text")) =
        .ok bound
      rw [requireText, dif_pos hwritten]
      exact ⟨_, rfl⟩
  | chat input =>
      have hwritten := append_marker_written "" envelope
      rw [String.empty_append] at hwritten
      show ∃ bound, (Except.map (ChatMessage.mk .user) (requireText _ "content") >>= _) = .ok bound
      rw [requireText, dif_pos hwritten]
      show ∃ bound, (ChatInput.new (input.messages ++ _) >>= _) = .ok bound
      rw [ChatInput.new, dif_pos (List.append_ne_nil_of_left_ne_nil input.nonempty _)]
      exact ⟨_, rfl⟩

/-- Appending the markers of one-line envelopes is injective. -/
theorem appendMarker_injective {first second : String} {input input' bound : TaskInput}
    (hfirst : OneLine first.toList) (hsecond : OneLine second.toList)
    (h : appendMarker (dependencyMarker first) input = .ok bound)
    (h' : appendMarker (dependencyMarker second) input' = .ok bound) :
    input = input' ∧ first = second := by
  cases input with
  | text input =>
      obtain ⟨text, rfl, htext⟩ := appendMarker_text h
      cases input' with
      | text input' =>
          obtain ⟨text', hsame, htext'⟩ := appendMarker_text h'
          obtain rfl := TaskInput.text.inj hsame
          obtain ⟨hprompt, henvelope⟩ :=
            append_dependencyMarker_injective hfirst hsecond (htext.symm.trans htext')
          obtain ⟨prompt⟩ := input
          obtain ⟨prompt'⟩ := input'
          obtain rfl : prompt = prompt' := Subtype.ext hprompt
          exact ⟨rfl, henvelope⟩
      | chat input' =>
          obtain ⟨chat, content, hchat, -⟩ := appendMarker_chat h'
          cases hchat
  | chat input =>
      obtain ⟨chat, content, rfl, hcontent, hmessages⟩ := appendMarker_chat h
      cases input' with
      | text input' =>
          obtain ⟨text, htext, -⟩ := appendMarker_text h'
          cases htext
      | chat input' =>
          obtain ⟨chat', content', hsame, hcontent', hmessages'⟩ := appendMarker_chat h'
          obtain rfl := TaskInput.chat.inj hsame
          -- the last message is the marker, and the others are the author's
          obtain ⟨hauthor, hlast⟩ :=
            List.append_inj' (hmessages.symm.trans hmessages') rfl
          obtain rfl : content = content' := by
            rw [List.cons.injEq, ChatMessage.mk.injEq] at hlast
            exact hlast.1.2
          obtain ⟨messages, hnonempty⟩ := input
          obtain ⟨messages', hnonempty'⟩ := input'
          obtain rfl : messages = messages' := hauthor
          exact ⟨rfl, dependencyMarker_injective (hcontent.symm.trans hcontent')⟩

/-! ### The entries -/

/-- What an envelope says of a dependency: its node, its artifact, the hash, and the
output up to the order of keys. -/
def entryOf (dependency : Dependency platform) : String × String × String × Json :=
  (dependency.1, dependency.2.ref.artifactId, dependency.2.ref.sha256,
    canon dependency.2.output)

theorem canonItems_eq_map (items : List Json) : canonItems items = items.map canon := by
  induction items with
  | nil => rfl
  | cons item rest ih => rw [canonItems, ih, List.map_cons]

theorem canon_dependencyEntry (dependency : Dependency platform) :
    canon (dependencyEntry dependency) =
      .obj
        [("artifact_id", .str dependency.2.ref.artifactId), ("node_id", .str dependency.1),
          ("output", canon dependency.2.output), ("sha256", .str dependency.2.ref.sha256)] := by
  have hartifact : "artifact_id" < "node_id" := by decide
  have hsha : ¬ "sha256" < "artifact_id" ∧ ¬ "sha256" < "node_id" := by decide
  have houtput : ¬ "output" < "artifact_id" ∧ ¬ "output" < "node_id" ∧ "output" < "sha256" := by
    decide
  have hdistinct : "sha256" ≠ "artifact_id" ∧ "sha256" ≠ "node_id" ∧ "output" ≠ "artifact_id" ∧
      "output" ≠ "node_id" := by decide
  simp only [dependencyEntry, canon, canonFields, sortFields, List.foldl_cons, List.foldl_nil,
    insertField, hartifact, hsha, houtput, hdistinct, if_true, if_false]

theorem canon_dependencyEnvelope (dependencies : List (Dependency platform)) :
    canon (dependencyEnvelope dependencies) =
      .obj
        [("accepted_dependencies", .arr (dependencies.map fun dependency =>
            canon (dependencyEntry dependency))), ("schema_version", .int 1)] := by
  have hentries : canonItems (dependencies.map dependencyEntry) =
      dependencies.map fun dependency => canon (dependencyEntry dependency) := by
    rw [canonItems_eq_map, List.map_map]
    rfl
  have hfirst : "accepted_dependencies" < "schema_version" := by decide
  rw [← hentries, dependencyEnvelope, canon, canonFields, canonFields, canonFields, canon, canon]
  exact congrArg Json.obj (if_pos hfirst)

/-- An envelope shows its entries. -/
theorem dependencyEnvelope_injective {first second : List (Dependency platform)}
    (h : canon (dependencyEnvelope first) = canon (dependencyEnvelope second)) :
    first.map entryOf = second.map entryOf := by
  rw [canon_dependencyEnvelope, canon_dependencyEnvelope] at h
  simp only [Json.obj.injEq, List.cons.injEq, Prod.mk.injEq, Json.arr.injEq, true_and,
    and_true] at h
  induction first generalizing second with
  | nil =>
      cases second with
      | nil => rfl
      | cons other rest => cases h
  | cons dependency rest ih =>
      cases second with
      | nil => cases h
      | cons other others =>
          rw [List.map_cons, List.map_cons, List.cons.injEq, canon_dependencyEntry,
            canon_dependencyEntry] at h
          obtain ⟨hentry, hrest⟩ := h
          simp only [Json.obj.injEq, List.cons.injEq, Prod.mk.injEq, Json.str.injEq, true_and,
            and_true] at hentry
          obtain ⟨hartifact, hnode, houtput, hsha⟩ := hentry
          rw [List.map_cons, List.map_cons, ih hrest]
          unfold entryOf
          rw [hartifact, hnode, houtput, hsha]

/-! ### What can be told from a bound input -/

/-- The author's input and the accepted results are determined by what is sent. -/
def Unforgeable (platform : Platform) : Prop :=
  ∀ (packet other bound bound' : TaskPacket) (dependencies others : List (Dependency platform)),
    bindDependencyArtifacts packet dependencies = .ok bound →
    bindDependencyArtifacts other others = .ok bound' → bound.task.input = bound'.task.input →
    packet.task.input = other.task.input ∧ dependencies.map entryOf = others.map entryOf

/-- The same, once it is known whether there are accepted results. -/
def Recoverable (platform : Platform) : Prop :=
  ∀ (packet other bound bound' : TaskPacket) (dependencies others : List (Dependency platform)),
    bindDependencyArtifacts packet dependencies = .ok bound →
    bindDependencyArtifacts other others = .ok bound' → bound.task.input = bound'.task.input →
    (dependencies = [] ↔ others = []) →
    packet.task.input = other.task.input ∧ dependencies.map entryOf = others.map entryOf

theorem bindDependencyArtifacts_nil (packet : TaskPacket) :
    bindDependencyArtifacts packet ([] : List (Dependency platform)) = .ok packet := rfl

/-- Binding accepted results appends the line of their envelope. -/
theorem bindDependencyArtifacts_ok {packet bound : TaskPacket}
    {dependencies : List (Dependency platform)} (hsome : dependencies ≠ [])
    (h : bindDependencyArtifacts packet dependencies = .ok bound) :
    ∃ envelope, canonicalJson (dependencyEnvelope dependencies) = .ok envelope ∧
      appendMarker (dependencyMarker envelope) packet.task.input = .ok bound.task.input := by
  unfold bindDependencyArtifacts at h
  rw [if_neg (by rwa [List.isEmpty_iff]), except_bind_ok] at h
  obtain ⟨envelope, henvelope, h⟩ := h
  rw [except_bind_ok] at h
  obtain ⟨input, hinput, h⟩ := h
  unfold TaskPacket.new at h
  rw [dif_pos rfl] at h
  obtain rfl := Except.ok.inj h
  exact ⟨envelope, henvelope, hinput⟩

/-- Accepted results that have a JSON text can be bound to every packet. -/
theorem bindDependencyArtifacts_total (packet : TaskPacket)
    {dependencies : List (Dependency platform)}
    (hprintable : printable (dependencyEnvelope dependencies) = true) :
    ∃ bound, bindDependencyArtifacts packet dependencies = .ok bound := by
  unfold bindDependencyArtifacts
  split_ifs
  · exact ⟨packet, rfl⟩
  · obtain ⟨envelope, henvelope⟩ := canonicalJson_printable hprintable
    obtain ⟨input, hinput⟩ := appendMarker_total envelope packet.task.input
    rw [henvelope, except_ok_bind, hinput, except_ok_bind, TaskPacket.new, dif_pos rfl]
    exact ⟨_, rfl⟩

/-- **What is sent shows its parts.**  Among the bindings with accepted results, and
among those without, the input that is sent determines the author's input and the
node, artifact, hash and output of every dependency, in order. -/
theorem bindDependencyArtifacts_recoverable (platform : Platform) : Recoverable platform := by
  intro packet other bound bound' dependencies others hbind hbind' hsame hiff
  by_cases hnone : dependencies = []
  · obtain rfl := hiff.mp hnone
    subst hnone
    rw [bindDependencyArtifacts_nil, Except.ok.injEq] at hbind hbind'
    subst hbind hbind'
    exact ⟨hsame, rfl⟩
  · obtain ⟨envelope, henvelope, hinput⟩ := bindDependencyArtifacts_ok hnone hbind
    obtain ⟨envelope', henvelope', hinput'⟩ :=
      bindDependencyArtifacts_ok (fun hempty => hnone (hiff.mpr hempty)) hbind'
    rw [← hsame] at hinput'
    obtain ⟨hauthor, rfl⟩ := appendMarker_injective (oneLine_canonicalJson henvelope)
      (oneLine_canonicalJson henvelope') hinput hinput'
    exact ⟨hauthor, dependencyEnvelope_injective
      (dumps_injective (canonicalJson_ok henvelope) (canonicalJson_ok henvelope'))⟩

/-! ### An envelope in a prompt -/

/-- A platform on which every text has the empty digest. -/
def flatPlatform : Platform where
  sha256 _ := ""
  casefold text := text
  isWord _ := false

/-- The artifact of an empty object. -/
def emptyArtifact : StoredArtifact flatPlatform where
  ref := ⟨"artifact", "graph", "", 2, 1, "application/json"⟩
  contentJson := "\x7b\x7d"
  content := []
  version := rfl
  media := rfl
  size := by decide
  digest := rfl
  loaded := by decide

theorem bind_emptyArtifact :
    ∃ bound, bindDependencyArtifacts TaskPacket.short [("a", emptyArtifact)] = .ok bound :=
  bindDependencyArtifacts_total TaskPacket.short rfl

/-- The packet whose author wrote the envelope is sent as it is, without any accepted
result. -/
theorem written_envelope_passes : ¬ ∀ platform, Unforgeable platform := by
  intro h
  obtain ⟨bound, hbound⟩ := bind_emptyArtifact
  obtain ⟨-, hentries⟩ := h flatPlatform TaskPacket.short bound bound bound
    [("a", emptyArtifact)] [] hbound (bindDependencyArtifacts_nil bound) rfl
  cases hentries

end Workflows
end Ryuk
