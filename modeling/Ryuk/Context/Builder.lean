import Ryuk.Context.Store
import Ryuk.Foundation.Noninterference

/-!
# The context builder

`ContextBuilder.build` reads the conversation, the selected sources and the recent
messages one after the other, each under the lock of the store, and puts them
behind the policy of the project.  Other callers may write between the reads, so
each read has its own state of the tables.
-/

namespace Ryuk
namespace Context

open Foundation Foundation.Transaction

/-- What the constructor checks of a configured policy. -/
structure TrustedPolicy (segments : List ContextSegment) : Prop where
  nonempty : segments ≠ []
  trusted : ∀ segment ∈ segments, segment.trust = .policy ∧ segment.required = true
  distinct : (segments.map ContextSegment.sourceId).Nodup

/-- A builder: the policies by tenant and project, as the constructor accepts them. -/
structure ContextBuilder where
  policies : String × String → Option (List ContextSegment)
  recentMessagePriority : Int
  scopes_checked : ∀ scope segments, policies scope = some segments →
    isIdentifier scope.1 = true ∧ isIdentifier scope.2 = true
  policies_checked : ∀ scope segments, policies scope = some segments → TrustedPolicy segments

/-- Two segments with one identifier that may be merged. -/
def ContextSegment.agrees (current segment : ContextSegment) : Bool :=
  decide (current.sourceRevision = segment.sourceRevision) &&
    decide (current.role = segment.role) && decide (current.content = segment.content) &&
    decide (current.trust = segment.trust)

/-- `_append_unique`: identifiers are distinct, so the first segment with the
identifier is the one the index names. -/
def appendUnique : List ContextSegment → ContextSegment →
    Except ContextError (List ContextSegment)
  | [], segment => .ok [segment]
  | current :: rest, segment =>
      if current.sourceId = segment.sourceId then do
        requireThat (current.agrees segment)
          (.conflict "Selected context source identifiers conflict.")
        let merged ← ContextSegment.new current.sourceId current.sourceRevision current.role
          current.content current.trust (current.required || segment.required)
          (max current.priority segment.priority)
        pure (merged :: rest)
      else do
        let appended ← appendUnique rest segment
        pure (current :: appended)

/-- A loop over segments that calls `_append_unique`. -/
def appendAll : List ContextSegment → List ContextSegment →
    Except ContextError (List ContextSegment)
  | ordered, [] => .ok ordered
  | ordered, segment :: rest => do
      let appended ← appendUnique ordered segment
      appendAll appended rest

/-- `build`, with the states its three reads meet. -/
def ContextBuilder.build (platform : Platform) (builder : ContextBuilder)
    (first second third : ContextTables) (actor : ContextPrincipal) (conversationId : String)
    (sources : List ContextSourceRef) (recentMessageLimit : Int) :
    Except ContextError BuiltContext := do
  let found ← (getConversation actor conversationId).outcome first
  match found with
  | none => throw .accessDenied
  | some conversation => do
      requireThat (actor.projectIds.contains conversation.projectId) .accessDenied
      match builder.policies (conversation.tenantId, conversation.projectId) with
      | none => throw .policyUnavailable
      | some policy => do
          requireThat (sources.any ContextSourceRef.required)
            (.valueError "At least one required objective/criteria source is required.")
          let resolved ← (resolveSources platform actor conversationId sources).outcome second
          let recent ← (recentMessages platform actor conversationId recentMessageLimit
            builder.recentMessagePriority).outcome third
          let ordered ← appendAll [] policy
          let ordered ← appendAll ordered (resolved.filter fun segment => segment.required)
          let ordered ← appendAll ordered recent
          let ordered ← appendAll ordered (resolved.filter fun segment => !segment.required)
          pure ⟨conversationId, conversation.tenantId, conversation.projectId, ordered⟩

end Context
end Ryuk
