import Ryuk.Foundation.Text
import Ryuk.Inference.Contracts

/-!
# Context contracts

Who asks for context, the sources they select, and the segments they get.  Each
value has a field for the checks its constructor makes.
-/

namespace Ryuk
namespace Context

open Foundation Foundation.Text Inference

/-- What the context store and the builder raise. -/
inductive ContextError where
  | accessDenied
  | conflict (message : String)
  | integrity
  | policyUnavailable
  | valueError (message : String)
  | integrityError
  deriving DecidableEq

/-- `if not condition: raise error`. -/
def requireThat (condition : Bool) (error : ContextError) : Except ContextError Unit :=
  if condition then .ok () else .error error

/-- A string that `_identifier` accepts. -/
def isIdentifier (value : String) : Bool := decide (value ≠ "") && decide (value = strip value)

/-- `_identifier`, and `_id` of the store. -/
def identifier (value field : String) : Except ContextError Unit :=
  requireThat (isIdentifier value)
    (.valueError (field ++ " must be non-empty without outer whitespace."))

inductive ContextTrust where
  | policy
  | user
  | source
  | toolOutput
  | generatedSummary
  | assistantHistory
  deriving DecidableEq

inductive ContextScope where
  | user
  | project
  deriving DecidableEq

/-- Who asks, as the authorization layer says. -/
structure ContextPrincipal where
  tenantId : String
  userId : String
  projectIds : List String
  tenant_checked : isIdentifier tenantId = true
  user_checked : isIdentifier userId = true
  projects_checked : projectIds.all isIdentifier = true

structure ConversationRecord where
  conversationId : String
  tenantId : String
  projectId : String
  ownerId : String
  scope : ContextScope
  createdAt : String
  deriving DecidableEq

/-- A source that is selected, or that an operation stored. -/
structure ContextSourceRef where
  sourceId : String
  revision : String
  required : Bool
  priority : Int
  source_checked : isIdentifier sourceId = true
  revision_checked : isIdentifier revision = true
  deriving DecidableEq

/-- `ContextSourceRef(source_id, revision, required=..., priority=...)`. -/
def ContextSourceRef.new (sourceId revision : String) (required : Bool) (priority : Int) :
    Except ContextError ContextSourceRef :=
  if hsource : isIdentifier sourceId = true then
    if hrevision : isIdentifier revision = true then
      .ok ⟨sourceId, revision, required, priority, hsource, hrevision⟩
    else .error (.valueError "revision must be non-empty without outer whitespace.")
  else .error (.valueError "source_id must be non-empty without outer whitespace.")

/-- The checks of `ContextSegment`. -/
def ContextSegment.check (sourceId sourceRevision : String) (role : ChatRole) (content : String)
    (trust : ContextTrust) (required : Bool) : Except ContextError Unit := do
  identifier sourceId "source_id"
  identifier sourceRevision "source_revision"
  requireThat (!isBlank content) (.valueError "Context content must contain non-whitespace text.")
  requireThat (!(decide (role = .system) && decide (trust ≠ .policy)))
    (.valueError "Only trusted policy content may use the system role.")
  requireThat (!(decide (role ≠ .system) && decide (trust = .policy)))
    (.valueError "Trusted policy content must use the system role.")
  requireThat (!(decide (trust = .policy) && !required))
    (.valueError "Policy context must be required and cannot be dropped.")
  if trust = .assistantHistory then
    requireThat (decide (role = .assistant))
      (.valueError "Assistant history must use the assistant role.")
  else
    requireThat (!(decide (trust ≠ .policy) && decide (role ≠ .user)))
      (.valueError "Non-policy context must use the user role.")

structure ContextSegment where
  sourceId : String
  sourceRevision : String
  role : ChatRole
  content : String
  trust : ContextTrust
  required : Bool
  priority : Int
  checked : ContextSegment.check sourceId sourceRevision role content trust required = .ok ()

/-- `ContextSegment(...)`. -/
def ContextSegment.new (sourceId sourceRevision : String) (role : ChatRole) (content : String)
    (trust : ContextTrust) (required : Bool) (priority : Int) :
    Except ContextError ContextSegment :=
  match h : ContextSegment.check sourceId sourceRevision role content trust required with
  | .ok () => .ok ⟨sourceId, sourceRevision, role, content, trust, required, priority, h⟩
  | .error error => .error error

structure BuiltContext where
  conversationId : String
  tenantId : String
  projectId : String
  segments : List ContextSegment

/-! ### What the constructors return -/

theorem context_bind_ok {α β : Type} {value : Except ContextError α}
    {rest : α → Except ContextError β} {result : β} :
    (value >>= rest) = .ok result ↔ ∃ middle, value = .ok middle ∧ rest middle = .ok result := by
  cases value with
  | error error => simp [bind, Except.bind]
  | ok middle => simp [bind, Except.bind]

/-- A segment has the fields it was made with. -/
theorem ContextSegment.new_ok {sourceId sourceRevision content : String} {role : ChatRole}
    {trust : ContextTrust} {required : Bool} {priority : Int} {segment : ContextSegment}
    (h : ContextSegment.new sourceId sourceRevision role content trust required priority =
      .ok segment) :
    segment.sourceId = sourceId ∧ segment.sourceRevision = sourceRevision ∧ segment.role = role ∧
      segment.content = content ∧ segment.trust = trust := by
  unfold ContextSegment.new at h
  split at h
  · obtain rfl := Except.ok.inj h
    exact ⟨rfl, rfl, rfl, rfl, rfl⟩
  · cases h

theorem ContextSegment.new_checked {sourceId sourceRevision content : String} {role : ChatRole}
    {trust : ContextTrust} {required : Bool} {priority : Int} {segment : ContextSegment}
    (h : ContextSegment.new sourceId sourceRevision role content trust required priority =
      .ok segment) :
    ContextSegment.check sourceId sourceRevision role content trust required = .ok () := by
  unfold ContextSegment.new at h
  split at h
  · assumption
  · cases h

theorem ContextSegment.new_of_checked {sourceId sourceRevision content : String} {role : ChatRole}
    {trust : ContextTrust} {required : Bool} {priority : Int}
    (h : ContextSegment.check sourceId sourceRevision role content trust required = .ok ()) :
    ContextSegment.new sourceId sourceRevision role content trust required priority =
      .ok ⟨sourceId, sourceRevision, role, content, trust, required, priority, h⟩ := by
  unfold ContextSegment.new
  split
  · rfl
  · rename_i error hcheck
    rw [h] at hcheck
    cases hcheck

end Context
end Ryuk
