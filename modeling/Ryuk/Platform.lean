import Mathlib.Tactic

/-!
# The platform

The exceptions the modelled code raises, and the parts of the standard library
that are tables or digests rather than logic: they are parameters, and nothing
is assumed of them.

A `ValueError` of the source carries the text the source gives it; where the
interpreter or a library writes the text, only the class is kept.
-/

namespace Ryuk

/-- An exception. -/
inductive PyError where
  | valueError (message : String)
  | workflowConflict (message : String)
  | typeError
  | keyError
  | attributeError
  | overflowError
  | integrityError
  | assertionError
  | recursionError
  deriving DecidableEq

namespace PyError

/-- Whether `except ValueError` catches an exception; `WorkflowConflict` is a
subclass. -/
def isValueError : PyError → Bool
  | .valueError _ | .workflowConflict _ => true
  | .typeError | .keyError | .attributeError | .overflowError | .integrityError
  | .assertionError | .recursionError => false

end PyError

/-! ### Checks -/

/-- `if not condition: raise error`. -/
def ensure (condition : Bool) (error : PyError) : Except PyError Unit :=
  if condition then .ok () else .error error

theorem except_bind_ok {α β : Type} {value : Except PyError α} {rest : α → Except PyError β}
    {result : β} :
    (value >>= rest) = .ok result ↔ ∃ middle, value = .ok middle ∧ rest middle = .ok result := by
  cases value with
  | error error => simp [bind, Except.bind]
  | ok middle => simp [bind, Except.bind]

theorem except_ok_bind {α β : Type} {middle : α} {rest : α → Except PyError β} :
    ((Except.ok middle : Except PyError α) >>= rest) = rest middle := rfl

theorem except_error_bind {α β : Type} {error : PyError} {rest : α → Except PyError β} :
    ((Except.error error : Except PyError α) >>= rest) = .error error := rfl

theorem ensure_bind_ok {α : Type} {condition : Bool} {error : PyError}
    {rest : Unit → Except PyError α} {result : α} :
    (ensure condition error >>= rest) = .ok result ↔ condition = true ∧ rest () = .ok result := by
  unfold ensure
  cases condition with
  | false => simp [bind, Except.bind]
  | true => simp [bind, Except.bind]

theorem ensure_ok {condition : Bool} {error : PyError} {result : Unit} :
    ensure condition error = .ok result ↔ condition = true := by
  unfold ensure
  cases condition with
  | false => simp
  | true => simp

/-- Digests and Unicode tables. -/
structure Platform where
  /-- `hashlib.sha256(text.encode("utf-8")).hexdigest()`. -/
  sha256 : String → String
  /-- `text.casefold()`. -/
  casefold : String → String
  /-- Whether `\w` matches a character. -/
  isWord : Char → Bool

end Ryuk
