import Ryuk.Foundation.Document
import Ryuk.Platform

/-!
# Structured output constraints

The object schemas the structured-output slice accepts, and the validation of a
document against one.
-/

namespace Ryuk
namespace Inference

open Foundation Foundation.Json

/-- `item not in properties` over a list, in order: a value that cannot be
hashed raises. -/
def anyUndeclared (properties : List (String × Json)) : List Json → Except PyError Bool
  | [] => .ok false
  | .str name :: rest =>
      if (lookup name properties).isSome then anyUndeclared properties rest else .ok true
  | .arr _ :: _ | .obj _ :: _ => .error .typeError
  | .null :: _ | .bool _ :: _ | .int _ :: _ | .float _ :: _ => .ok true

/-- The checks of `JSONSchemaConstraint`. -/
def checkSchema (schema : List (String × Json)) : Except PyError Unit :=
  if lookup "type" schema = some (.str "object") then
    match lookup "properties" schema with
    | some (.obj properties) =>
        match (lookup "required" schema).getD (.arr []) with
        | .arr required =>
            match anyUndeclared properties required with
            | .ok false => .ok ()
            | .ok true =>
                .error (.valueError "Schema required fields must name declared properties.")
            | .error error => .error error
        | _ => .error (.valueError "Schema required fields must name declared properties.")
    | _ => .error (.valueError "Object schemas require a properties mapping.")
  else .error (.valueError "The first structured-output slice requires an object schema.")

/-- A schema that passed its checks. -/
structure JSONSchemaConstraint where
  schema : List (String × Json)
  checked : checkSchema schema = .ok ()

/-- `JSONSchemaConstraint(schema)`. -/
def JSONSchemaConstraint.new (schema : Json) : Except PyError JSONSchemaConstraint :=
  match schema with
  | .obj fields =>
      match h : checkSchema fields with
      | .ok () => .ok ⟨fields, h⟩
      | .error error => .error error
  | _ => .error .attributeError

/-- The declared properties of a schema. -/
def JSONSchemaConstraint.properties (constraint : JSONSchemaConstraint) :
    List (String × Json) :=
  match lookup "properties" constraint.schema with
  | some (.obj properties) => properties
  | _ => []

/-- The required names of a schema. -/
def JSONSchemaConstraint.required (constraint : JSONSchemaConstraint) : List String :=
  match lookup "required" constraint.schema with
  | some (.arr required) => required.filterMap asString
  | _ => []

/-- Whether a value is an instance of the type a schema names; `none` for a name
that is no type. -/
def hasType (name : String) (item : Document) : Option Bool :=
  match name, item with
  | "string", .str _ => some true
  | "integer", .int _ => some true
  | "number", .int _ => some true
  | "number", .float _ => some true
  | "boolean", .bool _ => some true
  | "array", .arr _ => some true
  | "object", .obj _ => some true
  | "string", _ | "integer", _ | "number", _ | "boolean", _ | "array", _ | "object", _ =>
      some false
  | _, _ => none

/-- Whether an item breaks the rule of its property. -/
def wrongType (rule : Json) (item : Document) : Except PyError Bool :=
  match rule with
  | .obj fields =>
      match lookup "type" fields with
      | none => .ok false
      | some (.str name) => .ok (hasType name item == some false)
      | some (.arr _) | some (.obj _) => .error .typeError
      | some _ => .ok false
  | _ => .ok false

/-- `properties.get(name)`; a name with a surrogate alone is that of no property. -/
def propertyOf (properties : List (String × Json)) (name : List CodePoint) : Option Json :=
  (textOf name).bind fun text => lookup text properties

/-- The type errors of the fields of a value, in order. -/
def typeErrors (properties : List (String × Json)) :
    List (List CodePoint × Document) → Except PyError (List (List CodePoint))
  | [] => .ok []
  | (name, item) :: rest => do
      let wrong ← wrongType ((propertyOf properties name).getD .null) item
      let errors ← typeErrors properties rest
      pure (if wrong then (name ++ points ":wrong_type") :: errors else errors)

/-- `validate_json_schema`. -/
def validateJsonSchema (value : Document) (constraint : JSONSchemaConstraint) :
    Except PyError (List (List CodePoint)) :=
  match value with
  | .obj fields => do
      let missing := (constraint.required.filter fun name =>
        !(lookup (points name) fields).isSome).map fun name => points (name ++ ":required")
      let additional :=
        if lookup "additionalProperties" constraint.schema = some (.bool false) then
          ((keys fields).filter fun name => !(propertyOf constraint.properties name).isSome).map
            (· ++ points ":additional_property")
        else []
      let wrong ← typeErrors constraint.properties fields
      pure (missing ++ additional ++ wrong)
  | _ => .ok [points "root:not_object"]

end Inference
end Ryuk
