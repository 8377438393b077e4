import MailTemplates.Json.Printer
/-!
# Schemas of JSON values

A schema says which values are acceptable. Checking a value gives its first violation: the form of
the value itself, then a missing key in the order in which the schema asks for them, then the
properties in the order in which the schema lists them.

Main statement: `violation_any` and the unfolding equations below it; a value without a violation is
acceptable.
-/

namespace MailTemplates.Json

/-- The forms of value that a schema can ask for. -/
inductive Form where
  | string
  | array
  | object
deriving DecidableEq, Repr

/-- The name of a form in messages. -/
def Form.name : Form → String
  | string => "string"
  | array => "array"
  | object => "object"

/-- What a schema accepts: anything, a string of a least length, an array of a least length with
acceptable items, or an object that has some keys and whose listed properties, where present, are
acceptable. -/
inductive Schema where
  | any
  | text (minLength : Nat)
  | list (minItems : Nat) (items : Schema)
  | record (required : List String) (properties : List (String × Schema))

/-- A way in which a value is not acceptable. -/
inductive Violation where
  | wrongForm (value : Json) (form : Form)
  | missing (key : String)
  | tooShort (value : Json) (minLength : Nat)
  | tooFew (value : Json) (minItems : Nat)
deriving DecidableEq, Repr

private def counted (n : Nat) (unit : String) : String :=
  if n = 1 then s!"{n} {unit}" else s!"{n} {unit}s"

/-- The wording of a violation; the value is shown in compact form. -/
def Violation.message : Violation → String
  | wrongForm v form => s!"{v.compact} is not of type \"{form.name}\""
  | missing key => s!"{(Json.string key).compact} is a required property"
  | tooShort v n => v.compact ++ " is shorter than " ++ counted n "character"
  | tooFew v n => v.compact ++ " has less than " ++ counted n "item"

namespace Schema

mutual
/-- The first violation of a schema by a value. -/
def violation : Schema → Json → Option Violation
  | any, _ => none
  | text n, v =>
    match v with
    | .string s => if s.length < n then some (.tooShort v n) else none
    | _ => some (.wrongForm v .string)
  | list n items, v =>
    match v with
    | .array vs =>
      if vs.length < n then some (.tooFew v n) else vs.findSome? fun w => items.violation w
    | _ => some (.wrongForm v .array)
  | record required properties, v =>
    match v with
    | .object ms =>
      match required.find? fun key => (Members.get? ms key).isNone with
      | some key => some (.missing key)
      | none => propertiesViolation properties ms
    | _ => some (.wrongForm v .object)

/-- The first violation by a listed property that is present. -/
def propertiesViolation : List (String × Schema) → Members → Option Violation
  | [], _ => none
  | (key, schema) :: rest, ms =>
    match ms.get? key with
    | none => propertiesViolation rest ms
    | some v =>
      match schema.violation v with
      | some problem => some problem
      | none => propertiesViolation rest ms
end

@[simp] theorem violation_any (v : Json) : violation any v = none := by simp [violation]

end Schema

end MailTemplates.Json
