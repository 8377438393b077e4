import MailTemplates.Json.Basic
/-!
# Handlebars templates

A template is text, values to be shown and blocks. A block belongs to a helper, which decides
whether and how often its body is rendered; a partial is a template with a name that can be shown in
several places.
-/

namespace MailTemplates.Handlebars

/-- A line and a column, both counted from one. -/
structure Position where
  line : Nat
  column : Nat
deriving DecidableEq, Repr

/-- One step of a reference. -/
inductive PathStep where
  /-- `@root`: from the whole context. -/
  | root
  /-- `@`: among the variables of a block. -/
  | ofBlock
  /-- `..`: in the block outside. -/
  | up
  | named (name : String)
deriving DecidableEq, Repr

/-- A reference to a value, as it is written and as steps. -/
structure Reference where
  text : String
  steps : List PathStep
deriving DecidableEq, Repr

/-- A reference to the value that is looked at. -/
def Reference.current : Reference := ⟨"this", []⟩

/-- What stands for a value: a bare name, a reference, a literal, or a call of a helper. -/
inductive Param where
  | word (name : String)
  | path (reference : Reference)
  | literal (value : Json)
  | call (name : Param) (args : List Param) (hash : List (String × Param))
deriving Repr

/-- The name, arguments and options of a tag, and the names it gives to the values of its block. -/
structure Expression where
  name : Param
  args : List Param := []
  hash : List (String × Param) := []
  blockParams : Option (String × Option String) := none
deriving Repr

/-- A tag with a name and nothing else. -/
def Expression.isNameOnly (e : Expression) : Bool := e.args.isEmpty && e.hash.isEmpty

/-- The name of a tag as it is compared with that of the tag that closes it. -/
def Param.plainName : Param → Option String
  | .word name => some name
  | .path reference => some reference.text
  | _ => none

/-- An element of a template. The positions of elements stand beside them; the block that an
`{{else if}}` opens has none of its own. -/
inductive Element where
  | text (content : String)
  | value (escaped : Bool) (e : Expression)
  | block (e : Expression) (body : List (Option Position × Element))
      (inverse : Option (List (Option Position × Element))) (onOwnLine : Bool)
  | decorator (e : Expression) (body : Option (List (Option Position × Element)))
  | partialCall (e : Expression) (body : Option (List (Option Position × Element)))
      (indent : Option String) (onOwnLine : Bool)
  | comment

/-- A template: its elements with the places where they start. -/
abbrev Template := List (Option Position × Element)

end MailTemplates.Handlebars
