import MailTemplates.Json.Printer
import MailTemplates.Text.Blank
import MailTemplates.Text.Entities
import MailTemplates.Text.Piece
import MailTemplates.Text.Word
/-!
# Placeholders

A document asks for a translation by `<%= key %>` or `${key}`, and for one with its markup
characters escaped by `<%- key %>`. Keys are words joined by dots, and every dot goes one object
deeper. A `<% … %>` without a sign is a block to be evaluated, and a document that has one is
refused. Inserted text is never looked at again.
-/

namespace MailTemplates

open Text (Recogniser Piece pieces trim splitAt isWord)

/-- What stands between the brackets of a placeholder. -/
inductive Placeholder where
  /-- A block to be evaluated, which is not supported. -/
  | block
  /-- The value of a key, with its markup characters escaped or as it is. -/
  | value (escaped : Bool) (key : List Char)
deriving DecidableEq, Repr

/-- Why a placeholder cannot be filled. -/
inductive PlaceholderProblem where
  | block (source : String)
  | badKey (source : String)
  | untranslated (key : String)
deriving DecidableEq, Repr

/-- The wording of a problem. -/
def PlaceholderProblem.message : PlaceholderProblem → String
  | block source => s!"unsupported evaluate block '{source}'"
  | badKey source => s!"unsupported placeholder '{source}'"
  | untranslated key => s!"no translation for '{key}'"

namespace Placeholder

/-- The characters before the first `%>`, if there is one. -/
def untilClose : List Char → List Char → Option (List Char)
  | _, [] => none
  | before, c :: cs =>
    if c = '%' && cs.head? == some '>' then some before.reverse else untilClose (c :: before) cs

/-- The characters before the first `}`, if there is one. -/
def untilBrace (cs : List Char) : Option (List Char) :=
  let before := cs.takeWhile (· != '}')
  if (cs.drop before.length).isEmpty then none else some before

/-- Recognises what stands between `<%` and `%>`, or between `${` and `}`. -/
def recognise : Recogniser Placeholder
  | '<' :: '%' :: '=' :: cs =>
    (untilClose [] cs).map fun key => (.value false (trim key), key.length + 4)
  | '<' :: '%' :: '-' :: cs =>
    (untilClose [] cs).map fun key => (.value true (trim key), key.length + 4)
  | '<' :: '%' :: cs => (untilClose [] cs).map fun body => (.block, body.length + 3)
  | '$' :: '{' :: cs => (untilBrace cs).map fun key => (.value false (trim key), key.length + 2)
  | _ => none

/-! ## Keys and their values -/

/-- A key: words joined by dots, where `$` counts as a letter. -/
def isKey (key : List Char) : Bool :=
  (splitAt '.' key).all fun part => !part.isEmpty && part.all fun c => isWord c || c == '$'

/-- The value reached from another one through objects, key by key. -/
def walk : Json → List String → Option Json
  | v, [] => some v
  | v, part :: parts =>
    match v.get? part with
    | none => none
    | some w => walk w parts

/-- The value of a dotted key. -/
def lookup (table : Members) (key : List Char) : Option Json :=
  walk (.object table) ((splitAt '.' key).map String.ofList)

/-- The text a value contributes: a string as it is, nothing for `null`, JSON text for the rest. -/
def valueText : Json → List Char
  | .string s => s.toList
  | .null => []
  | v => v.text

/-- What takes the place of a placeholder. -/
def expand (table : Members) (source : List Char) :
    Placeholder → Except PlaceholderProblem (List Char)
  | .block => .error (.block (String.ofList source))
  | .value escaped key =>
    if isKey key then
      match lookup table key with
      | none => .error (.untranslated (String.ofList key))
      | some v => .ok (if escaped then Text.Entities.escape (valueText v) else valueText v)
    else .error (.badKey (String.ofList source))

end Placeholder

/-- What takes the place of a piece of a document. -/
def expandPiece (table : Members) : Piece Placeholder → Except PlaceholderProblem (List Char)
  | .plain c => .ok [c]
  | .token source p => p.expand table source

/-- The document with every placeholder filled from a table; the first one that cannot be filled is
reported. -/
def interpolate (table : Members) (source : List Char) : Except PlaceholderProblem (List Char) := do
  let parts ← (pieces Placeholder.recognise source).mapM (expandPiece table)
  return parts.flatten

end MailTemplates
