import MailTemplates.Handlebars.Scope
import MailTemplates.Json.Printer
import MailTemplates.Json.Parser
/-!
# Helpers

A tag with arguments calls a helper by name. Most helpers compute a value from their arguments; the
others decide what becomes of the body of their block.
-/

namespace MailTemplates.Handlebars

open MailTemplates.Number (Binary64 compareQuotients)

/-! ## Values as conditions and as text -/

/-- The binary number nearest to a number. -/
def numberValue : JsonNumber → Binary64
  | .integer n => (Binary64.ofQuotient (n < 0) n.natAbs 1).getD (.zero false)
  | .float x => x

/-- Whether a value counts as true. A number does unless it is zero or has a short mantissa, or
always if `includeZero` is set. -/
def isTruthy (includeZero : Bool) : Json → Bool
  | .null => false
  | .bool b => b
  | .number n => includeZero || (numberValue n).isNormal
  | .string s => !s.isEmpty
  | .array items => !items.isEmpty
  | .object members => !members.isEmpty

mutual
/-- The text that is shown for a value. -/
def shown : Json → String
  | .null => ""
  | .bool b => if b then "true" else "false"
  | .number n => String.ofList n.text
  | .string s => s
  | .array items => "[" ++ shownItems items ++ "]"
  | .object _ => "[object]"

/-- The texts of items with commas between them. -/
def shownItems : List Json → String
  | [] => ""
  | [v] => shown v
  | v :: w :: vs => shown v ++ ", " ++ shownItems (w :: vs)
end

/-- What stands for a character in a page. -/
def escapedChar (c : Char) : List Char :=
  match c with
  | '<' => "&lt;".toList
  | '>' => "&gt;".toList
  | '"' => "&quot;".toList
  | '&' => "&amp;".toList
  | '\'' => "&#x27;".toList
  | '`' => "&#x60;".toList
  | '=' => "&#x3D;".toList
  | c => [c]

/-- A text with the characters that mean something in a page written as entities. -/
def escapedText (s : String) : String := String.ofList (s.toList.flatMap escapedChar)

/-! ## The order of values -/

private def quotient : JsonNumber → Int × Nat
  | .integer n => (n, 1)
  | .float x => x.toQuotient

private def compareNumbers (a b : JsonNumber) : Ordering :=
  compareQuotients (quotient a) (quotient b)

/-- The number that a text writes, without blanks around it. -/
def numberWritten? (s : String) : Option JsonNumber :=
  if s.any Json.Cursor.isBlank then none
  else
    match Json.parse s with
    | .ok (.number n) => some n
    | _ => none

/-- The order of two values of a kind that has one. Numbers are compared exactly, and with texts
that write numbers. -/
def compareValues : Json → Json → Option Ordering
  | .number a, .number b => some (compareNumbers a b)
  | .string a, .string b => some (compare a b)
  | .bool a, .bool b => some (compare a b)
  | .number a, .string b => (numberWritten? b).map (compareNumbers a ·)
  | .string a, .number b => (numberWritten? a).map (compareNumbers · b)
  | _, _ => none

/-! ## The helpers -/

/-- A question about two values. -/
inductive Comparison where
  | eq | ne | gt | gte | lt | lte
deriving DecidableEq, Repr

/-- The answer; values without an order are neither above nor below each other. -/
def Comparison.holds (c : Comparison) (a b : Json) : Bool :=
  match c with
  | eq => a.same b
  | ne => !a.same b
  | gt => compareValues a b == some .gt
  | gte => compareValues a b == some .gt || compareValues a b == some .eq
  | lt => compareValues a b == some .lt
  | lte => compareValues a b == some .lt || compareValues a b == some .eq

/-- A helper. -/
inductive Helper where
  | each
  | withValue
  | condition (positive : Bool)
  | raw
  | log
  | lookup
  | len
  | comparison (c : Comparison)
  | conjunction
  | disjunction
  | negation
deriving DecidableEq, Repr

/-- The helper of a name. -/
def Helper.named? (name : String) : Option Helper :=
  [("each", Helper.each), ("with", .withValue), ("if", .condition true),
    ("unless", .condition false), ("raw", .raw), ("log", .log), ("lookup", .lookup),
    ("len", .len), ("eq", .comparison .eq), ("ne", .comparison .ne), ("gt", .comparison .gt),
    ("gte", .comparison .gte), ("lt", .comparison .lt), ("lte", .comparison .lte),
    ("and", .conjunction), ("or", .disjunction), ("not", .negation)].lookup name

/-- The arguments and options that a helper is called with. -/
structure Call where
  name : String
  args : List Found
  hash : List (String × Found)

namespace Call

/-- The argument at an index, which has to be there. -/
def arg (call : Call) (owner : String) (i : Nat) : Except RenderProblem Found :=
  match call.args[i]? with
  | some a => .ok a
  | none => .error (.argumentMissing owner i)

/-- The value of an option. -/
def option? (call : Call) (key : String) : Option Json :=
  (call.hash.lookup key).map Found.value

end Call

/-- The number of items, members or bytes of a value; any other value has none. -/
def sizeOfValue : Json → Nat
  | .array items => items.length
  | .object members => members.length
  | .string s => s.utf8ByteSize
  | _ => 0

/-- The item or member of a value that another value names; null if there is none. -/
def memberOf (v key : Json) : Json :=
  match v, key with
  | .array items, .number (.integer n) => if n < 0 then .null else items[n.toNat]?.getD .null
  | .object members, .string k => (Members.get? members k).getD .null
  | _, _ => .null

/-- The value that a helper computes; nothing if it computes none. -/
def Helper.value? (h : Helper) (call : Call) : Option (Except RenderProblem Json) :=
  match h with
  | lookup => some do
    let v ← call.arg "lookup" 0
    let key ← call.arg "lookup" 1
    return memberOf v.value key.value
  | len => some <|
    match call.args[0]? with
    | some a => .ok (.number (.integer (sizeOfValue a.value)))
    | none => .error (.namedArgumentMissing "len" "x")
  | comparison c => some do
    let a ← call.arg call.name 0
    let b ← call.arg call.name 1
    return .bool (c.holds a.value b.value)
  | conjunction => some (.ok (.bool (call.args.all fun a => isTruthy false a.value)))
  | disjunction => some (.ok (.bool (call.args.any fun a => isTruthy false a.value)))
  | negation => some do
    let a ← call.arg "not" 0
    return .bool (!isTruthy false a.value)
  | _ => none

/-- Whether a helper chooses between the branches of a block by the value it computes. -/
def Helper.choosesBranch : Helper → Bool
  | comparison _ | conjunction | disjunction | negation => true
  | _ => false

/-- The levels a message can be logged at. -/
def logLevels : List String := ["error", "warn", "info", "debug", "trace"]

/-- Checks the level that a message is to be logged at; nothing is shown for it. -/
def checkLog (call : Call) : Except RenderProblem Unit :=
  let level := match call.option? "level" with
    | some (.string s) => s
    | _ => "info"
  if logLevels.contains (String.ofList (level.toList.map Char.toLower)) then .ok ()
  else .error (.loggingLevel level)

/-- What a helper that computes no value checks when there is no body for it. -/
def Helper.checkArguments (h : Helper) (call : Call) : Except RenderProblem Unit :=
  match h with
  | each => discard (call.arg "each" 0)
  | withValue => discard (call.arg "with" 0)
  | condition _ => discard (call.arg "if" 0)
  | log => checkLog call
  | _ => .ok ()

end MailTemplates.Handlebars
