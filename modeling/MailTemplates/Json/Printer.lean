import MailTemplates.Json.Basic
/-!
# JSON text of a value

The compact text: no blanks, members in the order of the object, strings with the shortest escapes
and everything that need not be escaped as it is.
-/

namespace MailTemplates

open MailTemplates.Number (digits)

namespace Json

private def hexDigit (n : Nat) : Char := (Nat.digitChar n)

/-- One character inside a quoted string. -/
def escapeChar (c : Char) : List Char :=
  if c = '"' then ['\\', '"']
  else if c = '\\' then ['\\', '\\']
  else if c.toNat = 8 then ['\\', 'b']
  else if c.toNat = 9 then ['\\', 't']
  else if c.toNat = 10 then ['\\', 'n']
  else if c.toNat = 12 then ['\\', 'f']
  else if c.toNat = 13 then ['\\', 'r']
  else if c.toNat < 0x20 then
    ['\\', 'u', '0', '0', hexDigit (c.toNat / 16), hexDigit (c.toNat % 16)]
  else [c]

/-- A string in quotes. -/
def quote (s : String) : List Char := '"' :: s.toList.flatMap escapeChar ++ ['"']

end Json

/-- An integer in decimal. -/
def integerText (n : Int) : List Char :=
  (if n < 0 then ['-'] else []) ++ digits n.natAbs

/-- The JSON text of a number. -/
def JsonNumber.text : JsonNumber → List Char
  | .integer n => integerText n
  | .float x => x.toJsonText

namespace Json

mutual
/-- The compact text of a value. -/
def text : Json → List Char
  | null => "null".toList
  | bool b => (if b then "true" else "false").toList
  | number n => n.text
  | string s => quote s
  | array items => '[' :: itemsText items ++ [']']
  | object members => '{' :: membersText members ++ ['}']

/-- Items with commas between them. -/
def itemsText : List Json → List Char
  | [] => []
  | [v] => text v
  | v :: w :: vs => text v ++ ',' :: itemsText (w :: vs)

/-- Members with commas between them. -/
def membersText : List (String × Json) → List Char
  | [] => []
  | [(k, v)] => quote k ++ ':' :: text v
  | (k, v) :: m :: ms => quote k ++ ':' :: text v ++ ',' :: membersText (m :: ms)
end

/-- `text` as a string. -/
def compact (v : Json) : String := String.ofList v.text

end Json

end MailTemplates
