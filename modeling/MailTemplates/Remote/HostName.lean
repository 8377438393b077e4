import MailTemplates.Remote.HostCharacter
import MailTemplates.Remote.Punycode
/-!
# Names of hosts

A name is labels with dots between them. Whatever characters it is written with, it is asked for in
ASCII: first every character is taken as what it stands for, then each label that has others than
ASCII characters is given its ASCII form. A label that is in this form already is read, and has to
be one that could have been written.
-/

namespace MailTemplates.Remote.HostName

open Text (splitAt markClass)
open HostCharacter

/-- What the ASCII form of a label starts with. -/
def asciiMark : List Char := "xn--".toList

private def isAscii (label : List Char) : Bool := label.all fun c => c.toNat < 0x80

/-- The label that is meant: one in ASCII form is read, which has to give a label that needs it. -/
def meant (label : List Char) : Option (List Char) :=
  if asciiMark.isPrefixOf label then do
    let read ← Punycode.decode (label.drop asciiMark.length)
    if isAscii read || normal read != some read then none
    return read
  else some label

/-! ## Joiners -/

private def virama : Nat := 9

private def leadsTo (joined : List Joining) (label : List Char) : Bool :=
  match (label.map joining).dropWhile (· == .transparent) with
  | j :: _ => joined.contains j
  | [] => false

/-- Whether the joiners in a label are where they have an effect; `before` is what has been passed,
the last one first. -/
def joins (before : List Char) : List Char → Bool
  | [] => true
  | c :: cs =>
    let behindVirama := match before with
      | b :: _ => markClass b.toNat == virama
      | [] => false
    let fine :=
      if c.toNat = 0x200D then behindVirama
      else if c.toNat = 0x200C then
        behindVirama || (leadsTo [.left, .both] before && leadsTo [.right, .both] cs)
      else true
    fine && joins (c :: before) cs

/-- Whether a label starts with a letter, and its joiners have an effect. -/
def isSound (label : List Char) : Bool :=
  (match label with
    | c :: _ => !isMark c
    | [] => true) && joins [] label

/-! ## Directions -/

/-- Whether a label is written in one direction, starts with a letter and ends with one or a
number. -/
def hasOneDirection (label : List Char) : Bool :=
  let ds := label.map direction
  let endsIn (kinds : List Direction) :=
    (ds.reverse.dropWhile (· == .mark)).head?.any kinds.contains
  let common : List Direction := [.digit, .sign, .separator, .unit, .neutral, .boundary, .mark]
  match ds.head? with
  | none => true
  | some .leftToRight =>
    ds.all (.leftToRight :: common).contains && endsIn [.leftToRight, .digit]
  | some .rightToLeft | some .arabicLetter =>
    ds.all (.rightToLeft :: .arabicLetter :: .arabicDigit :: common).contains &&
      endsIn [.rightToLeft, .arabicLetter, .digit, .arabicDigit] &&
      !(ds.contains .digit && ds.contains .arabicDigit)
  | some _ => false

private def isFromRight (c : Char) : Bool :=
  [Direction.rightToLeft, .arabicLetter, .arabicDigit].contains (direction c)

/-- Whether every label has one direction, which matters only if one is written from right to
left. -/
def haveOneDirection (labels : List (List Char)) : Bool :=
  !labels.any (·.any isFromRight) || labels.all hasOneDirection

/-! ## The name in ASCII -/

/-- A name in ASCII; nothing if it is none. Which ASCII characters it may have is not looked at. -/
def toAscii (name : List Char) : Option (List Char) := do
  let labels ← (splitAt '.' (← normal name)).mapM meant
  if labels.all isSound && haveOneDirection labels then
    some (['.'].intercalate (labels.map Punycode.encode))
  else none

end MailTemplates.Remote.HostName
