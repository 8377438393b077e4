import MailTemplates.Text.Piece
/-!
# Tables of code points

Which characters form a class, and what a character stands for, is told by tables. A table is rows
of code points in hexadecimal with blanks between the entries: ranges such as `41-5A`, or sequences
such as `41+300`, where `C0:` names the code point that the next sequence belongs to and every
further sequence belongs to the code point that follows.
-/

namespace MailTemplates.Text

/-- The number that hexadecimal digits in capital letters write. -/
def codePoint (cs : List Char) : Nat :=
  cs.foldl (fun n c => n * 16 + if c.isDigit then c.toNat - 0x30 else c.toNat - 0x37) 0

/-- Rows of entries. -/
abbrev Table := List String

private def entries (table : Table) : List (List Char) :=
  table.flatMap fun row => splitAt ' ' row.toList

/-- Ranges of code points, first and last. -/
abbrev Ranges := List (Nat × Nat)

/-- Whether a code point is in one of the ranges. -/
def Ranges.has (r : Ranges) (n : Nat) : Bool := r.any fun (first, last) => first ≤ n && n ≤ last

private def readRange (entry : List Char) : Nat × Nat :=
  match splitAt '-' entry with
  | [first, last] => (codePoint first, codePoint last)
  | _ => (codePoint entry, codePoint entry)

/-- The ranges that a table lists. -/
def ranges (table : Table) : Ranges := (entries table).map readRange

private def readSequences : Nat → List (List Char) → List (Nat × List Nat)
  | _, [] => []
  | n, entry :: rest =>
    match splitAt ':' entry with
    | [key, _] => readSequences (codePoint key) rest
    | _ => (n, (splitAt '+' entry).map codePoint) :: readSequences (n + 1) rest

/-- The sequences that a table lists, each with the code point it belongs to. -/
def sequences (table : Table) : List (Nat × List Nat) := readSequences 0 (entries table)

/-- A run of code points that turn into as many others: every `step`th one from the first to the
last, and what the first one turns into. -/
structure Shift where
  first : Nat
  last : Nat
  step : Nat
  target : Nat
deriving DecidableEq, Repr

/-- What a code point of the run turns into. -/
def Shift.image? (s : Shift) (n : Nat) : Option Nat :=
  if s.first ≤ n && n ≤ s.last && (n - s.first) % s.step == 0 then some (s.target + (n - s.first))
  else none

private def readShift (entry : List Char) : Option Shift := do
  let [run, target] := splitAt '>' entry | none
  let (run, step) := match splitAt '/' run with
    | [run, step] => (run, codePoint step)
    | _ => (run, 1)
  let (first, last) := readRange run
  return ⟨first, last, step, codePoint target⟩

/-- The runs that a table lists, such as `41-5A>61`, or `100-12E/2>101` for every second one. -/
def shifts (table : Table) : List Shift := (entries table).filterMap readShift

end MailTemplates.Text
