/-!
# Sets of characters

The sets that patterns write in brackets: characters, ranges and named classes, or all that is not
among them. Only the first 128 characters belong to a class.
-/

namespace MailTemplates.Script

/-- A set of characters: those in one of the ranges, or those in none. -/
structure CharSet where
  negated : Bool
  ranges : List (Char × Char)
deriving DecidableEq, Repr

namespace CharSet

/-- Whether a character is in a set. -/
def mem (s : CharSet) (c : Char) : Bool :=
  s.negated != s.ranges.any fun r => decide (r.1 ≤ c) && decide (c ≤ r.2)

/-- All characters that are not in a set. -/
def complement (s : CharSet) : CharSet := { s with negated := !s.negated }

/-- The ranges of a named class. -/
def named? : String → Option (List (Char × Char))
  | "lower" => some [('a', 'z')]
  | "upper" => some [('A', 'Z')]
  | "alpha" => some [('A', 'Z'), ('a', 'z')]
  | "digit" => some [('0', '9')]
  | "alnum" => some [('0', '9'), ('A', 'Z'), ('a', 'z')]
  | "xdigit" => some [('0', '9'), ('A', 'F'), ('a', 'f')]
  | "blank" => some [('\t', '\t'), (' ', ' ')]
  | "space" => some [('\t', '\r'), (' ', ' ')]
  | "cntrl" => some [('\x00', '\x1f'), ('\x7f', '\x7f')]
  | "punct" => some [('!', '/'), (':', '@'), ('[', '`'), ('\x7b', '~')]
  | "print" => some [(' ', '~')]
  | "graph" => some [('!', '~')]
  | _ => none

/-- The class that a text starts with, behind its opening bracket and colon, and what follows. -/
def class? (cs : List Char) : Option (List (Char × Char) × List Char) :=
  let name := cs.takeWhile Char.isAlpha
  match cs.drop name.length with
  | ':' :: ']' :: rest => (named? (String.ofList name)).map fun r => (r, rest)
  | _ => none

/-- Reads the ranges of a set up to the bracket that closes it. A bracket that comes first does not.
-/
def readRanges : Nat → Bool → List (Char × Char) → List Char →
    Option (List (Char × Char) × List Char)
  | 0, _, _, _ => none
  | _ + 1, _, _, [] => none
  | fuel + 1, first, done, cs =>
    match cs, first with
    | ']' :: rest, false => some (done.reverse, rest)
    | '[' :: ':' :: rest, _ =>
      match class? rest with
      | some (ranges, rest) => readRanges fuel false (ranges.reverse ++ done) rest
      | none => readRanges fuel false (('[', '[') :: done) (':' :: rest)
    | a :: '-' :: ']' :: rest, _ => readRanges fuel false ((a, a) :: done) ('-' :: ']' :: rest)
    | a :: '-' :: b :: rest, _ => readRanges fuel false ((a, b) :: done) rest
    | a :: rest, _ => readRanges fuel false ((a, a) :: done) rest
    | [], _ => none

/-- Reads a set behind its opening bracket. -/
def read? (negations : List Char) (cs : List Char) : Option (CharSet × List Char) :=
  match cs with
  | c :: rest =>
    let negated := negations.contains c
    (readRanges (cs.length + 1) true [] (if negated then rest else cs)).map fun (ranges, rest) =>
      (⟨negated, ranges⟩, rest)
  | [] => none

end CharSet

end MailTemplates.Script
