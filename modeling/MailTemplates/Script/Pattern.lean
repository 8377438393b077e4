import MailTemplates.Script.CharSet
/-!
# Patterns

A pattern fits whole texts: a question mark stands for a character, a star for any number of them,
and brackets for a character of a set. What is quoted stands for itself.
-/

namespace MailTemplates.Script

/-- A part of a pattern. -/
inductive PatternPart where
  | char (c : Char)
  | any
  | run
  | oneOf (set : CharSet)
deriving DecidableEq, Repr

/-- A pattern. -/
abbrev Pattern := List PatternPart

namespace Pattern

/-- What is behind each of the first characters of a text, the text itself included. -/
def suffixes : List Char → List (List Char)
  | [] => [[]]
  | c :: cs => (c :: cs) :: suffixes cs

/-- Whether a pattern fits a text. -/
def fits : Pattern → List Char → Bool
  | [], cs => cs.isEmpty
  | .char d :: p, cs =>
    match cs with
    | c :: cs => c == d && fits p cs
    | [] => false
  | .any :: p, cs =>
    match cs with
    | _ :: cs => fits p cs
    | [] => false
  | .oneOf set :: p, cs =>
    match cs with
    | c :: cs => set.mem c && fits p cs
    | [] => false
  | .run :: p, cs => (suffixes cs).any (fits p)

/-- The pattern that characters write, of which some are quoted. -/
def ofChars : Nat → List (Char × Bool) → Pattern
  | 0, _ => []
  | _ + 1, [] => []
  | fuel + 1, (c, quoted) :: rest =>
    if quoted then .char c :: ofChars fuel rest
    else
      match c with
      | '*' => .run :: ofChars fuel rest
      | '?' => .any :: ofChars fuel rest
      | '\\' =>
        match rest with
        | (d, _) :: rest => .char d :: ofChars fuel rest
        | [] => [.char '\\']
      | '[' =>
        match CharSet.read? ['!', '^'] (rest.map (·.1)) with
        | some (set, behind) =>
          .oneOf set :: ofChars fuel (rest.drop (rest.length - behind.length))
        | none => .char '[' :: ofChars fuel rest
      | _ => .char c :: ofChars fuel rest

/-- A text without the shortest or longest part at its front or end that a pattern fits. -/
def cut (p : Pattern) (atEnd longest : Bool) (cs : List Char) : List Char :=
  let lengths := List.range (cs.length + 1)
  let tried := if longest then lengths.reverse else lengths
  let part (n : Nat) : List Char := if atEnd then cs.drop (cs.length - n) else cs.take n
  match tried.find? fun n => p.fits (part n) with
  | some n => if atEnd then cs.take (cs.length - n) else cs.drop n
  | none => cs

end Pattern

end MailTemplates.Script
