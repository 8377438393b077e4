import MailTemplates.Script.Arithmetic
import MailTemplates.Script.Machine
import MailTemplates.Script.Pattern
/-!
# Filling in words

A word is filled in before its command is run. What comes from parameters, commands and calculations
outside of double quotes is divided into fields, so that one word may become several or none.

A word becomes a row of pieces first: characters that know whether they were quoted and whether they
may divide, and the boundaries of fields. Only then is it divided. So what a parameter holds can be
cut into fields while the quoted text next to it is not, although both are parts of one word.
-/

namespace MailTemplates.Script

/-- A character or a boundary of a word that is filled in. -/
inductive Piece where
  /-- A character; a separator among those that may divide does so. -/
  | char (c : Char) (quoted divides : Bool)
  /-- Something quoted, perhaps without any character. -/
  | quoted
  /-- The boundary between two arguments. -/
  | boundary
deriving DecidableEq, Repr

/-- A field with the characters that are quoted in it marked. -/
abbrev Field := List (Char × Bool)

/-- The text of a field. -/
def Field.text (f : Field) : String := String.ofList (f.map (·.1))

/-! ## Fields -/

/-- How far pieces have been divided. -/
structure Division where
  done : List Field := []
  /-- The field that is open, the last character first. -/
  field : Option Field := none
  /-- Whether blanks have just ended a field. -/
  afterBlank : Bool := false

namespace Division

private def close (d : Division) : Division :=
  match d.field with
  | some f => { d with done := f.reverse :: d.done, field := none }
  | none => d

private def extend (d : Division) (cs : Field) : Division :=
  { d with field := some (cs ++ d.field.getD []), afterBlank := false }

private def isBlank (c : Char) : Bool := c == ' ' || c == '\t' || c == '\n'

/-- Divides at one more piece. -/
def add (separators : List Char) (d : Division) : Piece → Division
  | .quoted => d.extend []
  | .boundary => { d.close with afterBlank := false }
  | .char c quoted divides =>
    if !divides || !separators.contains c then d.extend [(c, quoted)]
    else if isBlank c then
      { d.close with afterBlank := d.afterBlank || d.field.isSome }
    else if d.field.isNone && d.afterBlank then { d with afterBlank := false }
    else { (d.extend []).close with afterBlank := false }

end Division

/-- The fields of a word that is filled in. -/
def fields (separators : List Char) (pieces : List Piece) : List Field :=
  ((pieces.foldl (Division.add separators) {}).close).done.reverse

/-! ## Words -/

/-- Runs commands and gives what they write. -/
abbrev Capture := Machine → List Command → Machine × List Char

private def marked (quoted divides : Bool) (cs : List Char) : List Piece :=
  (if quoted then [.quoted] else []) ++ cs.map fun c => .char c quoted divides

private def plainText (pieces : List Piece) : String :=
  String.ofList (pieces.filterMap fun
    | .char c _ _ => some c
    | .boundary => some ' '
    | .quoted => none)

/-- The pieces of all arguments, as one text or as several. -/
private def argumentPieces (m : Machine) (quoted divides oneText : Bool) : List Piece :=
  let each := m.arguments.map fun a => marked quoted divides a.toList
  if oneText then
    (if quoted then [.quoted] else []) ++ match m.separators with
      | c :: _ => [Piece.char c quoted false].intercalate each
      | [] => each.flatten
  else [Piece.boundary].intercalate each

/-- Arguments of which the first or last one is cut. -/
private def cutArguments (atEnd : Bool) (cut : String → String) (arguments : List String) :
    List String :=
  if atEnd then (match arguments.reverse with
    | a :: rest => (cut a :: rest).reverse
    | [] => [])
  else
    match arguments with
    | a :: rest => cut a :: rest
    | [] => []

/-- Text without the ends of lines at its end, and without bytes that are zero. -/
def trimOutput (cs : List Char) : List Char :=
  ((cs.filter (· != '\x00')).reverse.dropWhile (· == '\n')).reverse

/-- Fills in the parts of a word. `divides` holds where fields are made, and `wordDivides` where the
text of the word itself is divided too. -/
def pieces (capture : Capture) (divides : Bool) :
    Nat → Bool → Machine → List WordPart → Machine × List Piece
  | 0, _, m, _ => (m, [])
  | _ + 1, _, m, [] => (m, [])
  | fuel + 1, wordDivides, m, part :: parts =>
    let (m, front) : Machine × List Piece := match part with
      | .text quoted cs => (m, marked quoted (wordDivides && !quoted) cs)
      | .output quoted body =>
        let (m, text) := capture m body
        (m, marked quoted (divides && !quoted) (trimOutput text))
      | .number quoted expression =>
        let (m, inner) := pieces capture false fuel false m expression
        let text := plainText inner
        -- A calculation or a part that fails ends the script, so nothing is made of the word.
        if m.jump.isSome then (m, [])
        else
          match Arithmetic.evaluate (fun name => (m.value? name).getD "") text with
          | .error flaw => (m.broken (flaw.message text), [])
          | .ok (n, assigned) =>
            let m := assigned.reverse.foldl (fun m (name, value) => m.assign name value) m
            (m, marked quoted (divides && !quoted) (toString n).toList)
      | .parameter quoted name usage =>
        -- The two names for all arguments differ only inside of double quotes.
        let all := name == "@" || name == "*"
        let free := divides && !quoted
        let oneText := !divides || (quoted && name == "*")
        let value? := if all then some "" else m.value? name
        let whole : List Piece :=
          if all then argumentPieces m quoted free oneText
          else marked quoted free (value?.getD "").toList
        let checked (use : Machine × List Piece) : Machine × List Piece :=
          if value?.isNone && m.has 'u' then (m.broken s!"{name}: parameter not set", [])
          else use
        match usage with
        | .bad => (m.broken "Bad substitution", [])
        | .value => checked (m, whole)
        | .length =>
          checked (m, marked quoted free
            (toString (if all then (plainText whole).length else (value?.getD "").length)).toList)
        | .cut atEnd longest pattern =>
          let (m, inner) := pieces capture false fuel false m pattern
          let marks := inner.filterMap fun
            | .char c quoted _ => some (c, quoted)
            | _ => none
          let p := Pattern.ofChars (marks.length + 1) marks
          let cut (cs : List Char) : List Char := p.cut atEnd longest cs
          checked
            (if all then
              let arguments :=
                cutArguments atEnd (fun a => String.ofList (cut a.toList)) m.arguments
              (m, argumentPieces { m with arguments } quoted free oneText)
            else (m, marked quoted free (cut (value?.getD "").toList)))
        | .fallback kind orEmpty word =>
          -- With a colon an empty value counts as none.
          let there := value?.isSome && !(orEmpty &&
            (if all then (plainText whole).isEmpty else value? == some ""))
          let other (m : Machine) : Machine × List Piece :=
            let (m, inner) := pieces capture divides fuel free m word
            (m, if quoted then .quoted :: inner.map fun
                | .char c _ _ => .char c true false
                | p => p else inner)
          match kind, there with
          | .replace, true => other m
          | .replace, false => (m, if quoted then [.quoted] else [])
          | _, true => (m, whole)
          | .stand, false => other m
          | .assign, false =>
            if isName name then
              let (m, inner) := pieces capture false fuel false m word
              let text := plainText inner
              (m.assign name text, marked quoted free text.toList)
            else (m.broken s!"{name}: bad variable name", [])
          | .complain, false =>
            let (m, inner) := pieces capture false fuel false m word
            let text := plainText inner
            let text := if word.isEmpty then
              (if orEmpty then "parameter not set or null" else "parameter not set") else text
            (m.broken s!"{name}: {text}", [])
    if m.jump.isSome then (m, [])
    else
      let (m, behind) := pieces capture divides fuel wordDivides m parts
      (m, front ++ behind)

/-- The fields of words. -/
def expand (capture : Capture) (fuel : Nat) (m : Machine) : List Word → Machine × List Field
  | [] => (m, [])
  | w :: ws =>
    let (m, front) := pieces capture true fuel false m w
    if m.jump.isSome then (m, [])
    else
      let front := fields m.separators front
      let (m, behind) := expand capture fuel m ws
      (m, front ++ behind)

/-- The text of a word that is not divided. -/
def expandText (capture : Capture) (fuel : Nat) (m : Machine) (w : Word) : Machine × String :=
  let (m, inner) := pieces capture false fuel false m w
  (m, plainText inner)

/-- The pattern that a word writes. -/
def expandPattern (capture : Capture) (fuel : Nat) (m : Machine) (w : Word) : Machine × Pattern :=
  let (m, inner) := pieces capture false fuel false m w
  let marks := inner.filterMap fun
    | .char c quoted _ => some (c, quoted)
    | _ => none
  (m, Pattern.ofChars (marks.length + 1) marks)

end MailTemplates.Script
