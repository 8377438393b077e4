import MailTemplates.Handlebars.Scan
/-!
# The tokens of a template

A template is cut into text and tags. Text runs up to the next two braces, a backslash before which
makes them text as well; what starts with two braces has to be a tag of some kind.
-/

namespace MailTemplates.Handlebars

/-- The kinds of block a tag can open. -/
inductive BlockKind where
  | helper
  | decorator
  | ofPartial
deriving DecidableEq, Repr

/-- What a tag does. -/
inductive TagKind where
  | value (escaped : Bool)
  | opens (kind : BlockKind)
  /-- `{{else}}` or `{{^}}`. -/
  | otherwise
  /-- `{{else …}}`: another block in place of the rest. -/
  | chain
  /-- Closes a block, which may have to be that of a partial or one of another kind, as the name in
  it is written. -/
  | closes (byName byPartialName : Bool)
  | decorator
  | partialCall
  | comment
deriving DecidableEq, Repr

/-- A tag: what it does, its inside, and whether it takes the blanks before and behind it. -/
structure Tag where
  kind : TagKind
  expression : Expression
  /-- A literal in it that is no JSON. -/
  bad : Option String := none
  trimBefore : Bool := false
  trimAfter : Bool := false

/-- Where a tag stands: its position, whether only blanks are before it and behind it on its line,
and the spaces and tabs right before it. -/
structure Site where
  position : Position
  blankBefore : Bool
  blankAfter : Bool
  indent : List Char
deriving DecidableEq, Repr

/-- A part of a template; raw text is the body of a block that is not looked at. -/
inductive Token where
  | text (content : List Char)
  | rawText (content : List Char)
  | tag (site : Site) (tag : Tag)

namespace Scan

/-- Two braces, which open a tag. -/
def opening : List Char := ['{', '{']

/-- Two braces, which end a tag. -/
def ending : List Char := ['}', '}']

private def tilde (cs : List Char) : Bool × List Char :=
  match skipBlanks cs with
  | '~' :: rest => (true, skipBlanks rest)
  | rest => (false, rest)

/-- Reads the end of a tag, with a tilde perhaps. -/
private def closing (w : List Char) (cs : List Char) : Option (Bool × List Char) := do
  let (trim, cs) := tilde cs
  return (trim, ← word w cs)

private def bareName (name : String) : Expression := { name := .word name }

/-- Reads the inside and the end of a tag. -/
private def finish (kind : TagKind) (trimBefore : Bool) (line : Scan (Read Expression))
    (w : List Char) : Scan Tag := fun cs => do
  let (e, cs) ← line (skipBlanks cs)
  let (trimAfter, cs) ← closing w cs
  return (⟨kind, e.value, e.bad, trimBefore, trimAfter⟩, cs)

private def elseRest (cs : List Char) : Option (List Char) :=
  match cs with
  | '^' :: rest => some rest
  | _ => word "else".toList cs

/-- Reads what follows two braces in the tags that start another branch of a block. -/
private def branch : Scan Tag := fun cs => do
  let (trimBefore, cs) := tilde cs
  let cs ← elseRest cs
  match closing ending cs with
  | some (trimAfter, rest) =>
    return (⟨.otherwise, bareName "else", none, trimBefore, trimAfter⟩, rest)
  | none => finish .chain trimBefore blockLine ending cs

private def nameOf (read : Scan String) : Scan (Read Expression) := fun cs => do
  let (name, cs) ← read cs
  return (⟨bareName name, none⟩, cs)

/-- Reads what follows the slash in a tag that closes a block; it may leave out the name. -/
private def closer (trimBefore : Bool) : Scan Tag := fun cs =>
  let ends (kind : TagKind) (read : Scan String) := finish kind trimBefore (nameOf read) ending cs
  let byName := ends (.closes true false) identifier
  let byPartialName := ends (.closes false true) partialName
  match byName, byPartialName with
  | some (tag, rest), some _ => some ({ tag with kind := .closes true true }, rest)
  | none, none => ends (.closes true true) fun cs => some ("", cs)
  | _, _ => byName.orElse fun _ => byPartialName

/-- Reads what follows two braces in the tags that are known by a sign. -/
private def signed : Scan Tag := fun cs => do
  let (trimBefore, cs) := tilde cs
  match cs with
  | '#' :: rest =>
    match skipBlanks rest with
    | '*' :: rest => finish (.opens .decorator) trimBefore blockLine ending rest
    | '>' :: rest => finish (.opens .ofPartial) trimBefore partialLine ending rest
    | rest => finish (.opens .helper) trimBefore blockLine ending rest
  | '/' :: rest => closer trimBefore rest
  | '>' :: rest => finish .partialCall trimBefore partialLine ending rest
  | '*' :: rest => finish .decorator trimBefore blockLine ending rest
  | '&' :: rest =>
    finish (.value false) trimBefore (fun cs => (tagName cs).map fun (p, rest) =>
      (⟨{ name := p.value }, p.bad⟩, rest)) ending rest
  | '{' :: rest => do
    let (e, cs) ← valueLine (skipBlanks rest)
    let cs ← word ['}'] (skipBlanks cs)
    let (trimAfter, cs) ← closing ending cs
    return (⟨.value false, e.value, e.bad, trimBefore, trimAfter⟩, cs)
  | _ => finish (.value true) trimBefore valueLine ending cs

/-- The text behind the first occurrence of a word. -/
def behind (w : List Char) : List Char → Option (List Char)
  | [] => if w.isEmpty then some [] else none
  | c :: cs => if w.isPrefixOf (c :: cs) then some ((c :: cs).drop w.length) else behind w cs

/-- Reads what follows the sign of a comment. -/
private def comment (cs : List Char) : Option (List Char) :=
  let long := match skipBlanks cs with
    | '-' :: '-' :: rest => behind ['-', '-', '}', '}'] rest
    | _ => none
  long.orElse fun _ => behind ending cs

/-- The number of backslashes a text starts with. -/
private def backslashes (cs : List Char) : Nat := (cs.takeWhile (· == '\\')).length

/-- Reads text up to a stop word, taking away the backslash that makes two braces text. The text
read so far is the last one first. -/
def textUntil (stop : List Char) : Nat → List Char → List Char → List Char × List Char
  | 0, read, cs => (read.reverse, cs)
  | fuel + 1, read, cs =>
    if stop.isPrefixOf cs then (read.reverse, cs)
    else
      match cs with
      | [] => (read.reverse, [])
      | '\\' :: '{' :: '{' :: '{' :: '{' :: rest =>
        textUntil stop fuel ('{' :: '{' :: '{' :: '{' :: read) rest
      | '\\' :: '{' :: '{' :: rest => textUntil stop fuel ('{' :: '{' :: read) rest
      | c :: rest =>
        let n := backslashes cs
        if 2 ≤ n && opening.isPrefixOf (cs.drop n) then
          textUntil stop fuel (List.replicate (n - 1) '\\' ++ read) (cs.drop n)
        else textUntil stop fuel (c :: read) rest

/-- Reads the tag that opens a block whose body is not looked at. -/
def rawOpening : Scan Tag
  | '{' :: '{' :: '{' :: '{' :: cs =>
    let (trimBefore, cs) := tilde cs
    finish (.opens .helper) trimBefore blockLine (ending ++ ending) cs
  | _ => none

/-- Reads the tag that closes a block whose body is not looked at. -/
def rawClosing : Scan Tag
  | '{' :: '{' :: '{' :: '{' :: cs => do
    let (trimBefore, cs) := tilde cs
    let cs ← word ['/'] cs
    finish (.closes true true) trimBefore (nameOf identifier) (ending ++ ending) cs
  | _ => none

/-- Reads a tag with two or three braces. -/
def tag : Scan Tag
  | '{' :: '{' :: '!' :: rest =>
    (comment rest).map fun rest => (⟨.comment, bareName "", none, false, false⟩, rest)
  | '{' :: '{' :: rest =>
    let triple : Option (Tag × List Char) := match rest with
      | '{' :: inner =>
        let (trimBefore, inner) := tilde inner
        finish (.value false) trimBefore valueLine ('}' :: ending) inner
      | _ => none
    triple.orElse fun _ => (branch rest).orElse fun _ => signed rest
  | _ => none

end Scan

/-! ## Cutting a template -/

/-- A spot in a template: its position, and what its line holds before it, the last character
first, as long as that is blank. -/
structure Spot where
  position : Position := ⟨1, 1⟩
  onBlankLine : Bool := true
  indent : List Char := []

/-- The spot behind a character. -/
def Spot.advance (s : Spot) (c : Char) : Spot :=
  let position :=
    if c = '\n' then ⟨s.position.line + 1, 1⟩ else ⟨s.position.line, s.position.column + 1⟩
  if c = '\n' || c = '\r' then ⟨position, true, []⟩
  else if c = ' ' || c = '\t' then { s with position, indent := c :: s.indent }
  else ⟨position, false, []⟩

/-- The spot where the rest of a text starts. -/
def Spot.skip (s : Spot) (cs rest : List Char) : Spot :=
  (cs.take (cs.length - rest.length)).foldl Spot.advance s

/-- Whether only spaces and tabs stand before the next line break, or nothing at all follows. -/
def startsBlankLine (cs : List Char) : Bool :=
  match cs.dropWhile fun c => c == ' ' || c == '\t' with
  | c :: _ => c == '\n' || c == '\r'
  | [] => cs.isEmpty

/-- Where a tag stands that starts at a spot and is followed by a text. -/
def Spot.site (s : Spot) (rest : List Char) : Site :=
  ⟨s.position, s.onBlankLine, startsBlankLine rest, s.indent.reverse⟩

/-- Reads a block whose body is not looked at, as three tokens. -/
def rawBlock (spot : Spot) : Scan (List Token) := fun cs => do
  let (first, inner) ← Scan.rawOpening cs
  let start := Scan.skipBlanks inner
  let (content, rest) := Scan.textUntil (Scan.opening ++ Scan.opening) (start.length + 1) [] start
  let (last, behind) ← Scan.rawClosing rest
  return ([.tag (spot.site inner) first, .rawText content,
    .tag ((spot.skip cs rest).site behind) last], behind)

/-- Cuts a template into its tokens; the tokens found so far are the last one first. -/
def tokensOnto : Nat → List Token → Spot → List Char → Option (List Token)
  | 0, _, _, _ => none
  | fuel + 1, done, spot, cs =>
    match cs with
    | [] => some done.reverse
    | '{' :: '{' :: '{' :: '{' :: _ =>
      match rawBlock spot cs with
      | none => none
      | some (ts, rest) => tokensOnto fuel (ts.reverse ++ done) (spot.skip cs rest) rest
    | '{' :: '{' :: _ =>
      match Scan.tag cs with
      | none => none
      | some (tag, rest) =>
        tokensOnto fuel (.tag (spot.site rest) tag :: done) (spot.skip cs rest) rest
    | _ =>
      let (text, rest) := Scan.textUntil Scan.opening (cs.length + 1) [] cs
      tokensOnto fuel (.text text :: done) (spot.skip cs rest) rest

/-- The tokens of a template; nothing if something that starts like a tag is none. -/
def tokens (source : List Char) : Option (List Token) := tokensOnto (source.length + 1) [] {} source

end MailTemplates.Handlebars
