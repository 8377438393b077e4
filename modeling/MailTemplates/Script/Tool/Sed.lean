import MailTemplates.Script.ByteText
import MailTemplates.Script.Regex
import MailTemplates.Script.Tool.Basic
/-!
# Editing lines

The editor takes one line after another, runs its instructions on it and writes what has become of
it. An instruction may be meant for some lines only: a line by its number, the last line, lines in
which an expression is found, or all from one such line to another.

The instructions of a script are kept in one list, and blocks are pairs of instructions that open
and close. So running is a walk over positions in this list: an instruction says what comes next
(`Then`), and the walk goes on with the next one, jumps to a label, or ends for this line. A script
may loop, so the steps on one line are counted.
-/

namespace MailTemplates.Script.Sed

/-- What one line is meant by. -/
inductive Address where
  | number (n : Nat)
  | last
  | matching (expression : Regex) (folding : Bool)
  /-- Every so many lines from one on. -/
  | step (first size : Nat)
  /-- So many lines behind the first. -/
  | further (n : Nat)

/-- The lines that an instruction is for. -/
structure Selector where
  first : Option Address := none
  last : Option Address := none
  negated : Bool := false

/-- How letters are written. -/
inductive Lettering where
  | asTheyAre
  | upper
  | lower
deriving DecidableEq, Repr

/-- A part of what a match is replaced with. -/
inductive Replacement where
  | char (c : Char)
  /-- What a group has taken, or the whole match. -/
  | group (n : Nat)
  /-- How the letters behind this are written, or the next one only. -/
  | letters (l : Lettering) (onlyNext : Bool)

/-- How a substitution is done. -/
structure Manner where
  every : Bool := false
  /-- The first match that is replaced. -/
  which : Nat := 1
  print : Bool := false
  folding : Bool := false
  /-- The file that a changed line is written to. -/
  file : Option String := none

/-- An instruction. -/
inductive Instruction where
  | substitute (expression : Regex) (parts : List Replacement) (manner : Manner)
  | transliterate (pairs : List (Char × Char))
  | delete
  | deleteFirst
  | print
  | printFirst
  | number
  | quit (print : Bool) (status : Nat)
  | next
  | addNext
  | hold (add : Bool)
  | fetch (add : Bool)
  | exchange
  | append (text : List Char)
  | insert (text : List Char)
  | change (text : List Char)
  /-- Shows the line with escapes for what cannot be seen. -/
  | reveal
  | writeTo (file : String)
  | label (name : List Char)
  /-- Goes on behind a label, or to the next line: always, or depending on a substitution. -/
  | branch (ifReplaced : Option Bool) (name : List Char)
  /-- Instructions up to the one that closes them. -/
  | block
  | close

/-- Instructions with the lines they are for. -/
abbrev Program := List (Selector × Instruction)

/-! ## Reading -/

private def skipBlanks (cs : List Char) : List Char :=
  cs.dropWhile fun c => c == ' ' || c == '\t'

private def skipSeparators (cs : List Char) : List Char :=
  cs.dropWhile fun c => c == ' ' || c == '\t' || c == '\n' || c == ';'

/-- The text up to a mark, and what is behind it. A backslash in front of the mark goes, and in an
expression an escaped `n` is an end of line. Inside of brackets the mark is a character like others.
-/
private def delimited (mark : Char) (expression : Bool) :
    Nat → List Char → List Char → Option (List Char × List Char)
  | 0, _, _ => none
  | _ + 1, _, [] => none
  | fuel + 1, done, '\\' :: c :: cs =>
    if c == mark || c == '\n' then delimited mark expression fuel (c :: done) cs
    else if c == 'n' && expression then delimited mark expression fuel ('\n' :: done) cs
    else delimited mark expression fuel (c :: '\\' :: done) cs
  | fuel + 1, done, c :: cs =>
    if c == mark then some (done.reverse, cs)
    else if c == '\n' && expression then none
    else
      let set : Option (CharSet × List Char) :=
        if c == '[' && expression then CharSet.read? ['^'] cs else none
      match set with
      | some (_, rest) =>
        let inside := cs.take (cs.length - rest.length)
        delimited mark expression fuel (inside.reverse ++ c :: done) rest
      | none => delimited mark expression fuel (c :: done) cs

private def lettering? : Char → Option Replacement
  | 'U' => some (.letters .upper false)
  | 'L' => some (.letters .lower false)
  | 'E' => some (.letters .asTheyAre false)
  | 'u' => some (.letters .upper true)
  | 'l' => some (.letters .lower true)
  | _ => none

private def replacement : Nat → List Char → List Replacement
  | 0, _ => []
  | _ + 1, [] => []
  | fuel + 1, '\\' :: c :: cs =>
    (if c.isDigit then .group (c.toNat - 0x30)
      else if c == 'n' then .char '\n'
      else if c == 't' then .char '\t'
      else (lettering? c).getD (.char c)) :: replacement fuel cs
  | fuel + 1, '&' :: cs => .group 0 :: replacement fuel cs
  | fuel + 1, c :: cs => .char c :: replacement fuel cs

private def unescaped : List Char → List Char
  | '\\' :: 'n' :: cs => '\n' :: unescaped cs
  | '\\' :: c :: cs => c :: unescaped cs
  | c :: cs => c :: unescaped cs
  | [] => []

/-- Reads an address, if there is one. -/
private def address? (extended : Bool) (cs : List Char) :
    Except String (Option Address × List Char) :=
  let expression (mark : Char) (rest : List Char) : Except String (Option Address × List Char) :=
    match delimited mark true (rest.length + 1) [] rest with
    | none => .error "unterminated address regex"
    | some (text, rest) =>
      let (folding, rest) := match rest with
        | 'I' :: rest => (true, rest)
        | _ => (false, rest)
      match Regex.read? extended text with
      | some r => .ok (some (.matching r folding), rest)
      | none => .error "unterminated address regex"
  match cs with
  | '$' :: rest => .ok (some .last, rest)
  | '/' :: rest => expression '/' rest
  | '\\' :: mark :: rest => expression mark rest
  | _ =>
    let ds := cs.takeWhile Char.isDigit
    match cs.drop ds.length with
    | '~' :: rest =>
      let size := rest.takeWhile Char.isDigit
      .ok (some (.step (digitsValue ds) (digitsValue size)), rest.drop size.length)
    | rest => .ok (if ds.isEmpty then none else some (.number (digitsValue ds)), rest)

/-- Reads the lines that an instruction is for. -/
private def selector (extended : Bool) (cs : List Char) : Except String (Selector × List Char) := do
  let (first, rest) ← address? extended cs
  let (last, rest) ← match first, skipBlanks rest with
    | some _, ',' :: rest =>
      match skipBlanks rest with
      | '+' :: rest =>
        let ds := rest.takeWhile Char.isDigit
        pure (some (Address.further (digitsValue ds)), rest.drop ds.length)
      | rest =>
        match ← address? extended rest with
        | (none, _) => throw "unexpected ','"
        | found => pure found
    | _, rest => pure (none, rest)
  match skipBlanks rest with
  | '!' :: rest => return ({ first, last, negated := true }, skipBlanks rest)
  | rest => return ({ first, last }, rest)

/-- Reads the flags of a substitution. -/
private def manner : Nat → Manner → List Char → Except String (Manner × List Char)
  | 0, m, cs => .ok (m, cs)
  | fuel + 1, m, cs =>
    match cs with
    | 'g' :: cs => manner fuel { m with every := true } cs
    | 'p' :: cs => manner fuel { m with print := true } cs
    | 'i' :: cs | 'I' :: cs => manner fuel { m with folding := true } cs
    | 'w' :: cs =>
      let name := (skipBlanks cs).takeWhile (· != '\n')
      .ok ({ m with file := some (String.ofList name) }, (skipBlanks cs).drop name.length)
    | c :: _ =>
      let ds := cs.takeWhile Char.isDigit
      if !ds.isEmpty then manner fuel { m with which := digitsValue ds } (cs.drop ds.length)
      else if " \t\n;#\x7d".toList.contains c then .ok (m, cs)
      else .error "unknown option to \x60s'"
    | [] => .ok (m, [])

/-- The rest of a line as the text of an instruction. -/
private def lineText (cs : List Char) : List Char × List Char :=
  let cs := match skipBlanks cs with
    | '\\' :: '\n' :: rest => rest
    | '\\' :: rest => rest
    | rest => rest
  let rec go : List Char → List Char → List Char × List Char
    | done, [] => (done.reverse, [])
    | done, '\\' :: c :: rest => go (c :: done) rest
    | done, '\n' :: rest => (done.reverse, rest)
    | done, c :: rest => go (c :: done) rest
  let (text, rest) := go [] cs
  (text ++ ['\n'], rest)

/-- Checks what is behind an instruction. -/
private def ended (i : Instruction) (cs : List Char) : Except String (Instruction × List Char) :=
  match skipBlanks cs with
  | [] => .ok (i, [])
  | c :: rest =>
    if "\n;#\x7d".toList.contains c then .ok (i, c :: rest)
    else .error "extra characters after command"

/-- The name of a label, and what is behind it. -/
private def labelText (cs : List Char) : List Char × List Char :=
  let cs := skipBlanks cs
  let text := cs.takeWhile fun c => c != '\n' && c != ';'
  ((skipBlanks text.reverse).reverse, cs.drop text.length)

/-- Reads an instruction behind the lines it is for. -/
private def instruction (extended : Bool) (cs : List Char) :
    Except String (Instruction × List Char) :=
  match cs with
  | [] => .error "missing command"
  | c :: rest =>
    match c with
    | 's' =>
      match rest with
      | [] => .error "unterminated \x60s' command"
      | mark :: rest => do
        let some (text, rest) := delimited mark true (rest.length + 1) [] rest
          | throw "unterminated \x60s' command"
        let some (other, rest) := delimited mark false (rest.length + 1) [] rest
          | throw "unterminated \x60s' command"
        let (m, rest) ← manner (rest.length + 1) {} rest
        let some r := Regex.read? extended text
          | throw "Invalid preceding regular expression"
        ended (.substitute r (replacement (other.length + 1) other) m) rest
    | 'y' =>
      match rest with
      | [] => .error "unterminated \x60y' command"
      | mark :: rest => do
        let some (a, rest) := delimited mark false (rest.length + 1) [] rest
          | throw "unterminated \x60y' command"
        let some (b, rest) := delimited mark false (rest.length + 1) [] rest
          | throw "unterminated \x60y' command"
        let (a, b) := (unescaped a, unescaped b)
        if a.length != b.length then
          throw "strings for \x60y' command are different lengths"
        ended (.transliterate (a.zip b)) rest
    | 'd' => ended .delete rest
    | 'D' => ended .deleteFirst rest
    | 'p' => ended .print rest
    | 'P' => ended .printFirst rest
    | '=' => ended .number rest
    | 'n' => ended .next rest
    | 'N' => ended .addNext rest
    | 'h' => ended (.hold false) rest
    | 'H' => ended (.hold true) rest
    | 'g' => ended (.fetch false) rest
    | 'G' => ended (.fetch true) rest
    | 'x' => ended .exchange rest
    | 'q' | 'Q' =>
      let behind := skipBlanks rest
      let ds := behind.takeWhile Char.isDigit
      ended (.quit (c == 'q') (digitsValue ds)) (behind.drop ds.length)
    | 'a' =>
      let (text, rest) := lineText rest
      .ok (.append text, rest)
    | 'i' =>
      let (text, rest) := lineText rest
      .ok (.insert text, rest)
    | 'c' =>
      let (text, rest) := lineText rest
      .ok (.change text, rest)
    | 'l' => ended .reveal rest
    | 'w' =>
      let name := (skipBlanks rest).takeWhile (· != '\n')
      .ok (.writeTo (String.ofList name), (skipBlanks rest).drop name.length)
    | ':' =>
      let (name, rest) := labelText rest
      .ok (.label name, rest)
    | 'b' =>
      let (name, rest) := labelText rest
      .ok (.branch none name, rest)
    | 't' =>
      let (name, rest) := labelText rest
      .ok (.branch (some true) name, rest)
    | 'T' =>
      let (name, rest) := labelText rest
      .ok (.branch (some false) name, rest)
    | '\x7b' => .ok (.block, rest)
    | '\x7d' => ended .close rest
    | _ => .error (String.ofList ("unknown command: \x60".toList ++ [c, '\'']))

/-- Reads instructions. -/
private def program : Nat → Bool → List Char → Except String Program
  | 0, _, _ => .ok []
  | fuel + 1, extended, cs =>
    match skipSeparators cs with
    | [] => .ok []
    | '#' :: rest => program fuel extended (rest.dropWhile (· != '\n'))
    | cs => do
      let (s, rest) ← selector extended cs
      let (i, rest) ← instruction extended rest
      let more ← program fuel extended rest
      return (s, i) :: more

/-! ## Running -/

/-- The state of the editor. -/
structure State where
  /-- What ends a line. -/
  mark : Char
  left : List (List Char)
  /-- Whether the last line has no end. -/
  openEnd : Bool
  line : List Char := []
  /-- Whether the line has an end. -/
  lineEnds : Bool := true
  count : Nat := 0
  held : List Char := []
  heldEnds : Bool := true
  /-- The output, the last text first. -/
  output : List (List Char) := []
  /-- Whether an end of line is owed to the output. -/
  owed : Bool := false
  /-- What is written behind the line. -/
  behind : List Char := []
  replaced : Bool := false
  /-- The ranges of lines that have begun, by instruction, and the line that ends them if known. -/
  ranges : List (Nat × Option Nat) := []
  /-- What is written to files, the last text first. -/
  files : List (String × List Char) := []
  ended : Option Nat := none

namespace State

private def isLast (s : State) : Bool := s.left.isEmpty

/-- Writes what is owed. -/
private def settle (s : State) : State :=
  if s.owed then { s with output := [s.mark] :: s.output, owed := false } else s

private def write (s : State) (cs : List Char) : State :=
  let s := s.settle
  { s with output := cs :: s.output }

/-- Writes the line, with its end if it has one. -/
private def writeLine (s : State) : State :=
  if s.lineEnds then s.write (s.line ++ [s.mark]) else { s.write s.line with owed := true }

/-- Writes what is to stand behind the line. -/
private def writeBehind (s : State) : State :=
  if s.behind.isEmpty then s else { s.write s.behind with behind := [] }

private def writeFile (s : State) (file : String) : State :=
  { s with files := (file, s.line ++ if s.lineEnds then [s.mark] else []) :: s.files }

/-- Takes the next line, behind another text. -/
private def take (s : State) (front line : List Char) (left : List (List Char)) : State :=
  { s with line := front ++ line, left, count := s.count + 1
           lineEnds := !(left.isEmpty && s.openEnd) }

private def fits (s : State) : Address → Bool
  | .number n => s.count == n
  | .step first size =>
    first ≤ s.count && (if size == 0 then s.count == first else (s.count - first) % size == 0)
  | .last => s.isLast
  | .matching r folding => (r.find? folding s.line).isSome
  | .further _ => false

/-- Whether an instruction is for the current line, which may begin or end a range. -/
private def selects (s : State) (index : Nat) (lines : Selector) : Bool × State :=
  let others := s.ranges.filter fun r => r.1 != index
  let result (b : Bool) (s : State) : Bool × State := (b != lines.negated, s)
  match lines.first, lines.last with
  | none, _ => result true s
  | some a, none => result (s.fits a) s
  | some a, some b =>
    match s.ranges.lookup index with
    | none =>
      -- a range from line 0 may end in the first line
      let fromStart := match a with
        | .number 0 => s.count == 1
        | _ => false
      if fromStart then
        result true (if s.fits b then s else { s with ranges := (index, none) :: others })
      else if !s.fits a then result false s
      else
        let endLine : Option Nat := match b with
          | .number n => some n
          | .further n => some (s.count + n)
          | _ => none
        let only := endLine.any (· ≤ s.count)
        result true (if only then s else { s with ranges := (index, endLine) :: others })
    | some endLine =>
      let closes : Bool := match endLine with
        | some n => n ≤ s.count
        | none => s.fits b
      -- a line behind the end of a range by number is no part of it
      let behindEnd := endLine.any (· < s.count)
      let s := if closes then { s with ranges := others } else s
      if behindEnd then result (s.fits a) s else result true s

end State

private def lettered (l : Lettering) (c : Char) : Char :=
  match l with
  | .asTheyAre => c
  | .upper => c.toUpper
  | .lower => c.toLower

/-- What a match is replaced with. -/
private def made (m : Regex.Match) (parts : List Replacement) : List Char :=
  let put (state : List Char × Lettering × Option Lettering) (cs : List Char) :
      List Char × Lettering × Option Lettering :=
    let (done, all, next) := state
    match next, cs with
    | some l, c :: cs => (done ++ lettered l c :: cs.map (lettered all), all, none)
    | _, _ => (done ++ cs.map (lettered all), all, next)
  (parts.foldl (fun state part =>
    match part with
    | .char c => put state [c]
    | .group 0 => put state m.taken
    | .group n => put state ((m.groups.lookup n).getD [])
    | .letters l true => (state.1, state.2.1, some l)
    | .letters l false => (state.1, l, none)) ([], .asTheyAre, none)).1

/-- A line with matches replaced: one of them, or all from one on. -/
def replaced (r : Regex) (parts : List Replacement) (m : Manner) (line : List Char) :
    Option (List Char) :=
  let found := (r.findAll m.folding line).drop (m.which - 1)
  let chosen := if m.every then found else found.take 1
  if chosen.isEmpty then none
  else
    let (cs, position) := chosen.foldl (fun (done, position) (m : Regex.Match) =>
      (done ++ (m.before.drop position) ++ made m parts, m.before.length + m.taken.length)) ([], 0)
    some (cs ++ line.drop position)

/-- Where a label is. -/
private def labelIndex (program : Program) (name : List Char) : Nat :=
  (program.findIdx? fun (_, i) => match i with
    | .label n => n == name
    | _ => false).getD program.length

/-- The instruction that closes the block that starts in front of another. -/
private def closing (program : Program) : Nat → Nat → Nat → Nat
  | 0, _, index => index
  | fuel + 1, depth, index =>
    match program[index]? with
    | some (_, .close) => if depth == 0 then index else closing program fuel (depth - 1) (index + 1)
    | some (_, .block) => closing program fuel (depth + 1) (index + 1)
    | some _ => closing program fuel depth (index + 1)
    | none => index

/-- What is done after an instruction. -/
private inductive Then where
  | go (index : Nat)
  | finish (print : Bool)
  | restart

private def firstLine (cs : List Char) : List Char := cs.takeWhile (· != '\n')

/-- A text with escapes for what cannot be seen, in lines of a width. -/
private def visible (cs : List Char) : List Char :=
  let shown (c : Char) : List Char :=
    match c with
    | '\\' => ['\\', '\\']
    | '\n' => ['\\', 'n']
    | '\t' => ['\\', 't']
    | '\r' => ['\\', 'r']
    | '\x07' => ['\\', 'a']
    | '\x08' => ['\\', 'b']
    | '\x0c' => ['\\', 'f']
    | '\x0b' => ['\\', 'v']
    | _ =>
      if ' ' ≤ c && c ≤ '~' then [c]
      else
        let ds := Nat.toDigits 8 c.toNat
        '\\' :: (List.replicate (3 - ds.length) '0' ++ ds)
  let (done, _) := cs.foldl (fun (done, width) c =>
    let text := shown c
    if 69 < width + text.length then (done ++ '\\' :: '\n' :: text, text.length)
    else (done ++ text, width + text.length)) (([] : List Char), 0)
  done ++ ['$', '\n']

/-- What an instruction does, and what is done then. -/
private def act (quiet : Bool) (program : Program) (s : State) (index : Nat) (selected : Bool)
    (lines : Selector) (i : Instruction) : State × Then :=
  let onward : Then := .go (index + 1)
  match i, selected with
  | .block, false => (s, .go (closing program program.length 0 (index + 1)))
  | _, false => (s, onward)
  | .block, true | .close, _ | .label _, _ => (s, onward)
  | .substitute r parts m, _ =>
    match replaced r parts m s.line with
    | none => (s, onward)
    | some line =>
      let s := { s with line, replaced := true }
      let s := if m.print then s.writeLine else s
      (match m.file with
        | some file => s.writeFile file
        | none => s, onward)
  | .transliterate pairs, _ =>
    ({ s with line := s.line.map fun c => (pairs.lookup c).getD c }, onward)
  | .delete, _ => (s, .finish false)
  | .deleteFirst, _ =>
    let first := firstLine s.line
    if first.length == s.line.length then (s, .finish false)
    else ({ s with line := s.line.drop (first.length + 1) }, .restart)
  | .print, _ => (s.writeLine, onward)
  | .printFirst, _ =>
    let first := firstLine s.line
    (if first.length == s.line.length then s.writeLine else s.write (first ++ [s.mark]), onward)
  | .number, _ => (s.write ((toString s.count).toList ++ ['\n']), onward)
  | .reveal, _ => (s.write (visible s.line), onward)
  | .writeTo file, _ => (s.writeFile file, onward)
  | .quit print status, _ => ({ s with ended := some status }, .finish print)
  | .next, _ =>
    match s.left with
    | [] => (s, .finish true)
    | line :: left =>
      let s := if quiet then s else s.writeLine
      (s.writeBehind.take [] line left, onward)
  | .addNext, _ =>
    match s.left with
    | [] => (s, .finish true)
    | line :: left => (s.writeBehind.take (s.line ++ [s.mark]) line left, onward)
  | .hold false, _ => ({ s with held := s.line, heldEnds := s.lineEnds }, onward)
  | .hold true, _ =>
    ({ s with held := s.held ++ s.mark :: s.line, heldEnds := s.lineEnds }, onward)
  | .fetch false, _ => ({ s with line := s.held, lineEnds := s.heldEnds }, onward)
  | .fetch true, _ =>
    ({ s with line := s.line ++ s.mark :: s.held, lineEnds := s.heldEnds }, onward)
  | .exchange, _ =>
    ({ s with line := s.held, held := s.line, lineEnds := s.heldEnds, heldEnds := s.lineEnds },
      onward)
  | .append text, _ => ({ s with behind := s.behind ++ text }, onward)
  | .insert text, _ => (s.write text, onward)
  | .change text, _ =>
    let inRange := lines.last.isSome && (s.ranges.lookup index).isSome && !lines.negated
    (if inRange then s else s.write text, .finish false)
  | .branch condition name, _ =>
    let target := if name.isEmpty then program.length else labelIndex program name
    match condition with
    | none => (s, .go target)
    | some wanted =>
      ({ s with replaced := false }, if s.replaced == wanted then .go target else onward)

/-- How many steps the instructions may take on one line. -/
private def stepsPerLine : Nat := 100000

/-- Runs the instructions on a line. -/
private def cycle (quiet : Bool) (program : Program) : Nat → State → Nat → State
  | 0, s, _ => s
  | fuel + 1, s, index =>
    let finished (s : State) (print : Bool) : State :=
      let s := if print && !quiet then s.writeLine else s
      let s := s.writeBehind
      if s.ended.isSome then s.settle else s
    match program[index]? with
    | none => finished s true
    | some (lines, i) =>
      let (selected, s) := s.selects index lines
      match act quiet program s index selected lines i with
      | (s, .go index) => cycle quiet program fuel s index
      | (s, .finish print) => finished s print
      | (s, .restart) => cycle quiet program fuel s 0

/-- Runs the instructions on all lines. -/
private def edit (quiet : Bool) (program : Program) : Nat → State → State
  | 0, s => s
  | fuel + 1, s =>
    match s.left with
    | [] => s
    | line :: left =>
      let s := cycle quiet program stepsPerLine { s.take [] line left with replaced := false } 0
      if s.ended.isSome then s else edit quiet program fuel s

/-- Runs the instructions on a text. -/
private def edited (quiet : Bool) (mark : Char) (program : Program) (text : List Char) : State :=
  let lines := ByteText.linesBy mark text
  let start : State :=
    { mark, left := lines, openEnd := !text.isEmpty && text.getLast? != some mark }
  edit quiet program (lines.length + 1) start

/-! ## The tool -/

private def files (program : Program) : List String :=
  program.filterMap fun (_, i) =>
    match i with
    | .substitute _ _ m => m.file
    | .writeTo file => some file
    | _ => none

private def written (program : Program) (s : State) : List WrittenFile :=
  (files program).eraseDups.map fun name =>
    { name, text := (s.files.filter fun f => f.1 == name).reverse.flatMap (·.2) }

private def options : OptionTable :=
  { plain := "nErsuz", valued := "ef", attached := "i"
    long := [("quiet", 'n'), ("silent", 'n'), ("regexp-extended", 'E'), ("expression", 'e'),
      ("file", 'f'), ("in-place", 'i'), ("null-data", 'z'), ("separate", 's'),
      ("unbuffered", 'u')] }

/-- The instructions that the options give, or the first operand if they give none. -/
private def scripts (s : Surroundings) (o : Options) : Except String (List String × List String) :=
  let given := o.letters.filter fun l => l.1 == 'e' || l.1 == 'f'
  if given.isEmpty then
    match o.operands with
    | script :: rest => .ok ([script], rest)
    | [] => .error "Usage: sed [OPTION]... \x7bscript-only-if-no-other-script\x7d [input-file]..."
  else do
    let texts ← given.mapM fun (letter, text) =>
      if letter == 'e' then pure text
      else
        match s.file text with
        | .ok cs => pure (String.ofList (if cs.getLast? == some '\n' then cs.dropLast else cs))
        | .error p => throw s!"sed: couldn't open file {text}: {problemText p}"
    return (texts, o.operands)

/-- How much the editor reads at once. -/
private def blockSize : Nat := 4096

/-- What is left of a text that has been edited only up to some line. -/
private def unread (s : State) (text : List Char) : List Char :=
  if s.ended.isNone then []
  else
    let used := text.length - s.left.foldl (fun n line => n + line.length + 1) 0
    text.drop ((used / blockSize + 1) * blockSize)

/-- Edits the input, or files. -/
def run : Tool := fun s args =>
  withOptions "sed" options s args fun o =>
    match scripts s o with
    | .error complaint => .failed s (if o.letters.isEmpty then 1 else 4) [complaint]
    | .ok (texts, operands) =>
      let script := "\n".intercalate texts
      let quiet := o.has 'n' || script == "#n" || script.startsWith "#n\n"
      let mark := if o.has 'z' then '\x00' else '\n'
      match program (script.length + 1) (o.has 'E' || o.has 'r') script.toList with
      | .error complaint =>
        .failed s 1 [s!"sed: -e expression #1, char {script.length}: {complaint}"]
      | .ok program =>
        let (text, complaints) := joined "sed" s operands
        let complaints := complaints.map fun c => c.replace "sed: " "sed: can't read "
        let status := if complaints.isEmpty then 0 else 2
        if o.has 'i' then
          { complaints, status, unread := s.input
            written := operands.filterMap fun name =>
              (s.file name).toOption.map fun text =>
                { name, text := (edited quiet mark program text).output.reverse.flatten } }
        else
          let done := edited quiet mark program text
          { output := done.output.reverse.flatten, complaints
            status := done.ended.getD status
            unread := if operands.isEmpty then unread done s.input else leftOf s operands
            written := written program done }

end MailTemplates.Script.Sed
