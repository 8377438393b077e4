import MailTemplates.Script.ByteText
import MailTemplates.Script.Regex
import MailTemplates.Script.Tool.Basic
/-!
# Finding lines

Lines in which one of some patterns is found, or in which none is, perhaps with lines around them. A
pattern is a regular expression or a plain text.
-/

namespace MailTemplates.Script.Grep

/-- The expression that fits just a text. -/
def literal (cs : List Char) : Regex := cs.foldr (fun c r => .seq (.char c) r) .empty

/-- The expression that fits where one of several does. -/
def anyOf : List Regex → Regex
  | [] => .empty
  | [r] => r
  | r :: rs => .either r (anyOf rs)

/-- Whether a match is not part of a longer word. -/
def isWholeWord (m : Regex.Match) : Bool :=
  !(m.before.getLast?.any Regex.isWordChar) && !(m.after.head?.any Regex.isWordChar)

/-- The matches in a line that count. -/
def counted (o : Options) (r : Regex) (line : List Char) : List Regex.Match :=
  (r.findAll (o.has 'i') line).filter fun m => !o.has 'w' || isWholeWord m

private def count? (o : Options) (c : Char) : Option Nat := (o.value? c).bind String.toNat?

/-- What is written of one text. -/
structure Report where
  lines : List (List Char)
  /-- How many lines are selected. -/
  selected : Nat

/-- Selected lines with the lines around them, and a sign between parts that do not touch. -/
private def withContext (before after : Nat) (front : Char → Nat → List Char)
    (lines : List (List Char × Nat)) (selected : List Nat) : List (List Char) :=
  let near (n : Nat) : Bool := selected.any fun k => n ≤ k + after && k ≤ n + before
  let (done, _) := lines.foldl (fun (done, last) (line, n) =>
    if !near n then (done, last)
    else
      let gap := if last != 0 && last + 1 < n then [['-', '-']] else []
      (done ++ gap ++ [front (if selected.contains n then ':' else '-') n ++ line], n))
    (([] : List (List Char)), 0)
  done

/-- What is written for the lines of a text with a name. -/
def ofText (o : Options) (r : Regex) (name : Option String) (text : List Char) : Report :=
  let lines := (ByteText.lines text).zipIdx 1
  let front (mark : Char) (n : Nat) : List Char :=
    (match name with
      | some s => s.toList ++ [mark]
      | none => []) ++ if o.has 'n' then (toString n).toList ++ [mark] else []
  let selected := lines.filter fun (line, _) => (counted o r line).isEmpty == o.has 'v'
  let selected := match count? o 'm' with
    | some n => selected.take n
    | none => selected
  let around := (count? o 'C').getD 0
  let before := (count? o 'B').getD around
  let after := (count? o 'A').getD around
  let written : List (List Char) :=
    if o.has 'o' then
      if o.has 'v' then []
      else selected.flatMap fun (line, n) =>
        ((counted o r line).filter fun m => !m.taken.isEmpty).map fun m => front ':' n ++ m.taken
    else if before + after == 0 then selected.map fun (line, n) => front ':' n ++ line
    else withContext before after front lines (selected.map (·.2))
  ⟨written, selected.length⟩

/-- What is looked for: the patterns of the options, or the first operand if they give none. -/
private def patterns (o : Options) : List String × List String :=
  match o.values 'e', o.operands with
  | [], p :: rest => ([p], rest)
  | ps, rest => (ps, rest)

private def options : OptionTable :=
  { plain := "qvincoEFGPxwlhHsaL", valued := "emABC", misuse := 2
    long := [("quiet", 'q'), ("silent", 'q'), ("invert-match", 'v'), ("ignore-case", 'i'),
      ("line-number", 'n'), ("count", 'c'), ("only-matching", 'o'), ("extended-regexp", 'E'),
      ("fixed-strings", 'F'), ("line-regexp", 'x'), ("word-regexp", 'w'),
      ("files-with-matches", 'l'), ("no-filename", 'h'), ("with-filename", 'H'),
      ("no-messages", 's'), ("regexp", 'e'), ("max-count", 'm'), ("after-context", 'A'),
      ("before-context", 'B'), ("context", 'C')] }

/-- What comes of looking into one file. -/
private def ofFile (o : Options) (r : Regex) (named : Bool) (file : String)
    (content : Except FileProblem (List Char)) : Report × List String :=
  let shown := if file == "-" then "(standard input)" else file
  match content with
  | .error p => (⟨[], 0⟩, [s!"grep: {file}: {problemText p}"])
  | .ok text =>
    let report := ofText o r (if named then some shown else none) text
    let lines :=
      if o.has 'l' then (if report.selected == 0 then [] else [shown.toList])
      else if o.has 'L' then (if report.selected == 0 then [shown.toList] else [])
      else if o.has 'c' then
        [(if named then shown.toList ++ [':'] else []) ++ (toString report.selected).toList]
      else report.lines
    ({ report with lines }, [])

/-- Looks for lines in the input, or in files. -/
def run : Tool := fun s args =>
  withOptions "grep" options s args fun o =>
    let (texts, operands) := patterns o
    if texts.isEmpty then
      .misused s "grep" 2 ["Usage: grep [OPTION]... PATTERNS [FILE]..."]
    else
      let expressions := (texts.flatMap fun p => p.splitOn "\n").mapM fun p =>
        if o.has 'F' then some (literal p.toList)
        else Regex.read? (o.has 'E' || o.has 'P') p.toList
      match expressions with
      | none => .failed s 2 ["grep: Unmatched ( or \\("]
      | some rs =>
        let r := anyOf rs
        let r := if o.has 'x' then Regex.seq .textStart (.seq (.group 0 r) .textEnd) else r
        let files := inputs s operands
        let named := !o.has 'h' && (1 < files.length || o.has 'H')
        let results := files.map fun (file, content) => ofFile o r named file content
        let complaints := results.flatMap (·.2)
        let found := results.any fun result => result.1.selected != 0
        { output := if o.has 'q' then [] else
            ByteText.ofLines (results.flatMap fun result => result.1.lines)
          complaints := if o.has 's' then [] else complaints
          status := if found && (o.has 'q' || complaints.isEmpty) then 0
            else if complaints.isEmpty then 1 else 2
          unread := leftOf s operands }

end MailTemplates.Script.Grep
