import MailTemplates.Script.ByteText
import MailTemplates.Script.Format
import MailTemplates.Script.Tool.Basic
/-!
# Tools that pass on

These tools pass on what they read: all of it, its front or its end, or its lines the other way
round.

A tool that looks for lines reads in blocks, and what it has read too much of is lost for whoever
reads the same input behind it (`blockSize`).
-/

namespace MailTemplates.Script.Tools

/-- A number in front of a line. -/
def numbered (n : Nat) (line : List Char) : List Char :=
  Format.padded false 6 (toString n).toList ++ '\t' :: line

/-- Passes on what the operands name, with numbers in front of the lines or a sign at their ends if
wanted. -/
def cat : Tool := fun s args =>
  let table : OptionTable :=
    { plain := "nbsAeEtTuv"
      long := [("number", 'n'), ("number-nonblank", 'b'), ("squeeze-blank", 's'),
        ("show-all", 'A'), ("show-ends", 'E'), ("show-tabs", 'T')] }
  withOptions "cat" table s args fun o =>
    let has (cs : String) : Bool := cs.toList.any o.has
    let outputFirst := ((inputs s o.operands).head?).any fun i => i.2.isOk
    let run := filtering "cat" s o.operands fun text =>
      if !has "nbseEAtT" then text
      else
        let lines := ByteText.lines text
        let kept := (lines.zip ([] :: lines)).zip (['x'] :: ['x'] :: lines)
        let lines := if !o.has 's' then lines else kept.filterMap fun ((line, before), _) =>
          if line.isEmpty && before.isEmpty then none else some line
        let tabs (cs : List Char) : List Char :=
          if has "tTA" then cs.flatMap fun c => if c == '\t' then ['^', 'I'] else [c] else cs
        let shown (line : List Char) : List Char := tabs line ++ if has "eEA" then ['$'] else []
        let (done, _) := lines.foldl (fun (done, n) line =>
          if o.has 'b' && line.isEmpty || !has "nb" then (shown line :: done, n)
          else (numbered n (shown line) :: done, n + 1)) (([] : List (List Char)), 1)
        let all := ByteText.ofLines done.reverse
        if text.getLast? == some '\n' || text.isEmpty then all
        else all.take (all.length - if has "eEA" then 2 else 1)
    { run with outputFirst }

/-- How many characters a count stands for, with a letter for a unit. -/
private def amount? (s : String) : Option Nat :=
  let ds := s.toList.takeWhile Char.isDigit
  let unit : Option Nat := match s.toList.drop ds.length with
    | [] => some 1
    | ['b'] => some 512
    | ['k'] | ['K'] => some 1024
    | ['k', 'B'] => some 1000
    | ['M'] => some (1024 * 1024)
    | _ => none
  if ds.isEmpty then none else unit.map fun u => digitsValue ds * u

/-- How much is read at once by a tool that looks for lines. -/
private def blockSize : Nat := 8192

/-- An option of old: a count right behind the hyphen. -/
def oldCount (args : List String) : List String :=
  match args with
  | a :: rest =>
    match a.toList with
    | '-' :: c :: cs => if c.isDigit then "-n" :: String.ofList (c :: cs) :: rest else args
    | _ => args
  | [] => args

/-- Texts of several files with their names above them. -/
private def titled (name : String) (s : Surroundings) (o : Options)
    (f : List Char → List Char) : ToolRun :=
  let files := inputs s o.operands
  let several := files.length > 1 && !o.has 'q'
  let (output, complaints, _) := files.foldl (fun (done, complaints, first) (file, content) =>
    match content with
    | .ok text =>
      let title := if !several then ""
        else (if first then "" else "\n") ++ "==> " ++
          (if file == "-" then "standard input" else file) ++ " <==\n"
      (done ++ title.toList ++ f text, complaints, false)
    | .error p =>
      (done, complaints ++ [s!"{name}: cannot open '{file}' for reading: {problemText p}"], first))
    (([] : List Char), ([] : List String), true)
  { output, complaints, status := if complaints.isEmpty then 0 else 1
    unread := leftOf s o.operands }

/-- The first lines, with their ends. -/
def firstLines : Nat → List Char → List Char
  | 0, _ => []
  | n + 1, cs =>
    let line := cs.takeWhile (· != '\n')
    match cs.drop line.length with
    | '\n' :: rest => line ++ '\n' :: firstLines n rest
    | _ => line

/-- The text without its last lines. -/
def withoutLastLines (n : Nat) (cs : List Char) : List Char :=
  let total := (ByteText.lines cs).length
  firstLines (total - n) cs

/-- The first lines or characters. -/
def head : Tool := fun s args =>
  let table : OptionTable :=
    { plain := "qvz", valued := "nc"
      long := [("lines", 'n'), ("bytes", 'c'), ("quiet", 'q'), ("silent", 'q'), ("verbose", 'v')] }
  withOptions "head" table s (oldCount args) fun o =>
    let (what, unit) := match o.value? 'c' with
      | some v => (v, 'c')
      | none => ((o.value? 'n').getD "10", 'n')
    let (back, digits) := match what.toList with
      | '-' :: ds => (true, String.ofList ds)
      | '+' :: ds => (false, String.ofList ds)
      | _ => (false, what)
    match amount? digits with
    | none =>
      let unit := if unit == 'c' then "bytes" else "lines"
      .failed s 1 [s!"head: invalid number of {unit}: '{what}'"]
    | some n =>
      if o.operands == ["/dev/zero"] && unit == 'c' then
        { output := List.replicate n '\x00', unread := s.input }
      else
        let part (cs : List Char) : List Char :=
          if unit == 'c' then (if back then cs.take (cs.length - n) else cs.take n)
          else if back then withoutLastLines n cs else firstLines n cs
        let run := titled "head" s o part
        if back || !readsInput o.operands then run
        else if unit == 'c' then { run with unread := s.input.drop n }
        else
          let used := (firstLines n s.input).length
          { run with unread := s.input.drop ((used + blockSize - 1) / blockSize * blockSize) }

/-- The last lines or characters, or those from one on. -/
def tail : Tool := fun s args =>
  let args := match args with
    | a :: rest =>
      match a.toList with
      | '+' :: c :: _ => if c.isDigit then "-n" :: a :: rest else args
      | _ => args
    | [] => args
  let table : OptionTable :=
    { plain := "qvfz", valued := "nc"
      long := [("lines", 'n'), ("bytes", 'c'), ("quiet", 'q'), ("silent", 'q'), ("verbose", 'v'),
        ("follow", 'f')] }
  withOptions "tail" table s (oldCount args) fun o =>
    let (what, unit) := match o.value? 'c' with
      | some v => (v, 'c')
      | none => ((o.value? 'n').getD "10", 'n')
    let (fromFront, digits) := match what.toList with
      | '-' :: ds => (false, String.ofList ds)
      | '+' :: ds => (true, String.ofList ds)
      | _ => (false, what)
    match amount? digits with
    | none =>
      let unit := if unit == 'c' then "bytes" else "lines"
      .failed s 1 [s!"tail: invalid number of {unit}: '{what}'"]
    | some n =>
      titled "tail" s o fun cs =>
        if unit == 'c' then cs.drop (if fromFront then n - 1 else cs.length - n)
        else
          let total := (ByteText.lines cs).length
          cs.drop (firstLines (if fromFront then n - 1 else total - n) cs).length

/-- Copies the input to the output and into files. -/
def tee : Tool := fun s args =>
  withOptions "tee" { plain := "aip", long := [("append", 'a')] } s args fun o =>
    { output := s.input
      written := o.operands.map fun name => { name, text := s.input, append := o.has 'a' } }

/-- The lines from the last one to the first. -/
def tac : Tool := fun s args =>
  withOptions "tac" {} s args fun o =>
    filtering "tac" s o.operands fun text =>
      let lines := ByteText.lines text
      match text.getLast?, lines.reverse with
      | some '\n', ls => ByteText.ofLines ls
      | _, last :: rest => last ++ ByteText.ofLines rest
      | _, [] => []

/-- Lines changed one by one; the last one may have no end. -/
def eachLine (text : List Char) (f : List Char → List Char) : List Char :=
  let all := ByteText.ofLines ((ByteText.lines text).map f)
  if text.getLast? == some '\n' then all else all.dropLast

/-- Each line from its end to its front. -/
def rev : Tool := fun s args =>
  filtering "rev" s args fun text => eachLine text List.reverse

/-- How often a line is written that is written without end. Nobody reads all of them. -/
private def manyTimes : Nat := 100000

/-- Writes a line again and again, until nobody reads it any more. -/
def yes : Tool := fun s args =>
  let line := (if args.isEmpty then "y" else " ".intercalate args).toList ++ ['\n']
  { output := (List.replicate manyTimes line).flatten, unread := s.input }

/-- Writes words with blanks between them; escapes count only if wanted. -/
def echo : Tool := fun s args =>
  let options := args.takeWhile fun a =>
    1 < a.length && a.startsWith "-" && (a.toList.drop 1).all "neE".toList.contains
  let words := args.drop options.length
  let letters := options.flatMap fun a => a.toList
  let escapes := (letters.filter fun c => c == 'e' || c == 'E').getLast? == some 'e'
  let ending := !letters.contains 'n'
  { output := if escapes then Format.echoed ending words
      else (" ".intercalate words).toList ++ if ending then ['\n'] else []
    unread := s.input }

end MailTemplates.Script.Tools
