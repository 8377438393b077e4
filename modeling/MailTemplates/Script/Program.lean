import MailTemplates.Failure
import MailTemplates.Script.Run
/-!
# Running programs

A program reads bytes, writes bytes to its output and to its errors, and ends with a status. A file
is a program if it may be executed and names the shell in its first line.
-/

namespace MailTemplates

/-- What came of running a program. -/
structure ProgramRun where
  output : ByteArray
  errors : ByteArray
  status : ExitStatus
  /-- How many bytes of the input were left. -/
  unread : Nat

namespace Script

/-- How many steps a script may take. -/
def budget : Nat := 10000000

/-- A script and its surroundings before its first command. -/
def Machine.start (tree : FileTree) (directory : Path) (script : String) (options : List Char)
    (arguments : List String) (input : ByteArray) : Machine :=
  { script := ByteText.encode script
    arguments := arguments.map ByteText.encode
    options
    channels := [(0, .buffer 0), (1, .buffer 1), (2, .buffer 2)]
    buffers := #[{ front := ByteText.ofBytes input }, { front := [] }, { front := [] }]
    tree := if (tree.node? ["tmp"]).isSome then tree else tree.put ["tmp"] .directory
    directory }

/-- What a script has done at its end. -/
def Machine.programRun (m : Machine) : ProgramRun where
  output := ByteText.toBytes (m.contents (.buffer 1))
  errors := ByteText.toBytes (m.contents (.buffer 2))
  status := match m.jump with
    | some (.killed n) => .signal n
    | _ => .code m.finalStatus
  unread := (m.contents (.buffer 0)).length

/-- Runs a script. -/
def execute (m : Machine) (source : ByteArray) : ProgramRun :=
  (finish budget (runSource budget false m "" (ByteText.ofBytes source))).programRun

end Script

/-! ## Programs of a file tree -/

/-- The shells that a script may name. -/
def shells : List String :=
  ["/bin/sh", "/bin/dash", "/bin/bash", "/usr/bin/sh", "/usr/bin/dash", "/usr/bin/bash"]

/-- The options that the first line of a script turns on, if it names a shell. -/
def shellOptions? (line : List Char) : Option (List Char) :=
  let isSpace (c : Char) : Bool := c == ' ' || c == '\t'
  let trimmed (cs : List Char) : List Char :=
    ((cs.dropWhile isSpace).reverse.dropWhile isSpace).reverse
  let line := trimmed line
  let interpreter := line.takeWhile fun c => !isSpace c
  let rest := trimmed (line.drop interpreter.length)
  if String.ofList interpreter == "/usr/bin/env" then
    if Script.Machine.isShell (String.ofList rest) then some [] else none
  else if shells.contains (String.ofList interpreter) then
    match rest with
    | '-' :: letters => some letters
    | _ => some []
  else none

/-- The file that a program name means: a path if it has a slash; no program is found by its name
alone. -/
def programFile (directory program : Path) : Option Path :=
  if program.text.toList.contains '/' then some (directory.join program) else none

/-- Runs a program as seen from a directory. -/
def runProgram (tree : FileTree) (directory program : Path) (arguments : List String)
    (input : ByteArray) : Except FileProblem ProgramRun := do
  match programFile directory program with
  | none => throw .notFound
  | some file =>
    match ← tree.lookup file with
    | .file content true =>
      match Script.ByteText.ofBytes content with
      | '#' :: '!' :: rest =>
        match shellOptions? (rest.takeWhile (· != '\n')) with
        | some options =>
          let m := Script.Machine.start tree directory program.text options arguments input
          return Script.execute m content
        | none => throw .notFound
      | _ => throw .notExecutable
    | .link _ => throw .notFound
    | _ => throw .permissionDenied

end MailTemplates
