import MailTemplates.CommandLine.Run
import MailTemplates.CommandLine.Snapshot
/-!
# The command line

The program reads a snapshot of a directory from its standard input and runs its arguments there.
What the command writes goes to the standard output and the errors, and files that it made or
changed follow as one line of JSON by their paths. There is no network.
-/

namespace MailTemplates.CommandLine

/-- The variables of the environment that matter. -/
def environmentNames : List String :=
  [Setting.compiler, .key, .url, .recipients, .sender].filterMap Setting.environmentName

/-- Reads a stream up to its end. -/
partial def readToEnd (input : IO.FS.Stream) (read : String) : IO String := do
  let line ← input.getLine
  if line.isEmpty then return read else readToEnd input (read ++ line)

end MailTemplates.CommandLine

open MailTemplates CommandLine in
/-- Runs the arguments in the directory that is described on the standard input. -/
def main (arguments : List String) : IO UInt32 := do
  let text ← readToEnd (← IO.getStdin) ""
  match Json.parse (if text.isEmpty then "null" else text) with
  | .error fault =>
    IO.eprintln fault.message
    return 2
  | .ok value =>
    let snapshot := Snapshot.ofJson value
    let values ← environmentNames.mapM fun name => do return (name, ← IO.getEnv name)
    let ended := run {
      tree := snapshot.tree
      directory := snapshot.directory
      environment := fun name => (values.lookup name).join
      network := fun _ => none
      clock := ⟨snapshot.time, String.ofList (snapshot.time.toList.filter Char.isDigit), "0.00"⟩ }
      arguments
    IO.print ended.output
    IO.eprint ended.errors
    let files := Snapshot.changed snapshot.tree ended.tree
    if !files.isEmpty then IO.println (Snapshot.filesText files)
    return ended.exit.toUInt32
