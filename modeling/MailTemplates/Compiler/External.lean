import MailTemplates.Compiler.Basic
import MailTemplates.Script.Program
import MailTemplates.Text.Blank
/-!
# Compiling with a program

The compiler may be a program that reads the document and writes the page. It is told to be strict,
which file the document comes from, and where the configuration is. If it fails, what it complains
about is the diagnostic.
-/

namespace MailTemplates.External

/-- What the program is told. -/
def arguments (options : CompileOptions) : List String :=
  ["--stdin", "--stdout", "--config.validationLevel", "strict",
    "--config.filePath", options.file.text] ++
    match options.configFile with
    | some file => ["--config.mjmlConfigPath", file.text]
    | none => []

/-- The page that a program wrote, or why there is none. -/
def pageOf (run : ProgramRun) : Except CompileProblem String :=
  if run.status = .code 0 then
    match String.fromUTF8? run.output with
    | some page => .ok page
    | none => .error (.notText ((Text.Utf8.fault? run.output).getD ⟨0, none⟩))
  else
    let complaint := Text.trim (Text.Utf8.lossy run.errors).toList
    .error (if complaint.isEmpty then .exited run.status
      else .diagnostic (String.ofList complaint))

/-- How many bytes can wait to be read by a program. -/
def waitingBytes : Nat := 65536

/-- The compiler that runs a program, as seen from a directory. A document that does not fit into
what a successful program read and what can wait for it could not be written. -/
def compiler (tree : FileTree) (directory program : Path) : Compiler := fun document options =>
  let failed (problem : CompileProblem) : Outcome String :=
    .error (.failure (.compile options.file problem))
  match runProgram tree directory program (arguments options) document.toUTF8 with
  | .error problem => failed (.notRun program problem)
  | .ok run =>
    if run.status = .code 0 && waitingBytes < run.unread then .error (.failure (.io .brokenPipe))
    else
      match pageOf run with
      | .ok page => .ok page
      | .error problem => failed problem

end MailTemplates.External
