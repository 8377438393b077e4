import MailTemplates.Build.Run
import MailTemplates.CommandLine.Arguments
import MailTemplates.Compiler.External
import MailTemplates.FileSize
import MailTemplates.Mail.Sending
import MailTemplates.Sync.Run
/-!
# Running a command line

A command line is run in surroundings: a tree, a working directory, an environment, a network, a
clock and someone who answers. What comes of it is the tree it leaves, the requests it sent, what it
wrote and a status. Failures are written to the errors, and their status is one.
-/

namespace MailTemplates.CommandLine

open Remote (Client Network Request)

/-- How the program names itself. -/
def programName : String := "mailbuild 0.3.0"

/-- A time in the forms in which it is written, and the text of a duration in milliseconds. -/
structure Clock where
  /-- The name of a version made now. -/
  version : String
  /-- The digits of the time now. -/
  stamp : String
  elapsed : String
deriving DecidableEq, Repr

/-- Where a command line is run. -/
structure Surroundings where
  tree : FileTree
  directory : Path
  environment : Environment
  network : Network
  clock : Clock
  answerer : Answerer := .nobody

/-- What came of running a command line. -/
structure Ended where
  tree : FileTree
  requests : List Request := []
  output : String := ""
  errors : String := ""
  exit : Nat := 0

/-- A run that failed. -/
def fail (tree : FileTree) (requests : List Request) (cause : Failure) : Ended where
  tree := tree
  requests := requests
  errors := cause.message ++ "\n"
  exit := 1

/-- A run that stopped short. -/
def stop (tree : FileTree) (requests : List Request) : Halt → Ended
  | .failure cause => fail tree requests cause
  | .crash => { tree, requests, exit := 101 }

/-! ## Refusals -/

/-- What the commands are. -/
def usage : String := "\n".intercalate [
  "Usage: mailbuild [OPTIONS] <COMMAND>", "",
  "Commands:",
  "  build  Build the email templates of the project",
  "  sync   Sync the templates on SendGrid",
  "  send   Send a test email through SendGrid", "",
  "Options:",
  "  -v, --verbose              Say more",
  "      --mode <MODE>          dev or prod",
  "      --mjml-bin <MJML_BIN>  The program that compiles documents",
  "  -h, --help                 Print help",
  "  -V, --version              Print version", ""]

/-- What is wrong with a command line that is refused. -/
def Refusal.message : Refusal → String
  | unknownCommand => "error: unrecognized subcommand"
  | unknownArgument => "error: unexpected argument"
  | badValue => "error: invalid or missing value of an argument"
  | givenTwice => "error: an argument was given twice"
  | missingArgument => "error: a required argument was not given"
  | valueOfSwitch => "error: an argument takes no value"
  | _ => ""

/-- The end of a command line that is refused. A command line without a command shows the usage. -/
def refuse (tree : FileTree) (refusal : Refusal) : Ended :=
  match refusal with
  | .helpWanted => { tree, output := usage }
  | .versionWanted => { tree, output := programName ++ "\n" }
  | .nothingGiven => { tree, output := usage, exit := 1 }
  | .noCommand => { tree, output := usage, exit := 1 }
  | refusal => { tree, errors := refusal.message ++ "\n", exit := refusal.status }

/-! ## Commands -/

/-- The lines about one template that was built. -/
def builtLines (project : Project) (elapsed : String) (b : Built) : String :=
  let source := (project.relative b.source).text
  let page := (project.relative b.page).text
  s!"{b.name}: {source} -> {page}\n  Size: {FileSize.format b.size} | Duration: {elapsed} ms\n\n"

/-- Builds the project. -/
def runBuild (s : Surroundings) (project : LoadedProject) (compiler : Compiler) : Ended :=
  match build s.tree project compiler with
  | (tree, .error halt) => stop tree [] halt
  | (tree, .ok results) =>
    { tree
      output := "Templates compiled\n\n" ++
        String.join (results.map (builtLines project.toProject s.clock.elapsed)) }

/-- Synchronises the project with the service. -/
def runSync (s : Surroundings) (project : LoadedProject) (compiler : Compiler) (dryRun : Bool)
    (output : OutputFormat) (key url : String) : Ended :=
  match Client.ofUrl key url with
  | .error cause => fail s.tree [] cause
  | .ok client =>
    match sync .inOrder s.tree project compiler (client.store s.network) s.clock.version dryRun
      [] with
    | (requests, .error cause) => fail s.tree requests cause
    | (requests, .ok report) => { tree := s.tree, requests, output := report.render output ++ "\n" }

/-- Sends mails through the service; the state are the requests that were sent. -/
def courier (client : Client) (network : Network) : Courier (List Request) := fun mail sent =>
  let (r, more) := client.sendMail network mail
  (sent ++ more, r)

/-- Asks what to send and sends it. -/
def runSend (s : Surroundings) (project : LoadedProject) (compiler : Compiler)
    (suggestions : Suggestions) (url : String) : Ended :=
  match (ask project.toProject s.answerer suggestions s.clock.stamp).1 with
  | .error cause => fail s.tree [] cause
  | .ok answers =>
    match Client.ofUrl answers.key url with
    | .error cause => fail s.tree [] cause
    | .ok client =>
      match sendTest s.tree project compiler (courier client s.network) answers [] with
      | (requests, .error halt) => stop s.tree requests halt
      | (requests, .ok ()) =>
        let addresses := ", ".intercalate answers.recipients
        { tree := s.tree, requests
          output := s!"Sent '{answers.template.label}' to {addresses}\n" }

/-- Runs the command of a command line. -/
def runArguments (s : Surroundings) (arguments : Arguments) : Ended :=
  match LoadedProject.load s.tree .builtIn arguments.mode s.directory with
  | .error cause => fail s.tree [] cause
  | .ok project =>
    let compiler := External.compiler s.tree s.directory ⟨arguments.compiler⟩
    match arguments.command with
    | .build => runBuild s project compiler
    | .sync dryRun output key url => runSync s project compiler dryRun output key url
    | .send recipients sender key url =>
      runSend s project compiler { recipients, sender, key } url

/-- Runs a command line. -/
def run (s : Surroundings) (arguments : List String) : Ended :=
  match Arguments.parse s.environment arguments with
  | .error refusal => refuse s.tree refusal
  | .ok arguments => runArguments s arguments

end MailTemplates.CommandLine
