import MailTemplates.Handlebars.Fault
import MailTemplates.Manifest.Basic
import MailTemplates.Remote.Exchange
import MailTemplates.Text.Utf8
import MailTemplates.Translation.Placeholder
/-!
# What can go wrong

Every operation on a project fails with a cause. A cause says what was being done and to what; its
message is made from it in one place. A worker may also stop without a cause of its own: it crashes.
-/

namespace MailTemplates

open Remote (HttpProblem UrlProblem)

/-- Why an include directive cannot be expanded. -/
inductive IncludeProblem where
  | unresolvable (written : String) (directory : Path) (problem : FileProblem)
  /-- The files on the way, the last of which includes one of them again. -/
  | cycle (chain : List Path) (again : Path)
  | tooDeep (limit : Nat) (target : Path)
deriving DecidableEq, Repr

/-- The wording of a problem. -/
def IncludeProblem.message : IncludeProblem → String
  | unresolvable written directory problem =>
    s!"cannot resolve '{written}' from '{directory.text}': {problem.message}"
  | cycle chain again =>
    "include cycle: " ++ " -> ".intercalate ((chain ++ [again]).map Path.text)
  | tooDeep limit target => s!"includes nested deeper than {limit} levels at '{target.text}'"

/-- Why a template cannot be translated, or has no subject. -/
inductive TranslationProblem where
  | placeholder (problem : PlaceholderProblem)
  | placeholderFrom (problem : PlaceholderProblem) (file : Path)
  | notObject (language : String) (file : Path)
  | noLanguage (template : String)
  | noFile (name template : String)
  | noSubject (file : Path) (language template : String)
deriving DecidableEq, Repr

/-- The wording of a problem. -/
def TranslationProblem.message : TranslationProblem → String
  | placeholder problem => problem.message
  | placeholderFrom problem file => s!"{problem.message} in '{file.text}'"
  | notObject language file => s!"'{language}' in '{file.text}' is not an object"
  | noLanguage template => s!"template '{template}' has no language, so no subject can be built"
  | noFile name template => s!"no {name} found for template '{template}'"
  | noSubject file language template =>
    s!"'{file.text}' has no 'subject' for language '{language}' (template '{template}')"

/-- What is wrong with the configuration of a project, or of a client. -/
inductive ConfigProblem where
  | unreadable (file : Path) (fault : Json.Fault)
  | unknownStage (name : String) (registered : List String)
  | missingComponent (relative path : Path)
  | badApiUrl (url : String) (problem : UrlProblem)
  | badApiPath (path : String) (problem : UrlProblem)
  /-- A cause that a stage or a prompter gives itself. -/
  | other (reason : String)
deriving DecidableEq, Repr

/-- The wording of a problem. -/
def ConfigProblem.message : ConfigProblem → String
  | unreadable file fault => s!"could not parse '{file.text}': {fault.message}"
  | unknownStage name registered =>
    s!"unknown processor plugin '{name}' (registered: " ++ ", ".intercalate registered ++ ")"
  | missingComponent relative path =>
    s!"custom component {relative.text} does not exist at path {path.text}"
  | badApiUrl url problem => s!"invalid API url '{url}': {problem.message}"
  | badApiPath path problem => s!"invalid API path '{path}': {problem.message}"
  | other reason => reason

/-- How a program ended. -/
inductive ExitStatus where
  | code (n : Nat)
  | signal (n : Nat)
deriving DecidableEq, Repr

/-- The names of the signals that end a program. -/
def signalNames : List (Nat × String) :=
  [(1, "SIGHUP"), (2, "SIGINT"), (3, "SIGQUIT"), (4, "SIGILL"), (5, "SIGTRAP"), (6, "SIGABRT"),
    (7, "SIGBUS"), (8, "SIGFPE"), (9, "SIGKILL"), (10, "SIGUSR1"), (11, "SIGSEGV"),
    (12, "SIGUSR2"), (13, "SIGPIPE"), (14, "SIGALRM"), (15, "SIGTERM"), (16, "SIGSTKFLT"),
    (24, "SIGXCPU"), (25, "SIGXFSZ"), (26, "SIGVTALRM"), (27, "SIGPROF"), (29, "SIGIO"),
    (30, "SIGPWR"), (31, "SIGSYS")]

/-- The wording of an end. -/
def ExitStatus.message : ExitStatus → String
  | code n => s!"exit status: {n}"
  | signal n =>
    match signalNames.lookup n with
    | some name => s!"signal: {n} ({name})"
    | none => s!"signal: {n}"

/-- Why a document is not compiled. -/
inductive CompileProblem where
  /-- What the compiler says about the document. -/
  | diagnostic (text : String)
  | notRun (program : Path) (problem : FileProblem)
  | exited (status : ExitStatus)
  | notText (fault : Text.Utf8.Fault)
deriving DecidableEq, Repr

/-- The wording of a problem. -/
def CompileProblem.message : CompileProblem → String
  | diagnostic text => text
  | notRun program problem => s!"could not run '{program.text}': {problem.message}"
  | exited status => s!"compiler exited with {status.message}"
  | notText fault => s!"compiler produced invalid UTF-8: {fault.message}"

/-- What goes wrong with the remote store or with sending. -/
inductive RemoteProblem where
  | fetching (id : String) (problem : HttpProblem)
  | publishing (id : String) (problem : HttpProblem)
  | sending (problem : HttpProblem)
  | fetchCrashed (id : String)
  | publishCrashed
  /-- A reason that a store or an outbox gives itself. -/
  | other (reason : String)
deriving DecidableEq, Repr

/-- The wording of a problem. -/
def RemoteProblem.message : RemoteProblem → String
  | fetching id problem => s!"fetching template '{id}' failed: {problem.message}"
  | publishing id problem => s!"publishing template '{id}' failed: {problem.message}"
  | sending problem => s!"sending mail failed: {problem.message}"
  | fetchCrashed id => s!"fetch worker panicked for '{id}'"
  | publishCrashed => "publish worker panicked"
  | other reason => reason

/-- What is wrong with an answer. -/
inductive AnswerProblem where
  | badAddress (text : String)
  | noTemplate (index : Nat)
deriving DecidableEq, Repr

/-- The wording of a problem. -/
def AnswerProblem.message : AnswerProblem → String
  | badAddress text => s!"'{text}' is not a valid email address"
  | noTemplate index => s!"no template at position {index}"

/-- The cause of a failure. -/
inductive Failure where
  | projectNotFound (directory : Path)
  | manifest (file : Path) (problem : ManifestProblem)
  | config (problem : ConfigProblem)
  | inclusion (problem : IncludeProblem)
  | translation (problem : TranslationProblem)
  | compile (file : Path) (problem : CompileProblem)
  | remote (problem : RemoteProblem)
  | workerCrashed (work : String)
  | stage (name label : String) (cause : Failure)
  | answer (problem : AnswerProblem)
  | io (problem : FileProblem)
  | json (fault : Json.Fault)
  | templating (fault : Handlebars.Fault)
  | http (problem : HttpProblem)
  | noTerminal
deriving DecidableEq, Repr

namespace Failure

/-- The wording of a failure. That of a text that is no template at all is not fixed. -/
def message : Failure → String
  | projectNotFound directory =>
    s!"Could not find a package.json in '{directory.text}' or any parent directory."
  | manifest file problem => s!"Invalid manifest '{file.text}': {problem.message}."
  | config problem => s!"Configuration error: {problem.message}."
  | inclusion problem => s!"Include error: {problem.message}."
  | translation problem => s!"Translation error: {problem.message}."
  | compile file problem => s!"Compile error for '{file.text}': {problem.message}"
  | remote problem => s!"Remote store error: {problem.message}."
  | workerCrashed work => s!"Worker panicked while {work}."
  | stage name label cause => s!"Stage '{name}' failed for template '{label}': {cause.message}"
  | answer problem => s!"Validation error: {problem.message}."
  | io problem => problem.message
  | json fault => fault.message
  | templating (.notRendered fault) => fault.message
  | templating (.notTemplate _) => "Failed to parse template."
  | http problem => problem.message
  | noTerminal => "IO error: not a terminal"

/-- The failure without the stages around it. -/
def innermost : Failure → Failure
  | stage _ _ cause => cause.innermost
  | f => f

end Failure

/-- How work stops short: with a failure, or by crashing. -/
inductive Halt where
  | crash
  | failure (cause : Failure)
deriving DecidableEq, Repr

/-- What comes of work that may fail or crash. -/
abbrev Outcome (α : Type) := Except Halt α

/-- A result that may fail but never crashes. -/
def uncrashed {α : Type} : Except Failure α → Outcome α
  | .ok a => .ok a
  | .error f => .error (.failure f)

/-- Names the stage and the template of a failure; a crash stays what it is. -/
def inStage {α : Type} (name label : String) : Outcome α → Outcome α
  | .ok a => .ok a
  | .error .crash => .error .crash
  | .error (.failure cause) => .error (.failure (.stage name label cause))

end MailTemplates
