import MailTemplates.Build.Pipeline
import MailTemplates.Mail.Dialogue
import MailTemplates.Remote.Client
/-!
# Sending a test mail

The chosen template is built and its page is handed to whoever sends mails.
-/

namespace MailTemplates

open Remote (Mail)

/-- Sends mails; the state is what sending leaves behind. -/
abbrev Courier (S : Type) := Mail → S → S × Except Failure Unit

/-- The mail that was asked for. -/
def compose (tree : FileTree) (project : LoadedProject) (compiler : Compiler)
    (answers : Answers) : Outcome Mail := do
  let components ← uncrashed (Components.load tree project.toProject)
  let page ← (Pipeline.ofProject project).buildTemplate tree project.toProject compiler components
    answers.template
  return { sender := answers.sender, recipients := answers.recipients,
           subject := answers.subject, page }

/-- Builds the mail that was asked for and sends it. -/
def sendTest {S : Type} (tree : FileTree) (project : LoadedProject) (compiler : Compiler)
    (courier : Courier S) (answers : Answers) (s : S) : S × Outcome Unit :=
  match compose tree project compiler answers with
  | .error halt => (s, .error halt)
  | .ok mail =>
    let (s, r) := courier mail s
    (s, uncrashed r)

end MailTemplates
