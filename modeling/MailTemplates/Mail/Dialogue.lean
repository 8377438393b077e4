import MailTemplates.Failure
import MailTemplates.Mail.Address
import MailTemplates.Project.Basic
/-!
# Asking what to send

Before a test mail is sent a person is asked for the template, the recipients, the sender, the
subject and the key. The recipients and the sender are asked for again until the reply is one; a
reply that is a failure ends the dialogue. Replies are a list that is used up, and the questions
that were asked are kept beside the result.

Main statement: `recipients_ne_nil` (a list of addresses is never empty).
-/

namespace MailTemplates

/-- A question. -/
inductive Question where
  | choose (question : String) (options : List String)
  /-- Asks for a line; the suggestion is what an empty reply stands for. -/
  | enter (question : String) (suggestion : Option String)
deriving DecidableEq, Repr

/-- What comes back when a line is asked for. -/
inductive Reply where
  | text (line : String)
  /-- The suggestion is accepted. -/
  | accepted
  | failure (cause : Failure)
deriving DecidableEq, Repr

/-- The line that a reply stands for. -/
def Reply.line (suggestion : Option String) : Reply → Except Failure String
  | text line => .ok line
  | accepted => .ok (suggestion.getD "")
  | failure cause => .error cause

/-- Someone who answers: the position chosen, the replies in order, and what comes of a question
behind the last of them. -/
structure Answerer where
  choice : Except Failure Nat
  replies : List Reply
  atEnd : Failure

namespace Answerer

/-- Nobody, since there is no terminal. -/
def nobody : Answerer := ⟨.error .noTerminal, [], .noTerminal⟩

end Answerer

/-- What is suggested if it is known. -/
structure Suggestions where
  recipients : Option String := none
  sender : Option String := none
  key : Option String := none
deriving DecidableEq, Repr

/-- What was found out. -/
structure Answers where
  template : Template
  recipients : List String
  sender : String
  subject : String
  key : String
deriving DecidableEq, Repr

namespace Dialogue

/-- What came of some questions: a result, the replies that are left, and the questions asked. -/
structure Turn (α : Type) where
  result : Except Failure α
  left : List Reply
  asked : List Question

/-- Goes on with a result; a failure ends the dialogue. -/
def Turn.andThen {α β : Type} (turn : Turn α) (next : α → List Reply → Turn β) : Turn β :=
  match turn.result with
  | .error cause => ⟨.error cause, turn.left, turn.asked⟩
  | .ok a =>
    let more := next a turn.left
    { more with asked := turn.asked ++ more.asked }

/-- Asks for a line, again and again until it can be read. -/
def enterUntil {α : Type} (read : String → Option α) (question : String)
    (suggestion : Option String) (atEnd : Failure) : List Reply → Turn α
  | [] => ⟨.error atEnd, [], [.enter question suggestion]⟩
  | reply :: left =>
    match reply.line suggestion with
    | .error cause => ⟨.error cause, left, [.enter question suggestion]⟩
    | .ok line =>
      match read line with
      | some a => ⟨.ok a, left, [.enter question suggestion]⟩
      | none =>
        let more := enterUntil read question suggestion atEnd left
        { more with asked := .enter question suggestion :: more.asked }

/-- The recipients in a line. -/
def recipientsOf? (line : String) : Option (List String) := (recipients line).toOption

/-- The sender in a line. -/
def senderOf? (line : String) : Option String :=
  let address := Text.trim line.toList
  if Address.isValid address then some (String.ofList address) else none

theorem recipients_ne_nil {line : String} {addresses : List String}
    (h : recipientsOf? line = some addresses) : addresses ≠ [] := by
  rintro rfl
  unfold recipientsOf? recipients at h
  cases hs : Text.splitAt ',' line.toList with
  | nil => exact Text.splitAt_ne_nil _ _ hs
  | cons part parts =>
    simp only [hs, List.mapM_cons] at h
    revert h
    split
    · cases List.mapM (m := Except String) _ parts <;> simp [bind, Except.bind, pure, Except.pure,
        Except.toOption]
    · simp [bind, Except.bind, Except.toOption]

/-- The subject that is suggested: the name of the template and a time stamp. -/
def suggestedSubject (template : Template) (stamp : String) : String :=
  s!"[test] {template.name} ({stamp})"

/-- The template that was chosen. -/
def chosen (project : Project) : Except Failure Nat → Except Failure Template
  | .error cause => .error cause
  | .ok i =>
    match project.templates[i]? with
    | some template => .ok template
    | none => .error (.answer (.noTemplate i))

/-- Asks for everything but the template. -/
def details (template : Template) (suggestions : Suggestions) (stamp : String) (atEnd : Failure)
    (replies : List Reply) : Turn Answers :=
  (enterUntil recipientsOf? "To (separate multiple emails by commas)" suggestions.recipients atEnd
    replies).andThen fun recipients left =>
  (enterUntil senderOf? "From" suggestions.sender atEnd left).andThen fun sender left =>
  (enterUntil some "Email subject" (some (suggestedSubject template stamp)) atEnd
    left).andThen fun subject left =>
  (enterUntil some "SendGrid api key" suggestions.key atEnd left).andThen fun key left =>
    ⟨.ok { template, recipients, sender, subject, key }, left, []⟩

end Dialogue

/-- Asks what to send, and gives the questions that were asked. -/
def ask (project : Project) (answerer : Answerer) (suggestions : Suggestions) (stamp : String) :
    Except Failure Answers × List Question :=
  let first : Question := .choose "Select a template to send" (project.templates.map Template.label)
  match Dialogue.chosen project answerer.choice with
  | .error cause => (.error cause, [first])
  | .ok template =>
    let turn := Dialogue.details template suggestions stamp answerer.atEnd answerer.replies
    (turn.result, first :: turn.asked)

end MailTemplates
