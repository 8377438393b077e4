import MailTemplates.Mail.Dialogue
import MailTemplates.Proofs.Fallible
/-!
# The course of a dialogue

A question is insisted on: it is asked again, in the same words and with the same suggestion, as
long as the reply is a line that is not accepted. A dialogue chooses a template, insists on
recipients and then on a sender, and asks once for the subject and once for the key. It stops at
the first failure among the replies, with that failure.

The replies are a list, and each question takes some off its front. `Insists` says how many: it has
one rule for a reply that is rejected, and it ends with the first reply that is not. What it says is
a function of the replies (`exists_insists`, `enterUntil_of_insists`), and so is the whole course,
with a rule for each question at which a dialogue can end (`Detailed`, `Conducted`).

That the code takes this course is one direction; the other one needs no new argument, since a
course exists for all replies and the code has one result.

Main statements: `recipients_eq_ok_iff` (which lines are recipients), `enterUntil_of_insists` (how
often a question is asked, and what comes of it) and `ask_conducts` (every dialogue takes this
course, and what it finds out is valid).
-/

namespace MailTemplates

/-- A line is a list of recipients if all its parts between commas are addresses, the blanks around
them apart. -/
theorem recipients_eq_ok_iff {line : String} {addresses : List String} :
    recipients line = .ok addresses ↔
      addresses = (Text.splitAt ',' line.toList).map (fun part => String.ofList (Text.trim part)) ∧
        ∀ address ∈ addresses, Address.valid address = true := by
  rw [recipients, mapM_eq_ok_iff]
  generalize Text.splitAt ',' line.toList = parts
  induction parts generalizing addresses with
  | nil => cases addresses <;> simp
  | cons part parts ih =>
    cases addresses with
    | nil => simp
    | cons address addresses =>
      rw [List.map_cons, List.map_cons, List.cons.injEq, ih, List.map_cons, List.cons.injEq,
        List.forall_mem_cons]
      -- Each part is trimmed and then has to be an address.
      by_cases hvalid : Address.isValid (Text.trim part) = true
      · rw [if_pos hvalid, Except.ok.injEq]
        constructor
        · rintro ⟨rfl, hrest, hall⟩
          exact ⟨⟨rfl, hrest⟩, (Address.valid_ofList _).trans hvalid, hall⟩
        · rintro ⟨⟨rfl, hrest⟩, -, hall⟩
          exact ⟨rfl, hrest, hall⟩
      · rw [if_neg hvalid]
        constructor
        · intro h
          cases h.1
        · rintro ⟨⟨rfl, -⟩, hfirst, -⟩
          exact absurd ((Address.valid_ofList _).symm.trans hfirst) hvalid

namespace Dialogue

/-!
## Insisting on a question

A reply that is not accepted is answered with the same question. The replies are finite, so this
ends.
-/

section Insisting

variable {α : Type} {Accepts : String → α → Prop} {suggestion : Option String} {atEnd : Failure}

/-- What comes of a question that is asked once, and the replies that are left. -/
def once (suggestion : Option String) (atEnd : Failure) :
    List Reply → Except Failure String × List Reply
  | [] => (.error atEnd, [])
  | reply :: left => (reply.line suggestion, left)

/-- A reply that is a line, but none that is accepted. -/
def Rejected (Accepts : String → α → Prop) (suggestion : Option String) (reply : Reply) : Prop :=
  ∃ line, reply.line suggestion = .ok line ∧ ∀ a, ¬Accepts line a

/-- A question is asked so often, with this result, and these replies are left: it is asked once
for each rejected reply, and once more for a line that is accepted or for a failure. -/
inductive Insists (Accepts : String → α → Prop) (suggestion : Option String) (atEnd : Failure) :
    List Reply → Nat → Except Failure α → List Reply → Prop where
  | accepted {rejected replies left : List Reply} {line : String} {a : α}
      (hrejected : ∀ reply ∈ rejected, Rejected Accepts suggestion reply)
      (honce : once suggestion atEnd replies = (.ok line, left)) (haccepts : Accepts line a) :
      Insists Accepts suggestion atEnd (rejected ++ replies) (rejected.length + 1) (.ok a) left
  | failed {rejected replies left : List Reply} {cause : Failure}
      (hrejected : ∀ reply ∈ rejected, Rejected Accepts suggestion reply)
      (honce : once suggestion atEnd replies = (.error cause, left)) :
      Insists Accepts suggestion atEnd (rejected ++ replies) (rejected.length + 1)
        (.error cause) left

/-- A refused reply in front is one more question. -/
theorem Insists.cons {replies left : List Reply} {times : Nat} {result : Except Failure α}
    (h : Insists Accepts suggestion atEnd replies times result left) {reply : Reply}
    (hreply : Rejected Accepts suggestion reply) :
    Insists Accepts suggestion atEnd (reply :: replies) (times + 1) result left := by
  cases h with
  | accepted hrejected honce haccepts =>
    exact .accepted (List.forall_mem_cons.2 ⟨hreply, hrejected⟩) honce haccepts
  | failed hrejected honce =>
    exact .failed (List.forall_mem_cons.2 ⟨hreply, hrejected⟩) honce

/-- Something comes of every question, since the replies come to an end. -/
theorem exists_insists (Accepts : String → α → Prop) (suggestion : Option String) (atEnd : Failure)
    (replies : List Reply) :
    ∃ times result left, Insists Accepts suggestion atEnd replies times result left := by
  have hnone : ∀ reply ∈ ([] : List Reply), Rejected Accepts suggestion reply :=
    List.forall_mem_nil _
  -- A reply decides the question, or it is rejected and one reply less is left.
  induction replies with
  | nil => exact ⟨1, .error atEnd, [], .failed hnone rfl⟩
  | cons reply left ih =>
    cases hline : reply.line suggestion with
    | error cause =>
      exact ⟨1, .error cause, left, .failed hnone (by rw [once, hline])⟩
    | ok line =>
      by_cases haccepts : ∃ a, Accepts line a
      · obtain ⟨a, ha⟩ := haccepts
        exact ⟨1, .ok a, left, .accepted hnone (by rw [once, hline]) ha⟩
      · obtain ⟨times, result, rest, h⟩ := ih
        exact ⟨times + 1, result, rest, h.cons ⟨line, hline, not_exists.1 haccepts⟩⟩

variable {read : String → Option α} {question : String} {replies left : List Reply}

/-- After a refused reply the same question is asked again. -/
theorem enterUntil_of_rejected (hread : ∀ line a, read line = some a ↔ Accepts line a)
    {reply : Reply} (h : Rejected Accepts suggestion reply) :
    enterUntil read question suggestion atEnd (reply :: left) =
      { enterUntil read question suggestion atEnd left with
        asked := .enter question suggestion ::
          (enterUntil read question suggestion atEnd left).asked } := by
  obtain ⟨line, hline, hnot⟩ := h
  have hnone : read line = none :=
    Option.eq_none_iff_forall_ne_some.2 fun a ha => hnot a ((hread line a).1 ha)
  rw [enterUntil, hline]
  simp only [hnone]

/-- A reply that fails ends the questions. -/
theorem enterUntil_of_once_error {cause : Failure}
    (h : once suggestion atEnd replies = (.error cause, left)) :
    enterUntil read question suggestion atEnd replies =
      ⟨.error cause, left, [.enter question suggestion]⟩ := by
  cases replies with
  | nil =>
    cases h
    rfl
  | cons reply rest =>
    rw [once, Prod.mk.injEq] at h
    rw [enterUntil, h.1, h.2]

/-- A reply that is accepted ends them with its value. -/
theorem enterUntil_of_once_ok {line : String} {a : α}
    (h : once suggestion atEnd replies = (.ok line, left)) (ha : read line = some a) :
    enterUntil read question suggestion atEnd replies =
      ⟨.ok a, left, [.enter question suggestion]⟩ := by
  cases replies with
  | nil => nomatch h
  | cons reply rest =>
    rw [once, Prod.mk.injEq] at h
    rw [enterUntil, h.1, h.2]
    simp only [ha]

/-- Refused replies repeat the question, and then it goes on as without them. The induction is on
these. -/
theorem enterUntil_rejected_append (hread : ∀ line a, read line = some a ↔ Accepts line a)
    {rejected : List Reply} (hrejected : ∀ reply ∈ rejected, Rejected Accepts suggestion reply)
    {result : Except Failure α}
    (h : enterUntil read question suggestion atEnd replies =
      ⟨result, left, [.enter question suggestion]⟩) :
    enterUntil read question suggestion atEnd (rejected ++ replies) =
      ⟨result, left, List.replicate (rejected.length + 1) (.enter question suggestion)⟩ := by
  -- Every rejected reply puts the question once more in front of those for the rest.
  induction rejected with
  | nil => exact h
  | cons reply rejected ih =>
    obtain ⟨hreply, hrest⟩ := List.forall_mem_cons.1 hrejected
    rw [List.cons_append, enterUntil_of_rejected hread hreply, ih hrest]
    rfl

/-- Asking ends as insisting says, after as many questions. -/
theorem enterUntil_of_insists (hread : ∀ line a, read line = some a ↔ Accepts line a)
    {times : Nat} {result : Except Failure α}
    (h : Insists Accepts suggestion atEnd replies times result left) :
    enterUntil read question suggestion atEnd replies =
      ⟨result, left, List.replicate times (.enter question suggestion)⟩ := by
  cases h with
  | accepted hrejected honce haccepts =>
    exact enterUntil_rejected_append hread hrejected
      (enterUntil_of_once_ok honce ((hread _ _).2 haccepts))
  | failed hrejected honce =>
    exact enterUntil_rejected_append hread hrejected (enterUntil_of_once_error honce)

/-- A question that accepts every line is asked once. -/
theorem enterUntil_some (question : String) (suggestion : Option String) (atEnd : Failure)
    (replies : List Reply) :
    enterUntil some question suggestion atEnd replies =
      ⟨(once suggestion atEnd replies).1, (once suggestion atEnd replies).2,
        [.enter question suggestion]⟩ := by
  rcases honce : once suggestion atEnd replies with ⟨cause | line, left⟩
  · exact enterUntil_of_once_error honce
  · exact enterUntil_of_once_ok honce rfl

end Insisting

/-!
## What is asked, and what is accepted

Which lines are accepted is said by the grammar of addresses. The questions are texts with a
suggestion, if there is one.
-/

/-- The line is a list of recipients. -/
def IsRecipients (line : String) (addresses : List String) : Prop :=
  recipients line = .ok addresses

/-- The line is the address of a sender, the blanks around it apart. -/
def IsSender (line address : String) : Prop :=
  address = Text.trimmed line ∧ Address.valid address = true

/-- A line gives recipients if it is a list of addresses. -/
theorem recipientsOf?_eq_some_iff (line : String) (addresses : List String) :
    recipientsOf? line = some addresses ↔ IsRecipients line addresses := by
  rw [recipientsOf?, IsRecipients]
  exact ⟨eq_ok_of_toOption, fun h => by rw [h]; rfl⟩

/-- A line gives a sender if it is an address, apart from blanks around it. -/
theorem senderOf?_eq_some_iff (line address : String) :
    senderOf? line = some address ↔ IsSender line address := by
  rw [senderOf?, IsSender, Text.trimmed]
  by_cases hvalid : Address.isValid (Text.trim line.toList) = true
  · rw [if_pos hvalid, Option.some.injEq]
    constructor
    · rintro rfl
      exact ⟨rfl, (Address.valid_ofList _).trans hvalid⟩
    · exact fun h => h.1.symm
  · rw [if_neg hvalid]
    constructor
    · intro h
      cases h
    · rintro ⟨rfl, h⟩
      exact absurd ((Address.valid_ofList _).symm.trans h) hvalid

/-- The question for the template, among the labels of all of them. -/
def forTemplate (project : Project) : Question :=
  .choose "Select a template to send" (project.templates.map Template.label)

/-- The question for the recipients. -/
def forRecipients (suggestions : Suggestions) : Question :=
  .enter "To (separate multiple emails by commas)" suggestions.recipients

/-- The question for the sender. -/
def forSender (suggestions : Suggestions) : Question := .enter "From" suggestions.sender

/-- The question for the subject. -/
def forSubject (template : Template) (stamp : String) : Question :=
  .enter "Email subject" (some (suggestedSubject template stamp))

/-- The question for the key. -/
def forKey (suggestions : Suggestions) : Question := .enter "SendGrid api key" suggestions.key

/-!
## The whole dialogue

The questions one after another. Each may be the last, if its reply is a failure.
-/

/-- The recipients and the sender are found, with these questions, and these replies are left. -/
def Addressed (suggestions : Suggestions) (atEnd : Failure) (replies : List Reply)
    (recipients : List String) (sender : String) (asked : List Question) (left : List Reply) :
    Prop :=
  ∃ n m behind,
    Insists IsRecipients suggestions.recipients atEnd replies n (.ok recipients) behind ∧
    Insists IsSender suggestions.sender atEnd behind m (.ok sender) left ∧
    asked = List.replicate n (forRecipients suggestions) ++
      List.replicate m (forSender suggestions)

/-- The course of the questions behind the choice of a template: up to a failure, or to the key. -/
inductive Detailed (template : Template) (suggestions : Suggestions) (stamp : String)
    (atEnd : Failure) (replies : List Reply) : Except Failure Answers → List Question → Prop where
  | noRecipients {n : Nat} {cause : Failure} {left : List Reply}
      (hrecipients : Insists IsRecipients suggestions.recipients atEnd replies n (.error cause)
        left) :
      Detailed template suggestions stamp atEnd replies (.error cause)
        (List.replicate n (forRecipients suggestions))
  | noSender {n m : Nat} {recipients : List String} {cause : Failure} {behind left : List Reply}
      (hrecipients : Insists IsRecipients suggestions.recipients atEnd replies n (.ok recipients)
        behind)
      (hsender : Insists IsSender suggestions.sender atEnd behind m (.error cause) left) :
      Detailed template suggestions stamp atEnd replies (.error cause)
        (List.replicate n (forRecipients suggestions) ++
          List.replicate m (forSender suggestions))
  | noSubject {recipients : List String} {sender : String} {asked : List Question}
      {cause : Failure} {behind left : List Reply}
      (haddressed : Addressed suggestions atEnd replies recipients sender asked behind)
      (hsubject : once (some (suggestedSubject template stamp)) atEnd behind =
        (.error cause, left)) :
      Detailed template suggestions stamp atEnd replies (.error cause)
        (asked ++ [forSubject template stamp])
  | noKey {recipients : List String} {sender subject : String} {asked : List Question}
      {cause : Failure} {behind further left : List Reply}
      (haddressed : Addressed suggestions atEnd replies recipients sender asked behind)
      (hsubject : once (some (suggestedSubject template stamp)) atEnd behind =
        (.ok subject, further))
      (hkey : once suggestions.key atEnd further = (.error cause, left)) :
      Detailed template suggestions stamp atEnd replies (.error cause)
        (asked ++ [forSubject template stamp, forKey suggestions])
  | complete {recipients : List String} {sender subject key : String} {asked : List Question}
      {behind further left : List Reply}
      (haddressed : Addressed suggestions atEnd replies recipients sender asked behind)
      (hsubject : once (some (suggestedSubject template stamp)) atEnd behind =
        (.ok subject, further))
      (hkey : once suggestions.key atEnd further = (.ok key, left)) :
      Detailed template suggestions stamp atEnd replies
        (.ok { template, recipients, sender, subject, key })
        (asked ++ [forSubject template stamp, forKey suggestions])

/-- The course of a dialogue: a template is chosen, and the questions behind that are asked, unless
there is none at the position that was chosen. -/
inductive Conducted (project : Project) (answerer : Answerer) (suggestions : Suggestions)
    (stamp : String) : Except Failure Answers → List Question → Prop where
  | unchosen {cause : Failure} (hchoice : answerer.choice = .error cause) :
      Conducted project answerer suggestions stamp (.error cause) [forTemplate project]
  | outOfRange {i : Nat} (hchoice : answerer.choice = .ok i)
      (hrange : project.templates.length ≤ i) :
      Conducted project answerer suggestions stamp (.error (.answer (.noTemplate i)))
        [forTemplate project]
  | chosen {i : Nat} {template : Template} {result : Except Failure Answers}
      {asked : List Question} (hchoice : answerer.choice = .ok i)
      (htemplate : project.templates[i]? = some template)
      (hdetailed : Detailed template suggestions stamp answerer.atEnd answerer.replies result
        asked) :
      Conducted project answerer suggestions stamp result (forTemplate project :: asked)

section Course

variable {α β : Type}

/-- A turn that fails is the last. -/
theorem Turn.andThen_error (cause : Failure) (left : List Reply) (asked : List Question)
    (next : α → List Reply → Turn β) :
    Turn.andThen ⟨.error cause, left, asked⟩ next = ⟨.error cause, left, asked⟩ := rfl

theorem Turn.andThen_ok (a : α) (left : List Reply) (asked : List Question)
    (next : α → List Reply → Turn β) :
    Turn.andThen ⟨.ok a, left, asked⟩ next =
      ⟨(next a left).result, (next a left).left, asked ++ (next a left).asked⟩ := rfl

variable {template : Template} {suggestions : Suggestions} {stamp : String} {atEnd : Failure}
  {replies : List Reply}

/-- What is asked for behind the addresses is the subject and the key. -/
theorem details_of_addressed {recipients : List String} {sender : String} {asked : List Question}
    {left : List Reply}
    (h : Addressed suggestions atEnd replies recipients sender asked left) :
    details template suggestions stamp atEnd replies =
      Turn.andThen ⟨.ok (), left, asked⟩ fun _ left =>
        (enterUntil some "Email subject" (some (suggestedSubject template stamp)) atEnd
          left).andThen fun subject left =>
        (enterUntil some "SendGrid api key" suggestions.key atEnd left).andThen fun key left =>
          ⟨.ok { template, recipients, sender, subject, key }, left, []⟩ := by
  obtain ⟨n, m, behind, hrecipients, hsender, rfl⟩ := h
  rw [details, enterUntil_of_insists recipientsOf?_eq_some_iff hrecipients, Turn.andThen_ok,
    enterUntil_of_insists senderOf?_eq_some_iff hsender, Turn.andThen_ok, Turn.andThen_ok,
    ← List.append_assoc]
  rfl

/-- The questions take the course that is described. -/
theorem details_of_detailed {result : Except Failure Answers} {asked : List Question}
    (h : Detailed template suggestions stamp atEnd replies result asked) :
    (details template suggestions stamp atEnd replies).result = result ∧
      (details template suggestions stamp atEnd replies).asked = asked := by
  cases h with
  | noRecipients hrecipients =>
    rw [details, enterUntil_of_insists recipientsOf?_eq_some_iff hrecipients, Turn.andThen_error]
    exact ⟨rfl, rfl⟩
  | noSender hrecipients hsender =>
    rw [details, enterUntil_of_insists recipientsOf?_eq_some_iff hrecipients, Turn.andThen_ok,
      enterUntil_of_insists senderOf?_eq_some_iff hsender, Turn.andThen_error]
    exact ⟨rfl, rfl⟩
  | noSubject haddressed hsubject =>
    rw [details_of_addressed haddressed, Turn.andThen_ok, enterUntil_some, hsubject]
    exact ⟨rfl, rfl⟩
  | noKey haddressed hsubject hkey =>
    rw [details_of_addressed haddressed, Turn.andThen_ok, enterUntil_some, hsubject,
      Turn.andThen_ok, enterUntil_some, hkey]
    exact ⟨rfl, rfl⟩
  | complete haddressed hsubject hkey =>
    rw [details_of_addressed haddressed, Turn.andThen_ok, enterUntil_some, hsubject,
      Turn.andThen_ok, enterUntil_some, hkey]
    exact ⟨rfl, rfl⟩

/-- Whatever the replies, the details end in one of the ways told. -/
theorem exists_detailed (template : Template) (suggestions : Suggestions) (stamp : String)
    (atEnd : Failure) (replies : List Reply) :
    ∃ result asked, Detailed template suggestions stamp atEnd replies result asked := by
  obtain ⟨n, foundRecipients, behind, hrecipients⟩ :=
    exists_insists IsRecipients suggestions.recipients atEnd replies
  rcases foundRecipients with cause | recipients
  · exact ⟨_, _, .noRecipients hrecipients⟩
  obtain ⟨m, foundSender, further, hsender⟩ :=
    exists_insists IsSender suggestions.sender atEnd behind
  rcases foundSender with cause | sender
  · exact ⟨_, _, .noSender hrecipients hsender⟩
  have haddressed : Addressed suggestions atEnd replies recipients sender _ further :=
    ⟨n, m, behind, hrecipients, hsender, rfl⟩
  rcases hsubject : once (some (suggestedSubject template stamp)) atEnd further with
    ⟨cause | subject, left⟩
  · exact ⟨_, _, .noSubject haddressed hsubject⟩
  rcases hkey : once suggestions.key atEnd left with ⟨cause | key, rest⟩
  · exact ⟨_, _, .noKey haddressed hsubject hkey⟩
  · exact ⟨_, _, .complete haddressed hsubject hkey⟩

variable {project : Project} {answerer : Answerer}

/-- What is conducted as told is what asking gives. -/
theorem ask_of_conducted {result : Except Failure Answers} {asked : List Question}
    (h : Conducted project answerer suggestions stamp result asked) :
    ask project answerer suggestions stamp = (result, asked) := by
  cases h with
  | unchosen hchoice =>
    rw [ask, hchoice]
    rfl
  | outOfRange hchoice hrange =>
    rw [ask, hchoice, chosen, List.getElem?_eq_none hrange]
    rfl
  | chosen hchoice htemplate hdetailed =>
    obtain ⟨hresult, hasked⟩ := details_of_detailed hdetailed
    rw [ask, hchoice, chosen, htemplate]
    exact Prod.ext hresult (congrArg (forTemplate project :: ·) hasked)

/-- Every dialogue is conducted in some way. -/
theorem exists_conducted (project : Project) (answerer : Answerer) (suggestions : Suggestions)
    (stamp : String) :
    ∃ result asked, Conducted project answerer suggestions stamp result asked := by
  cases hchoice : answerer.choice with
  | error cause => exact ⟨_, _, .unchosen hchoice⟩
  | ok i =>
    cases htemplate : project.templates[i]? with
    | none => exact ⟨_, _, .outOfRange hchoice (List.getElem?_eq_none_iff.1 htemplate)⟩
    | some template =>
      obtain ⟨result, asked, h⟩ :=
        exists_detailed template suggestions stamp answerer.atEnd answerer.replies
      exact ⟨result, _, .chosen hchoice htemplate h⟩

/-- What insisting ends with was accepted. -/
theorem Insists.accepts {Accepts : String → α → Prop} {suggestion : Option String} {times : Nat}
    {a : α} {left : List Reply}
    (h : Insists Accepts suggestion atEnd replies times (.ok a) left) : ∃ line, Accepts line a := by
  cases h with
  | accepted _ _ haccepts => exact ⟨_, haccepts⟩

/-- What is found out is valid: a template of the project, at least one recipient, and nothing but
addresses. -/
theorem Conducted.valid {answers : Answers} {asked : List Question}
    (h : Conducted project answerer suggestions stamp (.ok answers) asked) :
    answers.template ∈ project.templates ∧ answers.recipients ≠ [] ∧
      (∀ recipient ∈ answers.recipients, Address.valid recipient = true) ∧
      Address.valid answers.sender = true := by
  cases h with
  | chosen _ htemplate hdetailed =>
    cases hdetailed with
    | complete haddressed _ _ =>
      obtain ⟨_, _, _, hrecipients, hsender, -⟩ := haddressed
      obtain ⟨line, hline⟩ := hrecipients.accepts
      obtain ⟨_, -, hvalid⟩ := hsender.accepts
      exact ⟨List.mem_of_getElem? htemplate,
        recipients_ne_nil ((recipientsOf?_eq_some_iff line _).2 hline),
        (recipients_eq_ok_iff.1 hline).2, hvalid⟩

end Course

end Dialogue

/-- A dialogue takes the course that is described, and no other one; what is found out at its end is
valid. -/
theorem ask_conducts (project : Project) (answerer : Answerer) (suggestions : Suggestions)
    (stamp : String) :
    (∀ result asked, ask project answerer suggestions stamp = (result, asked) ↔
      Dialogue.Conducted project answerer suggestions stamp result asked) ∧
    ∀ answers, (ask project answerer suggestions stamp).1 = .ok answers →
      answers.template ∈ project.templates ∧ answers.recipients ≠ [] ∧
        (∀ recipient ∈ answers.recipients, Address.valid recipient = true) ∧
        Address.valid answers.sender = true := by
  have hiff : ∀ result asked, ask project answerer suggestions stamp = (result, asked) ↔
      Dialogue.Conducted project answerer suggestions stamp result asked := by
    intro result asked
    constructor
    · intro h
      obtain ⟨result', asked', hconducted⟩ :=
        Dialogue.exists_conducted project answerer suggestions stamp
      rw [Dialogue.ask_of_conducted hconducted, Prod.mk.injEq] at h
      obtain ⟨rfl, rfl⟩ := h
      exact hconducted
    · exact Dialogue.ask_of_conducted
  refine ⟨hiff, fun answers hanswers => ?_⟩
  exact ((hiff (.ok answers) (ask project answerer suggestions stamp).2).1
    (Prod.ext hanswers rfl)).valid

example (project : Project) (template : Template) :
    ask { project with templates := [template] }
      ⟨.ok 0, [.text "a@example.com, nope", .accepted, .text "ada@example.com", .text "Hello",
        .accepted], .noTerminal⟩
      { recipients := some "qa@example.com", key := some "secret" } "now" =
      (.ok ⟨template, ["qa@example.com"], "ada@example.com", "Hello", "secret"⟩,
        [.choose "Select a template to send" [template.label],
          .enter "To (separate multiple emails by commas)" (some "qa@example.com"),
          .enter "To (separate multiple emails by commas)" (some "qa@example.com"),
          .enter "From" none,
          .enter "Email subject" (some (Dialogue.suggestedSubject template "now")),
          .enter "SendGrid api key" (some "secret")]) := by
  rfl

end MailTemplates
