/-!
# Scripts

A program of a file tree is a script for the shell. A script is a list of commands, and a command is
made of words, of redirections and of other commands. A word holds texts, parameters, the output of
commands and the results of calculations, which are filled in when the command is run.
-/

namespace MailTemplates.Script

/-- How a redirection opens a file. -/
inductive Opening where
  | reading
  | writing
  | appending
  | both
deriving DecidableEq, Repr

/-- What another word is for, when a parameter has no value. -/
inductive Fallback where
  /-- The word stands for the parameter. -/
  | stand
  /-- The word stands for the parameter and becomes its value. -/
  | assign
  /-- The word is a complaint, and the script ends. -/
  | complain
  /-- The word stands for the parameter if that does have a value. -/
  | replace
deriving DecidableEq, Repr

mutual
/-- A part of a word. A part in double quotes is neither split into fields nor read as a pattern. -/
inductive WordPart where
  | text (quoted : Bool) (content : List Char)
  | parameter (quoted : Bool) (name : String) (usage : Usage)
  /-- What commands write. -/
  | output (quoted : Bool) (body : List Command)
  /-- The result of a calculation. -/
  | number (quoted : Bool) (expression : List WordPart)

/-- What is made of the value of a parameter. -/
inductive Usage where
  | value
  | length
  /-- Another word, if the parameter is not set, or if it is empty and that counts too. -/
  | fallback (kind : Fallback) (orEmpty : Bool) (word : List WordPart)
  /-- The value without the shortest or longest text at one of its ends that fits a pattern. -/
  | cut (atEnd longest : Bool) (pattern : List WordPart)
  /-- Something that cannot be done with a parameter. -/
  | bad

/-- Says where a channel of a command leads. -/
inductive Redirection where
  | file (channel : Nat) (opening : Opening) (target : List WordPart)
  /-- To where another channel leads, or nowhere. -/
  | copy (channel : Nat) (source : List WordPart)
  /-- From a text in the script. -/
  | document (channel : Nat) (body : List WordPart)

/-- A command. -/
inductive Command where
  | simple (line : Nat) (assignments : List (String × List WordPart))
      (words : List (List WordPart)) (redirections : List Redirection)
  /-- Commands of which each one reads what the one before it writes. -/
  | pipe (stages : List Command)
  | negated (command : Command)
  /-- Goes on if the first one succeeds, or only if it does not. -/
  | onward (ifSuccess : Bool) (first second : Command)
  /-- A command for whose end nobody waits. -/
  | background (command : Command)
  | group (body : List Command)
  /-- Commands that change nothing for those behind them. -/
  | apart (body : List Command)
  /-- Goes one way if the condition succeeds, and else the other way. -/
  | choose (condition yes no : List Command)
  /-- Repeats a body as long as the condition succeeds, or as long as it does not. -/
  | loop (whileSuccess : Bool) (condition body : List Command)
  /-- Repeats a body for each item, or for each argument. -/
  | each (name : String) (items : Option (List (List WordPart))) (body : List Command)
  /-- The body of the first branch with a pattern that fits the subject. -/
  | select (subject : List WordPart) (branches : List (List (List WordPart) × List Command))
  | function (name : String) (body : Command)
  | redirected (command : Command) (redirections : List Redirection)
end

/-- A word as it is written. -/
abbrev Word := List WordPart

end MailTemplates.Script
