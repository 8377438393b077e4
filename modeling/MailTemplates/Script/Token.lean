import MailTemplates.Script.Basic
/-!
# Tokens

What a script is cut into before its commands are read, and what can be wrong with a script. Words
that open, join or close commands are keywords; they are words like others anywhere else.
-/

namespace MailTemplates.Script

/-- A token. -/
inductive Token where
  | finish
  | newline
  | operator (text : String)
  | redirect (channel : Option Nat) (operator : String)
  | word (parts : Word)

namespace Token

/-- The words that open, join or close commands. -/
def keywords : List String :=
  ["!", "case", "do", "done", "elif", "else", "esac", "fi", "for", "if", "in", "then", "until",
    "while", "\x7b", "\x7d"]

/-- The text of a word without quotes and without parts that are filled in. -/
def bare? : Word → Option String
  | [] => some ""
  | [.text false cs] => some (String.ofList cs)
  | _ => none

/-- The keyword that a token is. -/
def keyword? : Token → Option String
  | .word w => (bare? w).filter keywords.contains
  | _ => none

/-- Whether a token is a keyword or an operator. -/
def is (text : String) : Token → Bool
  | .operator op => op == text
  | t => t.keyword? == some text

/-- Whether a list of commands can end in front of a token. -/
def endsList (t : Token) : Bool :=
  match t with
  | .finish => true
  | _ => [")", ";;", "do", "done", "elif", "else", "esac", "fi", "then", "\x7d"].any fun e => t.is e

/-- A token as complaints show it. -/
def shown (t : Token) : String :=
  match t with
  | .finish => "end of file"
  | .newline => "newline"
  | .operator text => s!"\"{text}\""
  | .redirect _ _ => "redirection"
  | .word _ =>
    match t.keyword? with
    | some text => s!"\"{text}\""
    | none => "word"

end Token

/-- What can be wrong with a script. -/
inductive Flaw where
  | unexpected (found : String) (expected : Option String)
  | openQuote
  | openSubstitution
  | missing (text : String)
  | badFunctionName
  | badLoopVariable
  | badChannel
deriving DecidableEq, Repr

/-- The wording of a flaw. -/
def Flaw.message : Flaw → String
  | unexpected found none => s!"{found} unexpected"
  | unexpected found (some expected) => s!"{found} unexpected (expecting {expected})"
  | openQuote => "Unterminated quoted string"
  | openSubstitution => "EOF in backquote substitution"
  | missing text => s!"Missing '{text}'"
  | badFunctionName => "Bad function name"
  | badLoopVariable => "Bad for loop variable"
  | badChannel => "Bad fd number"

/-- A flaw and its line. -/
structure Problem where
  line : Nat
  flaw : Flaw
deriving DecidableEq, Repr

/-! ## Reading -/

/-- How far a script has been read. -/
structure Place where
  rest : List Char
  line : Nat
  /-- How many lines behind this one have been read already. -/
  skipped : Nat := 0
  /-- A token that is to be read again. -/
  pushed : Option Token := none

/-- Reads on in a script. -/
abbrev Reading := StateT Place (Except Problem)

/-- Finds something wrong where the script is read. -/
def flawed {α : Type} (flaw : Flaw) : Reading α := fun p => .error ⟨p.line, flaw⟩

/-- Finds a token that cannot stand where it does. -/
def unexpected {α : Type} (t : Token) (expected : Option String) : Reading α :=
  flawed (.unexpected t.shown (expected.map fun e => s!"\"{e}\""))

/-- Reads a token again. -/
def pushBack (t : Token) : Reading Unit := modify fun p => { p with pushed := some t }

/-- How a list of commands is read. -/
inductive ListKind where
  /-- Up to the end of the line. -/
  | line
  /-- With one command at least. -/
  | needed
  | free
deriving DecidableEq, Repr

/-- How what stands inside commands and words is read. -/
structure Nested where
  list : ListKind → Reading (List Command)
  command : Reading Command

end MailTemplates.Script
