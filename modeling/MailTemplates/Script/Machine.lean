import MailTemplates.FileTree.Write
import MailTemplates.Script.ByteText
import MailTemplates.Script.Parser
/-!
# The state of a running script

A script has arguments, variables, functions and channels. Channel 0 is its input, 1 its output and
2 what it complains into. A channel leads to a buffer, which holds what has been written and not yet
been read, or to a file.
-/

namespace MailTemplates.Script

/-- Where a channel leads. -/
inductive Channel where
  | buffer (index : Nat)
  | nowhere
  | zeros
  | file (path : Path)
deriving DecidableEq, Repr

/-- What has been written and not yet been read. -/
structure Buffer where
  front : List Char
  /-- The texts behind the front, the last one first. -/
  added : List (List Char) := []

namespace Buffer

/-- All that is in a buffer. -/
def text (b : Buffer) : List Char :=
  if b.added.isEmpty then b.front else b.front ++ b.added.reverse.flatten

/-- Adds a text. -/
def add (b : Buffer) (text : List Char) : Buffer := { b with added := text :: b.added }

end Buffer

/-- Why commands are not gone on with. -/
inductive Jump where
  /-- The script ends. -/
  | exit (status : Nat)
  | killed (signal : Nat)
  /-- A function ends. -/
  | back
  /-- So many loops end, or the last of them goes on with its next round. -/
  | leave (loops : Nat) (again : Bool)
deriving DecidableEq, Repr

/-- The state of a running script. -/
structure Machine where
  /-- The path of the script. -/
  script : String
  arguments : List String
  values : List (String × String) := []
  /-- The variables that programs are given too. -/
  exported : List String := []
  /-- The variables that keep their values. -/
  fixed : List String := []
  /-- The values that variables have again at the end of the function that is running. -/
  hidden : Option (List (String × Option String)) := none
  functions : List (String × Command) := []
  /-- The letters of the options that are on. -/
  options : List Char := []
  channels : List (Nat × Channel)
  buffers : Array Buffer
  tree : FileTree
  directory : Path
  /-- The status of the last command. -/
  status : Nat := 0
  /-- The line of the last command. -/
  line : Nat := 1
  jump : Option Jump := none
  /-- What is done at a signal, or at the end if the number is zero; nothing if that is empty. -/
  traps : List (Nat × String) := []
  /-- What is still to be done because of signals. -/
  pending : List String := []
  /-- How many loops are running. -/
  loops : Nat := 0
  /-- The status of the last commands whose output was filled in. -/
  captured : Option Nat := none
  /-- How many letters of an argument have been taken as options. -/
  lettersTaken : Nat := 0

namespace Machine

/-! ## Variables -/

/-- The value of a variable. -/
def assigned? (m : Machine) (name : String) : Option String := m.values.lookup name

/-- Gives a variable a value, whatever it is. -/
def store (m : Machine) (name value : String) : Machine :=
  { m with values := (name, value) :: m.values.filter fun v => v.1 != name }

/-- Takes a variable its value. -/
def unset (m : Machine) (name : String) : Machine :=
  { m with values := m.values.filter fun v => v.1 != name }

/-- Gives a variable the value that it had before. -/
def restore (m : Machine) (name : String) (value : Option String) : Machine :=
  match value with
  | some v => m.store name v
  | none => m.unset name

/-- What stands for the number of the process. -/
def processNumber : String := "$$"

/-- Whether an option is on. -/
def has (m : Machine) (option : Char) : Bool := m.options.contains option

/-- The value of a variable, an argument or a special name, if it has one. -/
def value? (m : Machine) (name : String) : Option String :=
  match name with
  | "#" => some (toString m.arguments.length)
  | "?" => some (toString m.status)
  | "$" => some processNumber
  | "-" => some (String.ofList m.options)
  | "!" => none
  | "0" => some m.script
  | _ =>
    match name.toNat? with
    | some n => m.arguments[n - 1]?
    | none => m.assigned? name

/-- The characters that divide fields. -/
def separators (m : Machine) : List Char := ((m.assigned? "IFS").getD " \t\n").toList

/-! ## Channels -/

/-- Where a channel leads. -/
def channel? (m : Machine) (n : Nat) : Option Channel := m.channels.lookup n

/-- Leads a channel somewhere. -/
def lead (m : Machine) (n : Nat) (c : Channel) : Machine :=
  { m with channels := (n, c) :: m.channels.filter fun e => e.1 != n }

/-- Closes a channel. -/
def close (m : Machine) (n : Nat) : Machine :=
  { m with channels := m.channels.filter fun e => e.1 != n }

/-- A new buffer with a text in it. -/
def newBuffer (m : Machine) (text : List Char) : Machine × Channel :=
  ({ m with buffers := m.buffers.push { front := text } }, .buffer m.buffers.size)

/-- What is in a buffer. -/
def contents (m : Machine) : Channel → List Char
  | .buffer i => (m.buffers[i]?).elim [] Buffer.text
  | _ => []

/-- Puts something else into a buffer. -/
def refill (m : Machine) (c : Channel) (text : List Char) : Machine :=
  match c with
  | .buffer i => { m with buffers := m.buffers.setIfInBounds i { front := text } }
  | _ => m

/-- The path that a name means. -/
def path (m : Machine) (name : String) : Path := m.directory.join ⟨ByteText.decode name⟩

/-- Writes to where a channel leads. -/
def putTo (m : Machine) (c : Channel) (text : List Char) : Machine :=
  match c with
  | .buffer i => { m with buffers := m.buffers.modify i (·.add text) }
  | .nowhere | .zeros => m
  | .file path =>
    match m.tree.readBytes path with
    | .error _ => m
    | .ok before =>
      match m.tree.write path (before ++ ByteText.toBytes text) with
      | .ok tree => { m with tree }
      | .error _ => m

/-- Writes to a channel. -/
def putOn (m : Machine) (n : Nat) (text : List Char) : Machine :=
  match m.channel? n with
  | some c => if text.isEmpty then m else m.putTo c text
  | none => m

/-- Writes to the output. -/
def put (m : Machine) (text : String) : Machine := m.putOn 1 text.toList

/-- The input that is left. -/
def input (m : Machine) : List Char := (m.channel? 0).elim [] m.contents

/-- Leaves a part of the input. -/
def setInput (m : Machine) (text : List Char) : Machine :=
  match m.channel? 0 with
  | some c => m.refill c text
  | none => m

/-! ## Complaints -/

/-- Writes a line to where complaints go. -/
def warn (m : Machine) (text : String) : Machine := m.putOn 2 (text ++ "\n").toList

/-- A complaint of the shell, with the script and the line. -/
def complain (m : Machine) (text : String) : Machine := m.warn s!"{m.script}: {m.line}: {text}"

/-- Complains and fails. -/
def failed (m : Machine) (text : String) (status : Nat) : Machine :=
  { m.complain text with status }

/-- Complains and ends the script. -/
def broken (m : Machine) (text : String) : Machine :=
  { m.complain text with status := 2, jump := some (.exit 2) }

/-- Gives a variable a value, if it does not keep its own. -/
def assign (m : Machine) (name value : String) : Machine :=
  if m.fixed.contains name then m.broken s!"{name}: is read only" else m.store name value

/-! ## Files -/

/-- What is in a file. -/
def fileText (m : Machine) (name : String) : Except FileProblem (List Char) :=
  match name with
  | "/dev/null" => .ok []
  | "/dev/stdin" => .ok m.input
  | _ => (m.tree.readBytes (m.path name)).map ByteText.ofBytes

end Machine

end MailTemplates.Script
