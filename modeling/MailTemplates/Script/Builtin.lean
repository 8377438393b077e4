import MailTemplates.Failure
import MailTemplates.Script.Expansion
import MailTemplates.Script.Format
import MailTemplates.Script.Test
import MailTemplates.Script.Tool.Table
/-!
# Commands of the shell

The commands that change the state of the script, or that need no other command to be run.

A command of the shell is a function from a state and words to a state. Its result is the status in
that state; one that ends the script sets the jump.
-/

namespace MailTemplates.Script

/-- A command that runs with the words behind its name. -/
abbrev Builtin := Machine → List String → Machine

namespace Builtin

private def succeeded (m : Machine) : Machine := { m with status := 0 }

private def number? (s : String) : Option Nat :=
  let ds := s.toList.dropWhile fun c => c == ' '
  if !ds.isEmpty && ds.all Char.isDigit then
    some (ds.foldl (fun n c => n * 10 + (c.toNat - 0x30)) 0)
  else none

/-- A complaint of a command that ends the script, and that of one that fails only. -/
private def brokenBy (m : Machine) (name text : String) : Machine :=
  m.broken s!"{name}: {text}"

private def failedBy (m : Machine) (name text : String) : Machine :=
  m.failed s!"{name}: {text}" 2

/-! ## Output -/

/-- Writes a text for a command, which fails if there is no output. -/
private def wrote (m : Machine) (name : String) (text : List Char) (status : Nat) : Machine :=
  if (m.channel? 1).isNone && !text.isEmpty then
    { m.complain s!"{name}: {name}: I/O error" with status := 1 }
  else { m.putOn 1 text with status }

/-- Writes words with blanks between them. -/
def echo : Builtin := fun m args =>
  let text := match args with
    | "-n" :: rest => Format.echoed false rest
    | _ => Format.echoed true args
  wrote m "echo" text 0

/-- Writes words as a format says. -/
def printf : Builtin := fun m args =>
  let args := match args with
    | "--" :: rest => rest
    | _ => args
  match args with
  | [] => failedBy m "printf" "usage: printf format [arg ...]"
  | format :: args =>
    let f := Format.filled format args
    let m := f.complaints.foldl (fun m c => m.complain s!"printf: {c}") m
    let m := wrote m "printf" f.done.reverse (if f.complaints.isEmpty then 0 else 1)
    match f.refused with
    | some text => failedBy m "printf" text
    | none => m

/-! ## Tests -/

/-- Whether a test holds. -/
def test (name : String) : Builtin := fun m args =>
  match Test.holds m (args.length + 1) args with
  | .ok b => { m with status := if b then 0 else 1 }
  | .error text => failedBy m name text

/-- A test in brackets. -/
def bracket : Builtin := fun m args =>
  if args.getLast? == some "]" then test "[" m args.dropLast
  else failedBy m "[" "missing ]"

/-! ## Arguments and variables -/

/-- Drops arguments from the front. -/
def shift : Builtin := fun m args =>
  match args with
  | [] =>
    if m.arguments.isEmpty then brokenBy m "shift" "can't shift that many"
    else succeeded { m with arguments := m.arguments.drop 1 }
  | n :: _ =>
    match number? n with
    | none => brokenBy m "shift" s!"Illegal number: {n}"
    | some n =>
      if m.arguments.length < n then brokenBy m "shift" "can't shift that many"
      else succeeded { m with arguments := m.arguments.drop n }

/-- The letters of options by their names. -/
private def optionNames : List (String × Char) :=
  [("errexit", 'e'), ("nounset", 'u'), ("xtrace", 'x'), ("noglob", 'f'), ("verbose", 'v'),
    ("allexport", 'a'), ("noclobber", 'C'), ("notify", 'b'), ("monitor", 'm'), ("noexec", 'n')]

private def switch (m : Machine) (on : Bool) (c : Char) : Machine :=
  let others := m.options.filter (· != c)
  { m with options := if on then c :: others else others }

/-- Turns options on or off and sets the arguments. -/
def set : Nat → Builtin
  | 0, m, _ => m
  | fuel + 1, m, args =>
    match args with
    | [] => succeeded m
    | "--" :: rest => succeeded { m with arguments := rest }
    | "-" :: rest => if rest.isEmpty then succeeded m else succeeded { m with arguments := rest }
    | arg :: rest =>
      match arg.toList with
      | sign :: letters =>
        if sign == '-' || sign == '+' then
          if letters == ['o'] then
            match rest with
            | name :: rest =>
              match optionNames.lookup name with
              | some c => set fuel (switch m (sign == '-') c) rest
              | none => brokenBy m "set" s!"Illegal option {arg} {name}"
            | [] => succeeded m
          else
            let known := optionNames.map (·.2)
            -- a letter for a named option may end the others
            let plain := letters.filter (· != 'o')
            match plain.find? fun c => !known.contains c with
            | some c => brokenBy m "set" s!"Illegal option {sign}{c}"
            | none =>
              let m := plain.foldl (fun m c => switch m (sign == '-') c) m
              if letters.contains 'o' then set fuel m (s!"{sign}o" :: rest) else set fuel m rest
        else succeeded { m with arguments := args }
      | [] => succeeded { m with arguments := args }

/-- A name and, behind an equals sign, a value. -/
def nameAndValue (s : String) : String × Option String :=
  let name := s.toList.takeWhile (· != '=')
  (String.ofList name,
    if name.length == s.length then none
    else some (String.ofList (s.toList.drop (name.length + 1))))

/-- Gives variables values, or names them only, and notes something about them. -/
def declare (command : String) (note : Machine → String → Machine) : Builtin := fun m args =>
  let args := args.filter fun a => a != "-p" && a != "--"
  args.foldl (fun m a =>
    let (name, value) := nameAndValue a
    if m.jump.isSome then m
    else if !isName name then brokenBy m command s!"{name}: bad variable name"
    else
      match value with
      | some v =>
        let m := m.assign name v
        if m.jump.isSome then m else note m name
      | none => note m name) (succeeded m)

/-- Programs are given these variables too. -/
def exportNames : Builtin :=
  declare "export" fun m name => { m with exported := name :: m.exported }

/-- These variables keep their values. -/
def fixNames : Builtin := declare "readonly" fun m name => { m with fixed := name :: m.fixed }

/-- Gives variables values until the end of the function. -/
def localNames : Builtin := fun m args =>
  match m.hidden with
  | none => brokenBy m "local" "not in a function"
  | some _ =>
    args.foldl (fun m a =>
      let (name, value) := nameAndValue a
      if m.jump.isSome then m
      else if !isName name then brokenBy m "local" s!"{name}: bad variable name"
      else
        let m := { m with hidden := m.hidden.map ((name, m.assigned? name) :: ·) }
        match value with
        | some v => m.assign name v
        | none => m) (succeeded m)

/-- Takes variables their values, or functions their bodies. -/
def unset : Builtin := fun m args =>
  let unsetAll (names : List String) : Machine :=
    match names.find? m.fixed.contains with
    | some name => brokenBy m "unset" s!"{name}: is read only"
    | none => succeeded (names.foldl Machine.unset m)
  match args with
  | "-f" :: names =>
    succeeded { m with functions := m.functions.filter fun f => !names.contains f.1 }
  | "-v" :: names => unsetAll names
  | names => unsetAll names

/-- Takes the next letter of an option from the arguments; `next` is the number of the argument that
is looked at. -/
def nextOption (m : Machine) (letters name : String) (args : List String) (next : Nat) :
    Machine :=
  let silent := letters.startsWith ":"
  let known := letters.toList.drop (if silent then 1 else 0)
  let finished (next : Nat) : Machine :=
    { ((m.store name "?").store "OPTIND" (toString next)) with status := 1, lettersTaken := 0 }
  match (args[next - 1]?).map String.toList with
  | some ('-' :: c :: cs) =>
    -- Two hyphens end the options and are passed themselves.
    if m.lettersTaken == 0 && c == '-' && cs.isEmpty then finished (next + 1)
    else
      let rest := (c :: cs).drop m.lettersTaken
      let letter := rest.head?.getD '?'
      let behind := rest.drop 1
      let text := String.singleton letter
      let onward (m : Machine) (next taken : Nat) (value : String) : Machine :=
        { ((m.store name value).store "OPTIND" (toString next)) with
          status := 0, lettersTaken := taken }
      let plain (m : Machine) (value : String) : Machine :=
        if behind.isEmpty then onward m (next + 1) 0 value
        else onward m next (m.lettersTaken + 1) value
      match known.dropWhile (· != letter) with
      | [] =>
        if silent then plain (m.store "OPTARG" text) "?"
        else plain ((m.unset "OPTARG").warn s!"Illegal option -{text}") "?"
      | _ :: ':' :: _ =>
        if !behind.isEmpty then
          onward (m.store "OPTARG" (String.ofList behind)) (next + 1) 0 text
        else
          match args[next]? with
          | some value => onward (m.store "OPTARG" value) (next + 2) 0 text
          | none =>
            if silent then onward (m.store "OPTARG" text) (next + 1) 0 ":"
            else
              onward ((m.unset "OPTARG").warn s!"No arg for -{text} option") (next + 1) 0 "?"
      | _ => plain (m.store "OPTARG" "") text
  | _ => finished next

/-- Takes the next option from the arguments of the script, or from other words. -/
def getopts : Builtin := fun m args =>
  match args with
  | letters :: name :: words =>
    let next := ((m.assigned? "OPTIND").bind String.toNat?).getD 1
    nextOption m letters name (if words.isEmpty then m.arguments else words) (max next 1)
  | _ => failedBy m "getopts" "Usage: getopts optstring var [arg...]"

/-! ## Reading -/

/-- The first line of a text, with the characters that a backslash quotes marked, what is behind it,
and whether it has an end. -/
def readLine (raw : Bool) : Field → List Char → Field × List Char × Bool
  | done, [] => (done.reverse, [], false)
  | done, '\n' :: rest => (done.reverse, rest, true)
  | done, '\\' :: c :: rest =>
    if raw then readLine raw (('\\', true) :: done) (c :: rest)
    else if c == '\n' then readLine raw done rest
    else readLine raw ((c, true) :: done) rest
  | done, c :: rest => readLine raw ((c, false) :: done) rest

private def isBlankIn (separators : List Char) (f : Char × Bool) : Bool :=
  !f.2 && separators.contains f.1 && (f.1 == ' ' || f.1 == '\t' || f.1 == '\n')

private def separates (separators : List Char) (f : Char × Bool) : Bool :=
  !f.2 && separators.contains f.1

/-- A line divided among so many names; the last one gets all that is left. -/
def divided (separators : List Char) : Nat → Field → List String
  | 0, _ => []
  | 1, line =>
    let line := line.dropWhile (isBlankIn separators)
    let line := (line.reverse.dropWhile (isBlankIn separators)).reverse
    -- a separator at the end of the only field left is dropped
    let inner := line.takeWhile fun f => !separates separators f
    let line := if line.length == inner.length + 1 then inner else line
    [Field.text line]
  | n + 2, line =>
    let line := line.dropWhile (isBlankIn separators)
    let field := line.takeWhile fun f => !separates separators f
    let rest := (line.drop field.length).dropWhile (isBlankIn separators)
    let rest := match rest with
      | f :: more =>
        if separates separators f && !isBlankIn separators f then more else rest
      | [] => []
    Field.text field :: divided separators (n + 1) rest

/-- Reads a line into variables. -/
def read : Builtin := fun m args =>
  let (raw, names) := match args with
    | "-r" :: "-p" :: _ :: names | "-p" :: _ :: "-r" :: names => (true, names)
    | "-r" :: names => (true, names)
    | "-p" :: _ :: names => (false, names)
    | names => (false, names)
  match names with
  | [] => failedBy m "read" "arg count"
  | names =>
    let (line, rest, ended) := readLine raw [] m.input
    let m := m.setInput rest
    let values := divided m.separators names.length line
    let m := (names.zip values).foldl (fun m (name, value) => m.assign name value) m
    { m with status := if ended then 0 else 1 }

/-! ## Ends -/

/-- Ends the script. -/
def exit : Builtin := fun m args =>
  match args with
  | [] => { m with jump := some (.exit m.status) }
  | n :: _ =>
    match number? n with
    | some n => { m with jump := some (.exit (n % 256)), status := n % 256 }
    | none => brokenBy m "exit" s!"Illegal number: {n}"

/-- Ends a function. -/
def endFunction : Builtin := fun m args =>
  match args with
  | [] => { m with jump := some .back }
  | n :: _ =>
    match number? n with
    | some n => { m with jump := some .back, status := n % 256 }
    | none => brokenBy m "return" s!"Illegal number: {n}"

/-- Ends loops, or goes on with their next round. -/
def leave (name : String) (again : Bool) : Builtin := fun m args =>
  let n? : Option Nat := match args with
    | [] => some 1
    | n :: _ => (number? n).filter (· != 0)
  let given := args.head?.getD ""
  match n? with
  | none => brokenBy m name s!"Illegal number: {given}"
  | some n =>
    if m.loops == 0 then succeeded m
    else succeeded { m with jump := some (.leave (min n m.loops) again) }

/-- The signals that end no program by themselves. -/
private def harmless : List (Nat × String) :=
  [(0, "EXIT"), (17, "SIGCHLD"), (18, "SIGCONT"), (23, "SIGURG"), (28, "SIGWINCH")]

private def signal? (name : String) : Option Nat :=
  match name.toNat? with
  | some n => some n
  | none =>
    ((signalNames ++ harmless).find? fun (_, s) => s == name || s == "SIG" ++ name).map (·.1)

/-- Sends a signal; the only process known is that of the script. -/
def kill : Builtin := fun m args =>
  let send (name : String) (targets : List String) : Machine :=
    match signal? name with
    | none => failedBy m "kill" s!"invalid signal number or name: {name}"
    | some n =>
      if targets.contains Machine.processNumber then
        match if n == 9 then none else m.traps.lookup n with
        -- A signal with an action is noted, and the action runs behind this command; signal 9 has
        -- none.
        | some action => succeeded { m with pending := m.pending ++ [action] }
        | none =>
          if harmless.any fun h => h.1 == n then succeeded m
          else { m with jump := some (.killed n), status := 128 + n }
      else { (m.complain "kill: No such process\n") with status := 1 }
  match args with
  | "-s" :: name :: targets => send name targets
  | first :: targets =>
    match first.toList with
    | ['-', '-'] => send "TERM" targets
    | ['-', 'l'] => succeeded m
    | '-' :: name => send (String.ofList name) targets
    | _ => send "TERM" args
  | [] => failedBy m "kill" ("Usage: kill [-s sigspec | -signum | -sigspec] [pid | job]... or\n" ++
      "kill -l [exitstatus]")

/-- Says what is done at signals, or at the end of the script. -/
def trap : Builtin := fun m args =>
  let args := match args with
    | "--" :: rest => rest
    | _ => args
  let set (m : Machine) (action : Option String) (event : String) : Machine :=
    match signal? event with
    | some n =>
      let others := m.traps.filter fun t => t.1 != n
      { m with traps := (action.map fun a => (n, a)).toList ++ others }
    | none => { (m.complain s!"trap: {event}: bad trap") with status := 1 }
  match args with
  | [] => succeeded m
  | [event] => set (succeeded m) none event
  | action :: events =>
    events.foldl (fun m event => set m (if action == "-" then none else some action) event)
      (succeeded m)

/-! ## Places -/

/-- Goes to another directory. -/
def cd : Builtin := fun m args =>
  let args := args.filter fun a => a != "-P" && a != "-L" && a != "--"
  match args with
  | [] => succeeded m
  | name :: _ =>
    match m.tree.resolve (m.path name) with
    | .ok place =>
      if m.tree.node? place == some .directory then succeeded { m with directory := place.path }
      else failedBy m "cd" s!"can't cd to {name}"
    | .error _ => failedBy m "cd" s!"can't cd to {name}"

/-- Names the directory. -/
def pwd : Builtin := fun m _ =>
  succeeded (m.put (ByteText.encode m.directory.text ++ "\n"))

/-- The commands of the shell. -/
def all : List (String × Builtin) :=
  [(":", fun m _ => succeeded m), ("true", fun m _ => succeeded m),
    ("false", fun m _ => { m with status := 1 }), ("echo", echo), ("printf", printf),
    ("test", test "test"), ("[", bracket), ("shift", shift),
    ("set", fun m args => set (2 * args.length + 2) m args), ("export", exportNames),
    ("readonly", fixNames), ("local", localNames), ("unset", unset), ("read", read),
    ("getopts", getopts), ("exit", exit), ("return", endFunction), ("break", leave "break" false),
    ("continue", leave "continue" true), ("kill", kill), ("trap", trap), ("cd", cd), ("pwd", pwd),
    ("wait", fun m _ => succeeded m), ("times", fun m _ => succeeded m),
    ("hash", fun m _ => succeeded m), ("alias", fun m _ => succeeded m),
    ("unalias", fun m _ => succeeded m), ("jobs", fun m _ => succeeded m),
    ("ulimit", fun m _ => succeeded m),
    ("umask", fun m args => succeeded (if args.isEmpty then m.put "0022\n" else m))]

/-- A command of the shell by its name. -/
def find? (name : String) : Option Builtin := all.lookup name

/-- The commands that need other commands to be run. -/
def running : List String := ["eval", "exec", "command", ".", "type"]

/-- Whether a name is that of a command of the shell. -/
def isBuiltin (name : String) : Bool := (find? name).isSome || running.contains name

end Builtin

end MailTemplates.Script
