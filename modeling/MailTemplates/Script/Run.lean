import MailTemplates.Script.Builtin
import MailTemplates.Script.Files
import MailTemplates.Script.Redirect
/-!
# Running scripts

Commands are run one after another on the state of the script. What is run apart, in a pipe or for
its output, works on a copy of the state of which only the files and the buffers count afterwards.
Every step takes a part of a budget, so that a script always ends.

All of this is one recursion over commands, and since a command can call a function or read another
script there is no structure that it goes down along. So each of the functions takes fuel and hands
on less of it. A state that runs out of fuel has ended with a failure (`Machine.exhausted`).

A script can stop anywhere: by an exit, a return, a break or a signal. That is a field of the state,
the jump, and whoever runs commands one after another looks at it before the next one.
-/

namespace MailTemplates.Script

namespace Machine

/-! ## Copies of the state -/

/-- The state in which commands are run apart. -/
def fork (m : Machine) : Machine :=
  { m with jump := none, loops := 0, traps := m.traps.filter fun t => t.2.isEmpty }

/-- The status with which commands have ended. -/
def finalStatus (m : Machine) : Nat :=
  match m.jump with
  | some (.exit n) => n
  | some (.killed n) => 128 + n
  | _ => m.status

/-- The state after other commands have been run apart. A signal ends the script all the same. -/
def join (m inner : Machine) : Machine :=
  { m with
    buffers := inner.buffers.take m.buffers.size
    tree := inner.tree
    status := inner.finalStatus
    jump := match inner.jump with
      | some (.killed n) => some (.killed n)
      | _ => m.jump }

/-- The state after another program has been run. -/
def joinProgram (m inner : Machine) : Machine :=
  let r := { m.join inner with jump := m.jump }
  match inner.jump with
  | some (.killed 9) => r.warn "Killed"
  | some (.killed 15) => r.warn "Terminated"
  | _ => r

/-- Ends a script whose budget is used up. -/
def exhausted (m : Machine) : Machine :=
  if m.jump.isSome then m else { m with jump := some (.exit 2) }

/-- Ends the script if a command has failed and that matters. -/
def checked (m : Machine) (tested : Bool) : Machine :=
  if m.status != 0 && m.has 'e' && !tested && m.jump.isNone then
    { m with jump := some (.exit m.status) }
  else m

/-- What becomes of a jump at the end of a round of a loop, and whether the loop ends. -/
def landed (m : Machine) : Machine × Bool :=
  match m.jump with
  | none => (m, false)
  | some (.leave 1 again) | some (.leave 0 again) => ({ m with jump := none }, !again)
  | some (.leave (n + 2) again) => ({ m with jump := some (.leave (n + 1) again) }, true)
  | some _ => (m, true)

/-! ## Programs -/

/-- Writes a file that a tool has made. -/
def writeFile (m : Machine) (tool : String) (f : WrittenFile) : Machine :=
  match f.name with
  | "/dev/null" => m
  | "/dev/stdout" => m.putOn 1 f.text
  | "/dev/stderr" => m.putOn 2 f.text
  | name =>
    let path := m.path name
    let before := if f.append then (m.tree.readBytes path).toOption.getD ByteArray.empty
      else ByteArray.empty
    match m.tree.write path (before ++ ByteText.toBytes f.text) with
    | .ok tree => { m with tree }
    | .error p => { m.warn s!"{tool}: {name}: {problemText p}" with status := 1 }

/-- Runs a tool on the input. -/
def runTool (m : Machine) (name : String) (tool : Tool) (args : List String) : Machine :=
  let r := tool { input := m.input, file := m.fileText } args
  let m := m.setInput r.unread
  let m := if r.outputFirst then m.putOn 1 r.output else m
  let m := r.complaints.foldl warn m
  let m := if r.outputFirst then m else m.putOn 1 r.output
  r.written.foldl (fun m f => m.writeFile name f) { m with status := r.status }

/-- The programs that run scripts. -/
def isShell (name : String) : Bool := name == "sh" || name == "dash" || name == "bash"

/-- Whether a name is that of a program that is always there. -/
def isProgram (name : String) : Bool :=
  (Tools.find? name).isSome || (Files.find? name).isSome || isShell name ||
    ["env", "printenv", "which", "xargs", "printf", "true", "false", "test", "[", "pwd",
      "kill"].contains name

/-- The variables that programs are given, in the order in which they were named. -/
def environment (m : Machine) : List (String × String) :=
  m.exported.reverse.eraseDups.filterMap fun name => (m.assigned? name).map fun v => (name, v)

/-- Where a program is found. -/
def programPath? (m : Machine) (name : String) : Option String :=
  if name.toList.contains '/' then
    if m.tree.isFile (m.path name) || (Tools.nameOf? name).any isProgram then some name else none
  else if isProgram name then some s!"/usr/bin/{name}" else none

/-- Where a command is found, in the words of the shell. -/
def whereabouts (m : Machine) (name : String) : Option String :=
  if (m.functions.lookup name).isSome || Builtin.isBuiltin name then some name
  else if Token.keywords.contains name then some name
  else m.programPath? name

/-- What kind of command a name stands for. -/
def describe (m : Machine) (name : String) : Machine :=
  let said (text : String) : Machine := m.put s!"{name} is {text}\n"
  if Token.keywords.contains name then said "a shell keyword"
  else if (m.functions.lookup name).isSome then said "a shell function"
  else if specialBuiltins.contains name then said "a special shell builtin"
  else if Builtin.isBuiltin name then said "a shell builtin"
  else
    match m.whereabouts name with
    | some place => said place
    | none => { m.put s!"{name}: not found\n" with status := 127 }

/-- The state in which another script is run. -/
def forScript (m : Machine) (script : String) (arguments : List String) : Machine :=
  { m.fork with
    script, arguments
    values := m.values.filter fun v => m.exported.contains v.1
    fixed := [], hidden := none, functions := [], options := [], line := 1, status := 0
    lettersTaken := 0 }

/-- Shows what has been assigned and the words of a command, if that is wanted. -/
def trace (m : Machine) (names words : List String) : Machine :=
  let shown := names.map (fun name => name ++ "=" ++ (m.assigned? name).getD "") ++ words
  if !m.has 'x' || shown.isEmpty then m else m.warn ("+ " ++ " ".intercalate shown)

/-- The state in which variables have the values again that they had before. -/
def restored (m before : Machine) (names : List String) : Machine :=
  let kept := m.exported.filter fun name => !names.contains name || before.exported.contains name
  names.foldl (fun m name => m.restore name (before.assigned? name)) { m with exported := kept }

/-- The words of a text, as programs that take words from their input see it. -/
def wordsOf (cs : List Char) : List String :=
  let step (done : List (List Char)) (c : Char) : List (List Char) :=
    if c == ' ' || c == '\t' || c == '\n' then [] :: done
    else
      match done with
      | [] => [[c]]
      | w :: ws => (c :: w) :: ws
  ((cs.foldl step []).filter (!·.isEmpty)).reverse.map fun w => String.ofList w.reverse

/-- Lists of so many elements. -/
def chunks : Nat → Nat → List String → List (List String)
  | 0, _, _ => []
  | fuel + 1, n, ws =>
    if ws.isEmpty then [] else ws.take n :: chunks fuel n (ws.drop n)

/-- The lists of words with which a command is run for the words of a text. -/
def batches (args : List String) (input : List Char) : List (List String) :=
  let plain (n : Option Nat) (args : List String) : List (List String) :=
    let command := if args.isEmpty then ["echo"] else args
    let words := wordsOf input
    let lists := match n with
      | some n => chunks words.length (max n 1) words
      | none => [words]
    (if lists.isEmpty then [[]] else lists).map (command ++ ·)
  let replacing (mark : String) (rest : List String) : List (List String) :=
    (ByteText.lines input).map fun line => rest.map fun a => a.replace mark (String.ofList line)
  match args with
  | "-n" :: n :: rest => plain n.toNat? rest
  | "-r" :: rest => if (wordsOf input).isEmpty then [] else plain none rest
  | "-I" :: mark :: rest => replacing mark rest
  | a :: rest =>
    match a.toList with
    | '-' :: 'n' :: n => plain (String.ofList n).toNat? rest
    | '-' :: 'I' :: mark => replacing (String.ofList mark) rest
    | _ => plain none args
  | [] => plain none []

end Machine

/-! ## Commands -/

/-- Runs commands for what they write. -/
private def captureBy (run : Machine → List Command → Machine) : Capture := fun m body =>
  let (inner, c) := m.fork.newBuffer []
  let inner := run (inner.lead 1 c) body
  let r := m.join inner
  ({ r with status := m.status, captured := some r.status }, inner.contents c)

mutual
/-- Runs a command. Where its failure is tested it does not end the script. -/
def run : Nat → Bool → Machine → Command → Machine
  | 0, _, m, _ => m.exhausted
  | fuel + 1, tested, m, c =>
    let capture := captureBy (runAll fuel false)
    match c with
    | .simple line assignments words redirections =>
      (runSimple fuel tested { m with line } assignments words redirections).checked tested
    | .pipe stages =>
      (runStages fuel { m with channels := m.channels } m.channels stages).checked tested
    | .negated c =>
      let r := run fuel true m c
      if r.jump.isSome then r else { r with status := if r.status == 0 then 1 else 0 }
    | .onward ifSuccess first second =>
      let a := run fuel true m first
      if a.jump.isNone && (a.status == 0) == ifSuccess then run fuel tested a second else a
    -- A command in the background is run at once, on its own copy; its failure does not count.
    | .background c =>
      let inner := run fuel true (m.fork.lead 0 .nowhere) c
      { m.join inner with status := 0 }
    | .group body => runAll fuel tested m body
    -- What ends the copy does not end the script, so the copy has ends of its own to deal with.
    | .apart body => (m.join (finish fuel (runAll fuel tested m.fork body))).checked tested
    | .choose condition yes no =>
      let a := runAll fuel true m condition
      if a.jump.isSome then a
      else if a.status == 0 then runAll fuel tested a yes
      else runAll fuel tested { a with status := 0 } no
    | .loop whileSuccess condition body =>
      let r := runLoop fuel tested { m with loops := m.loops + 1 } whileSuccess condition body 0
      { r with loops := m.loops }
    | .each name items body =>
      let (m, values) := match items with
        | none => (m, m.arguments)
        | some words =>
          let (m, found) := expand capture fuel m words
          (m, found.flatMap (globbed m))
      if m.jump.isSome then m
      else
        let r := runEach fuel tested { m with loops := m.loops + 1, status := 0 } name values body
        { r with loops := m.loops }
    | .select subject branches =>
      let (m, text) := expandText capture fuel m subject
      if m.jump.isSome then m else runBranches fuel tested m text.toList branches
    | .function name body =>
      let others := m.functions.filter fun f => f.1 != name
      { m with functions := (name, body) :: others, status := 0 }
    | .redirected c redirections =>
      match m.redirect capture fuel redirections with
      | (r, false) => { r with channels := m.channels }.checked tested
      | (r, true) => { run fuel tested r c with channels := m.channels }

/-- Runs commands one after another until the script ends. -/
def runAll : Nat → Bool → Machine → List Command → Machine
  | _, _, m, [] => m
  | 0, _, m, _ => m.exhausted
  | fuel + 1, tested, m, c :: cs =>
    if m.jump.isSome then m else runAll fuel tested (run fuel tested m c) cs

/-- Does what is to be done at the end. -/
def finish : Nat → Machine → Machine
  | 0, m => m.exhausted
  | fuel + 1, m =>
    match m.traps.lookup 0, m.jump with
    | none, _ | some _, some (.killed _) => m
    | some action, _ =>
      let status := m.finalStatus
      let ready := { m with jump := none, traps := m.traps.filter fun t => t.1 != 0, status }
      -- An action at the end runs once; the status is the one from before, unless it exits itself.
      let r := runSource fuel false ready "" action.toList
      if r.jump.isSome then r else { r with jump := some (.exit status) }

/-- Runs the stages of a pipe, of which the last one writes to where the channels given lead. -/
def runStages : Nat → Machine → List (Nat × Channel) → List Command → Machine
  | _, m, channels, [] => { m with channels }
  | 0, m, _, _ => m.exhausted
  | fuel + 1, m, channels, [last] =>
    let r := m.join (finish fuel (runAll fuel true m.fork [last]))
    { r with channels }
  | fuel + 1, m, channels, stage :: stages =>
    let (m, c) := m.newBuffer []
    let r := m.join (finish fuel (runAll fuel true (m.fork.lead 1 c) [stage]))
    runStages fuel (r.lead 0 c) channels stages

/-- Runs a loop with a condition; `last` is the status of its last round. -/
def runLoop : Nat → Bool → Machine → Bool → List Command → List Command → Nat → Machine
  | 0, _, m, _, _, _, _ => m.exhausted
  | fuel + 1, tested, m, whileSuccess, condition, body, last =>
    match (runAll fuel true m condition).landed with
    | (a, true) => a
    | (a, false) =>
      if (a.status == 0) != whileSuccess then { a with status := last }
      else
        match (runAll fuel tested a body).landed with
        | (b, true) => b
        | (b, false) => runLoop fuel tested b whileSuccess condition body b.status

/-- Runs a body for each value. -/
def runEach : Nat → Bool → Machine → String → List String → List Command → Machine
  | _, _, m, _, [], _ => m
  | 0, _, m, _, _, _ => m.exhausted
  | fuel + 1, tested, m, name, value :: values, body =>
    match (runAll fuel tested (m.assign name value) body).landed with
    | (r, true) => r
    | (r, false) => runEach fuel tested r name values body

/-- Runs the first branch with a pattern that fits. -/
def runBranches : Nat → Bool → Machine → List Char → List (List Word × List Command) → Machine
  | _, _, m, _, [] => { m with status := 0 }
  | 0, _, m, _, _ => m.exhausted
  | fuel + 1, tested, m, text, (patterns, body) :: branches =>
    let (m, fits) := patterns.foldl (fun (m, fits) w =>
      if fits then (m, fits)
      else
        let (m, p) := expandPattern (captureBy (runAll fuel false)) fuel m w
        (m, p.fits text)) (m, false)
    if m.jump.isSome then m
    else if fits then
      if body.isEmpty then { m with status := 0 } else runAll fuel tested m body
    else runBranches fuel tested m text branches

/-- Fills in words and redirections and runs the command that they are. -/
def runSimple : Nat → Bool → Machine → List (String × Word) → List Word → List Redirection → Machine
  | 0, _, m, _, _, _ => m.exhausted
  | fuel + 1, tested, m, assignments, words, redirections =>
    let capture := captureBy (runAll fuel false)
    let channels := m.channels
    let assignAll (m : Machine) : Machine :=
      assignments.foldl (fun m (name, w) =>
        if m.jump.isSome then m
        else
          let (m, value) := expandText capture fuel m w
          if m.jump.isSome then m else m.assign name value) m
    let (m, found) := expand capture fuel { m with captured := none } words
    if m.jump.isSome then m
    else
      match found.flatMap (globbed m) with
      -- Without a name there are only assignments, and the status is that of the last command whose
      -- output was used.
      | [] =>
        match m.redirect capture fuel redirections with
        | (r, false) => { r with channels }
        | (r, true) =>
          let r := (assignAll r).trace (assignments.map (·.1)) []
          { r with channels, status := if r.jump.isSome then r.status else r.captured.getD 0 }
      | name :: args =>
        -- Assignments in front of such a command stay; in front of any other one they hold for it
        -- alone.
        let special := specialBuiltins.contains name
        match m.redirect capture fuel redirections with
        | (r, false) =>
          { r with channels, jump := if special then some (.exit 2) else r.jump }
        | (before, true) =>
          let ready := assignAll before
          if ready.jump.isSome then { ready with channels }
          else
            let given := assignments.map (·.1)
            let traced := ready.trace given (name :: args)
            let traced := if special then traced
              else { traced with exported := given ++ traced.exported }
            let r := call fuel tested traced name args
            let r := if special then r else r.restored before given
            if name == "exec" && args.isEmpty then r else { r with channels }

/-- Runs a command by its name: a function, a command of the shell, a program or a script. -/
def call : Nat → Bool → Machine → String → List String → Machine
  | 0, _, m, _, _ => m.exhausted
  | fuel + 1, tested, m, name, args =>
    match if specialBuiltins.contains name then none else m.functions.lookup name with
    | some body =>
      -- The arguments, the local names and the count of loops belong to the call.
      let r := run fuel tested { m with arguments := args, hidden := some [], loops := 0 } body
      let r := (r.hidden.getD []).foldl (fun r (name, value) => r.restore name value) r
      let jump := if r.jump == some .back then none else r.jump
      { r with arguments := m.arguments, hidden := m.hidden, loops := m.loops, jump }
    | none => callPlain fuel tested m name args

/-- Runs a command that is no function. -/
def callPlain : Nat → Bool → Machine → String → List String → Machine
  | 0, _, m, _, _ => m.exhausted
  | fuel + 1, tested, m, name, args =>
    match name, args with
    | "eval", _ =>
      runSource fuel tested { m with status := 0 } "eval: " (" ".intercalate args).toList
    | ".", file :: _ =>
      match m.fileText file with
      | .ok text => runSource fuel tested { m with status := 0 } "" text
      | .error _ => m.broken s!".: cannot open {file}: No such file"
    | "exec", [] => { m with status := 0 }
    | "exec", command :: args =>
      -- A program takes the place of the script, so the script ends with it, even if it is not
      -- found.
      if !Machine.isProgram command && !command.toList.contains '/' then
        let r := m.failed s!"exec: {command}: not found" 127
        { r with jump := some (.exit 127) }
      else
        let r := callProgram fuel tested m command args
        { r with jump := some (r.jump.getD (.exit r.status)) }
    | "command", "-v" :: name :: _ =>
      match m.whereabouts name with
      | some place => { m.put (place ++ "\n") with status := 0 }
      | none => { m with status := 127 }
    | "command", command :: args => callPlain fuel tested m command args
    | "command", [] => { m with status := 0 }
    | "type", names => names.foldl Machine.describe { m with status := 0 }
    | _, _ =>
      match Builtin.find? name with
      | some builtin => runPending fuel (builtin m args)
      | none => callProgram fuel tested m name args

/-- Does what signals ask for; the status stays as it is. -/
def runPending : Nat → Machine → Machine
  | 0, m => m.exhausted
  | fuel + 1, m =>
    match m.pending, m.jump with
    | action :: pending, none =>
      let r := runSource fuel false { m with pending } "" action.toList
      runPending fuel (if r.jump.isSome then r else { r with status := m.status })
    | _, _ => m

/-- Runs a program: one that is always there, or a script. -/
def callProgram : Nat → Bool → Machine → String → List String → Machine
  | 0, _, m, _, _ => m.exhausted
  | fuel + 1, tested, m, command, args =>
    let name := ((Tools.nameOf? command).filter Machine.isProgram).getD command
    match Tools.find? name, Files.find? name, Builtin.find? name with
    | some tool, _, _ => m.runTool name tool args
    | none, some program, _ => program m args
    | none, none, some builtin => builtin m args
    | none, none, none =>
      match name with
      | "env" =>
        let given := args.takeWhile fun a => a.toList.contains '='
        let r := given.foldl (fun m a =>
          let (name, value) := Builtin.nameAndValue a
          { m with exported := name :: m.exported }.store name (value.getD "")) m
        match args.drop given.length with
        | [] =>
            { m.put (String.join (r.environment.map fun (n, v) => s!"{n}={v}\n")) with status := 0 }
        | command :: args =>
          let r := callProgram fuel tested r command args
          { r with values := m.values, exported := m.exported }
      | "printenv" =>
        let values := args.map fun a => m.environment.lookup a
        let r := m.put (String.join (values.filterMap fun v => v.map (· ++ "\n")))
        { r with status := if values.all Option.isSome then 0 else 1 }
      | "which" =>
        let places := args.map m.programPath?
        let r := m.put (String.join (places.filterMap fun p => p.map (· ++ "\n")))
        { r with status := if places.all Option.isSome then 0 else 1 }
      | "xargs" =>
        (Machine.batches args m.input).foldl (fun r batch =>
          match batch with
          | [] => r
          | command :: args =>
            let next := callProgram fuel tested r command args
            if next.status == 0 then { next with status := r.status }
            else if next.status == 127 then next else { next with status := 123 })
          { m.setInput [] with status := 0 }
      | _ =>
        if Machine.isShell name then callShell fuel m name [] args
        else if !command.toList.contains '/' then m.failed s!"{command}: not found" 127
        else
          match m.tree.lookup (m.path command) with
          | .ok (.file content true) =>
            let inner := m.forScript command args
            m.joinProgram
              (finish fuel (runSource fuel false inner "" (ByteText.ofBytes content)))
          | .ok _ | .error .permissionDenied => m.failed s!"{command}: Permission denied" 126
          | .error _ => m.failed s!"{command}: not found" 127

/-- Runs another shell, with the letters of its options so far. -/
def callShell : Nat → Machine → String → List Char → List String → Machine
  | 0, m, _, _, _ => m.exhausted
  | fuel + 1, m, name, letters, args =>
    let runIn (inner : Machine) (text : List Char) : Machine :=
      let inner := { inner with options := letters.filter (· != 'c') }
      m.joinProgram (finish fuel (runSource fuel false inner "" text))
    let fromInput (args : List String) : Machine :=
      let inner := m.forScript name args
      runIn (inner.setInput []) m.input
    match args with
    | [] => fromInput []
    | "-" :: rest | "-s" :: rest => fromInput rest
    | first :: rest =>
      match first.toList, letters.contains 'c' with
      | '-' :: more, _ => callShell fuel m name (letters ++ more) rest
      | _, true => runIn (m.forScript (rest.head?.getD name) (rest.drop 1)) first.toList
      | _, false =>
        match m.fileText first with
        | .ok text => runIn (m.forScript first rest) text
        | .error _ => { m.warn s!"{name}: 0: cannot open {first}: No such file" with status := 2 }

/-- Runs the text of a script. A flaw in it is found behind the commands in front of it. -/
def runSource : Nat → Bool → Machine → String → List Char → Machine
  | 0, _, m, _, _ => m.exhausted
  | fuel + 1, tested, m, reader, text =>
    let source := parse text
    let r := runAll fuel tested m source.commands
    match source.problem with
    | none => r
    | some p =>
      if r.jump.isSome then r
      else { r with line := p.line }.broken s!"{reader}Syntax error: {p.flaw.message}"
end

end MailTemplates.Script
