import MailTemplates.Script.WordReader
/-!
# Reading scripts

A script is read line by line: the commands of a line are run before the next line is read. So a
flaw in a script is found only after everything in front of its line has been done.

Commands are nested, and a word may hold commands too, so reading words and reading commands need
each other. Here the functions that read one level are given the readers of the next one (`Nested`),
and only `readList` and `readCommand` tie the knot, on the depth that is left.
-/

namespace MailTemplates.Script

/-! ## Tokens -/

private def redirections : List String := ["<<-", "<<", "<&", "<>", "<", ">>", ">&", ">|", ">"]

/-- The sign of a redirection in front of a text, and what follows. -/
private def redirection? (cs : List Char) : Option (String × List Char) :=
  (redirections.find? fun s => s.toList.isPrefixOf cs).map fun s => (s, cs.drop s.length)

private def operators : List String := ["&&", "||", ";;", "&", "|", ";", "(", ")"]

/-- The operator in front of a text, and what follows. -/
private def operator? (cs : List Char) : Option (String × List Char) :=
  (operators.find? fun s => s.toList.isPrefixOf cs).map fun s => (s, cs.drop s.length)

/-- Reads a token from the script. -/
def cutToken (inner : Nested) : Nat → Reading Token
  | 0 => return .finish
  | fuel + 1 => do
    passJoints
    let p ← get
    match p.rest with
    | [] => return .finish
    | '\n' :: rest =>
      set { p with rest, line := p.line + 1 + p.skipped, skipped := 0 }
      return .newline
    | '#' :: rest =>
      set { p with rest := rest.dropWhile (· != '\n') }
      cutToken inner fuel
    | c :: rest =>
      if c == ' ' || c == '\t' then
        set { p with rest }
        cutToken inner fuel
      else
        match operator? p.rest with
        | some (op, rest) =>
          set { p with rest }
          return .operator op
        | none =>
          -- A single digit right in front of a redirection is the number of its channel.
          let word ← readParts inner fuel .plain 0 []
          let p ← get
          let channel : Option (Option Nat) := match word with
            | [] => some none
            | [.text false [d]] => if d.isDigit then some (some (d.toNat - 0x30)) else none
            | _ => none
          match channel, redirection? p.rest with
          | some channel, some (sign, rest) =>
            set { p with rest }
            return .redirect channel sign
          | _, _ => return .word word

/-- Reads a token. -/
def readToken (inner : Nested) (fuel : Nat) : Reading Token := do
  let p ← get
  match p.pushed with
  | some t =>
    set { p with pushed := none }
    return t
  | none => cutToken inner fuel

/-- Passes ends of lines. -/
def passLines (inner : Nested) : Nat → Reading Unit
  | 0 => pure ()
  | fuel + 1 => do
    match ← readToken inner fuel with
    | .newline => passLines inner fuel
    | t => pushBack t

/-- Reads a token that has to be a certain one, behind ends of lines. -/
def expect (inner : Nested) (fuel : Nat) (text : String) : Reading Unit := do
  passLines inner fuel
  let t ← readToken inner fuel
  if t.is text then return () else unexpected t (some text)

/-! ## Redirections -/

/-- The lines of a text in a script, what is behind the line that ends it, and how many lines that
makes. -/
def takeDocument (strip : Bool) (mark : List Char) :
    Nat → List Char → List Char → Nat → List Char × List Char × Nat
  | 0, done, cs, n => (done, cs, n)
  | fuel + 1, done, cs, n =>
    if cs.isEmpty then (done, [], n)
    else
      let line := cs.takeWhile (· != '\n')
      let rest := cs.drop (line.length + 1)
      let line := if strip then line.dropWhile (· == '\t') else line
      if line == mark then (done, rest, n + 1)
      else takeDocument strip mark fuel (done ++ line ++ ['\n']) rest (n + 1)

private def partText : WordPart → List Char
  | .text _ cs => cs
  | .parameter _ name _ => '$' :: name.toList
  | _ => []

private def isQuotedPart : WordPart → Bool
  | .text quoted _ => quoted
  | _ => false

/-- Reads a text that starts behind this line. -/
def readDocument (inner : Nested) (fuel : Nat) (strip : Bool) (mark : Word) : Reading Word := do
  let p ← get
  let line := p.rest.takeWhile (· != '\n')
  let behind := p.rest.drop (line.length + 1)
  let (body, rest, n) := takeDocument strip (mark.flatMap partText) fuel [] behind 0
  let after : Place :=
    { p with rest := line ++ (if line.length < p.rest.length then '\n' :: rest else [])
             skipped := p.skipped + n }
  if mark.any isQuotedPart then
    set after
    return [.text true body]
  else
    set ({ rest := body, line := p.line + 1 } : Place)
    let parts ← readParts inner fuel .document 0 []
    set after
    return parts

/-- Reads what follows the sign of a redirection. -/
def readRedirection (inner : Nested) (fuel : Nat) (channel : Option Nat) (sign : String) :
    Reading Redirection := do
  let from0 := channel.getD 0
  let from1 := channel.getD 1
  match ← readToken inner fuel with
  | .word w =>
    match sign with
    | "<<" => return .document from0 (← readDocument inner fuel false w)
    | "<<-" => return .document from0 (← readDocument inner fuel true w)
    | "<&" => return .copy from0 w
    | ">&" => return .copy from1 w
    | "<" => return .file from0 .reading w
    | "<>" => return .file from0 .both w
    | ">>" => return .file from1 .appending w
    | _ => return .file from1 .writing w
  | t => unexpected t none

/-- Reads redirections behind a command. -/
def readRedirections (inner : Nested) : Nat → List Redirection → Reading (List Redirection)
  | 0, done => return done.reverse
  | fuel + 1, done => do
    match ← readToken inner fuel with
    | .redirect channel sign =>
      let r ← readRedirection inner fuel channel sign
      readRedirections inner fuel (r :: done)
    | t =>
      pushBack t
      return done.reverse

/-! ## Commands -/

/-- A name and a value in a word that assigns. -/
def assignment? (w : Word) : Option (String × Word) :=
  match w with
  | .text false cs :: parts =>
    let name := cs.takeWhile isNameChar
    match cs.drop name.length with
    | '=' :: value =>
      if isName (String.ofList name) then
        some (String.ofList name, if value.isEmpty then parts else .text false value :: parts)
      else none
    | _ => none
  | _ => none

/-- The builtins that no function can replace. -/
def specialBuiltins : List String :=
  [".", ":", "break", "continue", "eval", "exec", "exit", "export", "readonly", "return", "set",
    "shift", "times", "trap", "unset"]

/-- Reads a function behind the parenthesis that follows its name. -/
private def readFunction (inner : Nested) (fuel : Nat) (name : Word) : Reading Command := do
  match ← readToken inner fuel with
  | .word _ => flawed (.unexpected "word" (some "\")\""))
  | t => if !t.is ")" then unexpected t (some ")")
  match Token.bare? name with
  | some n =>
    if !isName n || specialBuiltins.contains n then flawed .badFunctionName
    passLines inner fuel
    return .function n (← inner.command)
  | none => flawed .badFunctionName

/-- Reads assignments, words and redirections. -/
def readSimple (inner : Nested) (line : Nat) :
    Nat → List (String × Word) → List Word → List Redirection → Reading Command
  | 0, _, _, _ => return .simple line [] [] []
  | fuel + 1, assignments, words, redirections => do
    match ← readToken inner fuel with
    | .word w =>
      match words, assignment? w with
      | [], some a => readSimple inner line fuel (a :: assignments) [] redirections
      | _, _ => readSimple inner line fuel assignments (w :: words) redirections
    | .redirect channel sign =>
      let r ← readRedirection inner fuel channel sign
      readSimple inner line fuel assignments words (r :: redirections)
    | t =>
      match words, assignments, redirections, t.is "(" with
      | [name], [], [], true => readFunction inner fuel name
      | _, _, _, _ =>
        pushBack t
        return .simple line assignments.reverse words.reverse redirections.reverse

/-- Reads a condition and the two ways to go, up to the word that closes the choice. -/
def readChoice (inner : Nested) : Nat → Reading Command
  | 0 => return .group []
  | fuel + 1 => do
    let condition ← inner.list .needed
    expect inner fuel "then"
    let yes ← inner.list .needed
    let t ← readToken inner fuel
    if t.is "elif" then return .choose condition yes [← readChoice inner fuel]
    else if t.is "else" then return .choose condition yes (← inner.list .needed)
    else
      pushBack t
      return .choose condition yes []

/-- Reads the items of a loop up to the end of the line. -/
private def readItems (inner : Nested) : Nat → List Word → Reading (List Word)
  | 0, done => return done.reverse
  | fuel + 1, done => do
    match ← readToken inner fuel with
    | .word w => readItems inner fuel (w :: done)
    | .newline => return done.reverse
    | t => if t.is ";" then return done.reverse else unexpected t none

/-- Reads a loop over items from behind its first word on. -/
def readEach (inner : Nested) (fuel : Nat) : Reading Command := do
  let name ← match ← readToken inner fuel with
    | .word w =>
      match (Token.bare? w).filter isName with
      | some n => pure n
      | none => flawed .badLoopVariable
    | _ => flawed .badLoopVariable
  passLines inner fuel
  let t ← readToken inner fuel
  let items ← if t.is "in" then some <$> readItems inner fuel []
    else do
      if !t.is ";" then pushBack t
      pure none
  expect inner fuel "do"
  let body ← inner.list .needed
  return .each name items body

/-- Reads the patterns of a branch up to its parenthesis. -/
private def readPatterns (inner : Nested) : Nat → List Word → Reading (List Word)
  | 0, done => return done.reverse
  | fuel + 1, done => do
    match ← readToken inner fuel with
    | .word w =>
      let t ← readToken inner fuel
      if t.is "|" then readPatterns inner fuel (w :: done)
      else if t.is ")" then return (w :: done).reverse
      else unexpected t (some ")")
    | t => unexpected t (some ")")

/-- Reads branches up to the word behind them. -/
def readBranches (inner : Nested) :
    Nat → List (List Word × List Command) → Reading (List (List Word × List Command))
  | 0, done => return done.reverse
  | fuel + 1, done => do
    passLines inner fuel
    let t ← readToken inner fuel
    if t.is "esac" then return done.reverse
    else
      if !t.is "(" then pushBack t
      let patterns ← readPatterns inner fuel []
      let body ← inner.list .free
      let t ← readToken inner fuel
      if t.is "esac" then return ((patterns, body) :: done).reverse
      else if t.is ";;" then readBranches inner fuel ((patterns, body) :: done)
      else unexpected t (some ";;")

/-- Reads a choice among patterns from behind its first word on. -/
def readSelect (inner : Nested) (fuel : Nat) : Reading Command := do
  match ← readToken inner fuel with
  | .word w =>
    expect inner fuel "in"
    return .select w (← readBranches inner fuel [])
  | t => flawed (.unexpected t.shown (some "word"))

/-- Reads a loop with a condition from behind its first word on. -/
def readLoop (inner : Nested) (fuel : Nat) (whileSuccess : Bool) : Reading Command := do
  let condition ← inner.list .needed
  expect inner fuel "do"
  let body ← inner.list .needed
  return .loop whileSuccess condition body

/-- Reads a command. -/
def readOne (inner : Nested) (fuel : Nat) : Reading Command := do
  let t ← readToken inner fuel
  let line := (← get).line
  -- Behind the word that closes a command, redirections for all of it may follow.
  let closed (c : Command) (close : Option String) : Reading Command := do
    match close with
    | some text =>
      let t ← readToken inner fuel
      if !t.is text then unexpected t (some text)
    | none => pure ()
    match ← readRedirections inner fuel [] with
    | [] => return c
    | rs => return .redirected c rs
  match t with
  | .operator "(" => closed (.apart (← inner.list .needed)) (some ")")
  | .redirect _ _ =>
    pushBack t
    readSimple inner line fuel [] [] []
  | .word _ =>
    match t.keyword? with
    | none =>
      pushBack t
      readSimple inner line fuel [] [] []
    | some "if" => closed (← readChoice inner fuel) (some "fi")
    | some "while" => closed (← readLoop inner fuel true) (some "done")
    | some "until" => closed (← readLoop inner fuel false) (some "done")
    | some "for" => closed (← readEach inner fuel) (some "done")
    | some "case" => closed (← readSelect inner fuel) none
    | some "\x7b" => closed (.group (← inner.list .needed)) (some "\x7d")
    | some _ => unexpected t none
  | _ => unexpected t none

/-- Reads commands that one pipe joins to those before. -/
private def readStages (inner : Nested) : Nat → List Command → Reading (List Command)
  | 0, done => return done.reverse
  | fuel + 1, done => do
    let t ← readToken inner fuel
    if t.is "|" then
      passLines inner fuel
      let c ← readOne inner fuel
      readStages inner fuel (c :: done)
    else
      pushBack t
      return done.reverse

/-- Reads commands joined by pipes. -/
def readPipe (inner : Nested) (fuel : Nat) : Reading Command := do
  let t ← readToken inner fuel
  let negated := t.is "!"
  if !negated then pushBack t
  let first ← readOne inner fuel
  let c ← match ← readStages inner fuel [first] with
    | [c] => pure c
    | stages => pure (Command.pipe stages)
  return if negated then .negated c else c

/-- Reads commands that conditions join to those before. -/
private def readOnward (inner : Nested) : Nat → Command → Reading Command
  | 0, c => return c
  | fuel + 1, c => do
    let t ← readToken inner fuel
    if t.is "&&" || t.is "||" then
      passLines inner fuel
      let d ← readPipe inner fuel
      readOnward inner fuel (.onward (t.is "&&") c d)
    else
      pushBack t
      return c

/-- Reads commands one after another. -/
private def readSeries (inner : Nested) : Nat → ListKind → List Command → Reading (List Command)
  | 0, _, done => return done.reverse
  | fuel + 1, kind, done => do
    let t ← readToken inner fuel
    match t, kind with
    | .newline, .line => return done.reverse
    | .newline, _ => readSeries inner fuel kind done
    | .finish, _ =>
      pushBack t
      return done.reverse
    | _, _ =>
      pushBack t
      if kind == .free && t.endsList then return done.reverse
      let first ← readPipe inner fuel
      let c ← readOnward inner fuel first
      let next : ListKind := if kind == .line then .line else .free
      let t ← readToken inner fuel
      if t.is "&" then readSeries inner fuel next (.background c :: done)
      else if t.is ";" then readSeries inner fuel next (c :: done)
      else
        pushBack t
        match t with
        | .newline => readSeries inner fuel next (c :: done)
        | .finish => return (c :: done).reverse
        | _ => if kind == .line then unexpected t none else return (c :: done).reverse

mutual
/-- Reads a list of commands in which so many others can be nested. -/
def readList : Nat → ListKind → Reading (List Command)
  | 0, _ => return []
  | fuel + 1, kind => readSeries ⟨readList fuel, readCommand fuel⟩ fuel kind []

/-- Reads a command in which so many others can be nested. -/
def readCommand : Nat → Reading Command
  | 0 => return .group []
  | fuel + 1 => readOne ⟨readList fuel, readCommand fuel⟩ fuel
end

/-! ## Scripts -/

/-- What a script says: its commands in front of its first flaw. -/
structure Source where
  commands : List Command
  problem : Option Problem

/-- Reads the lines of a script. -/
def readLines : Nat → Place → List Command → Source
  | 0, _, done => ⟨done, none⟩
  | fuel + 1, place, done =>
    match readList (fuel + 1) .line place with
    | .error problem => ⟨done, some problem⟩
    | .ok (commands, after) =>
      match after.pushed with
      | some .finish => ⟨done ++ commands, none⟩
      | _ => readLines fuel after (done ++ commands)

/-- What a script says. -/
def parse (source : List Char) : Source :=
  readLines (source.length + 2) { rest := source, line := 1 } []

end MailTemplates.Script
