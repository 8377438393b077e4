import MailTemplates.Script.Token
/-!
# Reading words

A word ends at a blank or an operator, unless that is quoted. Inside double quotes, a dollar sign, a
backslash and a backquote keep their meaning. In braces behind a dollar sign a word ends at the
brace that closes them, and a text in the script is read like one in double quotes.

A reader stands in a context: in the plain script, between double quotes, in braces, in a text of
the script, or in a calculation. The context decides which characters have a meaning and which one
ends the part. Where one context is left for another, `readParts` is started anew and comes back
when the inner one has ended.
-/

namespace MailTemplates.Script

/-- Where a part of a word stands. -/
inductive Context where
  | plain
  | quoted
  /-- In braces that are opened in a line. -/
  | braces (quoted : Bool) (line : Nat)
  | document
  | arithmetic
deriving DecidableEq, Repr

namespace Context

/-- Whether parts count as quoted. -/
def isQuoted : Context → Bool
  | plain | braces false _ => false
  | quoted | braces true _ | document | arithmetic => true

/-- Whether quotes of both kinds have their meaning. -/
def hasQuotes : Context → Bool
  | plain | braces false _ => true
  | quoted | braces true _ | document | arithmetic => false

/-- The characters behind a backslash that it quotes; all of them outside of double quotes. -/
def escapes : Context → Char → Bool
  | plain, _ | braces false _, _ => true
  | quoted, c => "$`\"\\".toList.contains c
  | braces true _, c => "$`\"\\\x7d".toList.contains c
  | document, c | arithmetic, c => "$`\\".toList.contains c

end Context

/-- The characters that end a word. -/
def endsWord (c : Char) : Bool := " \t\n;|&<>()".toList.contains c

/-- Whether a character is read with others like it. -/
private def Context.isOrdinary (context : Context) (c : Char) : Bool :=
  !"$`\\'\"\x7d()".toList.contains c && (context != .plain || !endsWord c)

/-- The letters of a name. -/
def isNameChar (c : Char) : Bool := c.isAlphanum || c == '_'

/-- Whether a text is the name of a variable. -/
def isName (s : String) : Bool :=
  !s.isEmpty && s.toList.all isNameChar && !(s.toList.head?.any Char.isDigit)

/-- The characters that name a parameter alone. -/
def isSpecial (c : Char) : Bool := "!#*@-$?".toList.contains c || c.isDigit

/-- A script without a line that goes on, and how many of those there were. -/
def joinLines : List Char → List Char × Nat
  | '\\' :: '\n' :: rest =>
    let (rest, n) := joinLines rest
    (rest, n + 1)
  | rest => (rest, 0)

/-- Passes a line that goes on. -/
def passJoints : Reading Unit := modify fun p =>
  let (rest, n) := joinLines p.rest
  { p with rest, line := p.line + n }

/-- Reads on behind some text of the script. -/
def advance (text rest : List Char) : Reading Unit := modify fun p =>
  { p with rest, line := p.line + text.count '\n' }

/-- A part of a word added to those before it; texts that belong together become one. -/
def addPart (done : List WordPart) (part : WordPart) : List WordPart :=
  match done, part with
  | .text false before :: done, .text false cs => .text false (before ++ cs) :: done
  | _, _ => part :: done

/-- The text in front of the backquote that ends it, and what follows. A backslash in front of some
characters goes. -/
def backquoted (quoted : Bool) : List Char → List Char → Option (List Char × List Char)
  | _, [] => none
  | done, '`' :: rest => some (done.reverse, rest)
  | done, '\\' :: c :: rest =>
    if c == '`' || c == '\\' || c == '$' || (quoted && c == '"') then
      backquoted quoted (c :: done) rest
    else backquoted quoted (c :: '\\' :: done) rest
  | done, c :: rest => backquoted quoted (c :: done) rest

/-- Reads commands up to the parenthesis behind them. -/
private def readOutput (inner : Nested) : Reading (List Command) := do
  let body ← inner.list .free
  let p ← get
  match p.pushed, p.rest with
  | some (.operator ")"), rest =>
    set { p with rest, pushed := none }
    return body
  | some t, _ => unexpected t (some ")")
  | none, _ => unexpected .finish (some ")")

/-- Reads commands between backquotes. -/
private def readBackquoted (inner : Nested) (quoted : Bool) : Reading (List Command) := do
  let p ← get
  match backquoted quoted [] p.rest with
  | none => throw ⟨p.line + p.rest.count '\n', .openSubstitution⟩
  | some (script, rest) =>
    set ({ rest := script, line := p.line } : Place)
    let body ← inner.list .free
    match (← get).pushed with
    | some .finish | none => pure ()
    | some t => unexpected t none
    set { p with rest, line := p.line + script.count '\n' }
    return body

/-- The name of a parameter in braces, whether its length is asked for, and what follows. -/
def bracedName (cs : List Char) : Option (Bool × List Char × List Char) :=
  let named (asked : Bool) (cs : List Char) : Option (Bool × List Char × List Char) :=
    match cs with
    | c :: rest =>
      let run := if c.isDigit then cs.takeWhile Char.isDigit else cs.takeWhile isNameChar
      if !run.isEmpty then some (asked, run, cs.drop run.length)
      else if isSpecial c then some (asked, [c], rest)
      else none
    | [] => none
  match cs with
  | '#' :: c :: rest =>
    if isNameChar c then named true (c :: rest)
    else if isSpecial c && rest.head? == some '\x7d' && c != '\x7d' then some (true, [c], rest)
    else some (false, ['#'], c :: rest)
  | _ => named false cs

private def fallbackOf? : Char → Option Fallback
  | '-' => some .stand
  | '=' => some .assign
  | '?' => some .complain
  | '+' => some .replace
  | _ => none

mutual
/-- Reads the parts of a word up to its end. Inside a calculation `depth` parentheses are open. -/
def readParts (inner : Nested) :
    Nat → Context → Nat → List WordPart → Reading (List WordPart)
  | 0, _, _, done => return done.reverse
  | fuel + 1, context, depth, done => do
    let p ← get
    let quoted := context.isQuoted
    match p.rest with
    | [] =>
      match context with
      | .plain | .document => return done.reverse
      | .quoted => flawed .openQuote
      | .braces _ line => throw ⟨line, .missing "\x7d"⟩
      | .arithmetic => flawed (.missing "))")
    | '$' :: rest =>
      set { p with rest }
      let part ← readDollar inner fuel quoted
      readParts inner fuel context depth (addPart done part)
    | '`' :: rest =>
      set { p with rest }
      let body ← readBackquoted inner quoted
      readParts inner fuel context depth (.output quoted body :: done)
    | '\\' :: '\n' :: rest =>
      set { p with rest, line := p.line + 1 }
      readParts inner fuel context depth done
    | '\\' :: c :: rest =>
      advance [c] rest
      let part := if context.escapes c then .text true [c] else .text true ['\\', c]
      readParts inner fuel context depth (part :: done)
    | '\'' :: rest =>
      if context.hasQuotes then
        let text := rest.takeWhile (· != '\'')
        advance text (rest.drop (text.length + 1))
        if text.length == rest.length then flawed .openQuote
        readParts inner fuel context depth (.text true text :: done)
      else
        set { p with rest }
        readParts inner fuel context depth (.text quoted ['\''] :: done)
    | '"' :: rest =>
      set { p with rest }
      match context with
      | .quoted => return done.reverse
      | .plain | .braces false _ =>
        let parts ← readParts inner fuel .quoted 0 []
        readParts inner fuel context depth (parts.reverse ++ .text true [] :: done)
      -- Inside of quoted braces a quote ends nothing, but it quotes an empty text.
      | .braces true _ => readParts inner fuel context depth (.text true [] :: done)
      | .document | .arithmetic =>
        readParts inner fuel context depth (addPart done (.text quoted ['"']))
    | '\x7d' :: rest =>
      set { p with rest }
      match context with
      | .braces _ _ => return done.reverse
      | _ => readParts inner fuel context depth (addPart done (.text quoted ['\x7d']))
    | c :: rest =>
      if context == .plain && endsWord c then return done.reverse
      else if context == .arithmetic && c == ')' then
        -- Two parentheses end a calculation, if none is open in it.
        if depth == 0 && rest.head? == some ')' then
          set { p with rest := rest.drop 1 }
          return done.reverse
        else
          set { p with rest }
          readParts inner fuel context (depth - 1) (.text true [')'] :: done)
      else if context == .arithmetic && c == '(' then
        set { p with rest }
        readParts inner fuel context (depth + 1) (.text true ['('] :: done)
      else
        let more := rest.takeWhile context.isOrdinary
        advance (c :: more) (rest.drop more.length)
        readParts inner fuel context depth (addPart done (.text quoted (c :: more)))

/-- Reads what a dollar sign starts. -/
def readDollar (inner : Nested) : Nat → Bool → Reading WordPart
  | 0, quoted => return .text quoted ['$']
  | fuel + 1, quoted => do
    passJoints
    let p ← get
    match p.rest with
    | '(' :: '(' :: rest =>
      set { p with rest }
      return .number quoted (← readParts inner fuel .arithmetic 0 [])
    | '(' :: rest =>
      set { p with rest }
      return .output quoted (← readOutput inner)
    | '\x7b' :: rest =>
      match bracedName rest with
      -- A name that is none is noticed only when the word is filled in, so the braces are read to
      -- their end.
      | none =>
        set { p with rest }
        let _ ← readParts inner fuel (.braces quoted p.line) 0 []
        return .parameter quoted "" .bad
      | some (asked, name, rest) =>
        let name := String.ofList name
        let bad : Reading WordPart := do
          set { p with rest }
          let _ ← readParts inner fuel (.braces quoted p.line) 0 []
          return .parameter quoted name .bad
        match asked, rest with
        | _, '\x7d' :: rest =>
          set { p with rest }
          return .parameter quoted name (if asked then .length else .value)
        | true, _ => bad
        | false, c :: rest =>
          let next := rest.head?
          let (orEmpty, sign, behind) :=
            if c == ':' then (true, next.getD c, rest.drop 1) else (false, c, rest)
          match fallbackOf? sign with
          | some kind =>
            set { p with rest := behind }
            let word ← readParts inner fuel (.braces quoted p.line) 0 []
            return .parameter quoted name (.fallback kind orEmpty word)
          | none =>
            if c == '%' || c == '#' then
              let longest := next == some c
              set { p with rest := if longest then rest.drop 1 else rest }
              let pattern ← readParts inner fuel (.braces false p.line) 0 []
              return .parameter quoted name (.cut (c == '%') longest pattern)
            else bad
        | false, [] => bad
    | c :: rest =>
      let name := p.rest.takeWhile isNameChar
      if !name.isEmpty && !c.isDigit then
        set { p with rest := p.rest.drop name.length }
        return .parameter quoted (String.ofList name) .value
      else if isSpecial c then
        set { p with rest }
        return .parameter quoted (String.singleton c) .value
      else return .text quoted ['$']
    | [] => return .text quoted ['$']
end

end MailTemplates.Script
