import MailTemplates.Handlebars.Basic
import MailTemplates.Json.Parser
/-!
# Reading the inside of a tag

Scanners for names, references, literals, arguments and options. A scanner reads from the front of a
text and gives what it read and the rest, or nothing; the first alternative that reads something
wins. Blanks may stand between the parts of a tag, but not inside a name or a reference.

The scanners follow the rules of a grammar in which the first alternative that fits is taken for
good. So the order of the alternatives is part of the behaviour, and a scanner that has read
something is not asked again when what follows does not fit.
-/

namespace MailTemplates.Handlebars

/-- Reads something from the front of a text. -/
abbrev Scan (α : Type) := List Char → Option (α × List Char)

namespace Scan

/-- A blank between the parts of a tag. -/
def isBlank (c : Char) : Bool := c == ' ' || c == '\t' || c == '\n' || c == '\r'

/-- The text behind the blanks it starts with. -/
def skipBlanks (cs : List Char) : List Char := cs.dropWhile isBlank

/-- Reads a fixed word. -/
def word (w : List Char) : List Char → Option (List Char) := fun cs =>
  if w.isPrefixOf cs then some (cs.drop w.length) else none

private def isWordChar (c : Char) : Bool :=
  c.isAlpha || c.isDigit || c == '_' || c == '-' || 0x80 ≤ c.toNat

/-- A character of a name. -/
def isNameChar (c : Char) : Bool := isWordChar c || c == '$' || c == ':'

/-- A character of the name of a partial. -/
def isPartialChar (c : Char) : Bool := isWordChar c || c == '/' || c == '.' || c == '@'

/-- Reads one or more characters of a class. -/
def many1 (p : Char → Bool) : Scan String := fun cs =>
  let name := cs.takeWhile p
  if name.isEmpty then none else some (String.ofList name, cs.drop name.length)

/-- Reads a name. -/
def identifier : Scan String := many1 isNameChar

/-- Reads text in single quotes, which may hold such quotes behind a backslash. -/
def quotedName : Scan String
  | '\'' :: cs => do
    let rest ← inside cs
    if rest.length + 1 = cs.length then none
    return (String.ofList ('\'' :: cs.take (cs.length - rest.length)), rest)
  | _ => none
where
  inside : List Char → Option (List Char)
    | '\\' :: '\'' :: cs => inside cs
    | '\'' :: cs => some cs
    | _ :: cs => inside cs
    | [] => none

/-- Reads the name of a partial. -/
def partialName : Scan String := fun cs => (many1 isPartialChar cs).orElse fun _ => quotedName cs

/-- The front of a text that a scanner read. -/
def consumed (cs rest : List Char) : String := String.ofList (cs.take (cs.length - rest.length))

/-! ## References -/

private def isSeparator (c : Char) : Bool := c == '/' || c == '.'

/-- Reads a name, or any text in square brackets. -/
def pathItem : Scan String
  | '[' :: cs =>
    let key := cs.takeWhile (· != ']')
    match cs.drop key.length with
    | ']' :: rest => some (String.ofList key, rest)
    | _ => none
  | cs => identifier cs

private def itemStep (name : String) : List PathStep := if name = "this" then [] else [.named name]

/-- Reads further names, each behind a separator. -/
def pathItems : Nat → List Char → List PathStep × List Char
  | 0, cs => ([], cs)
  | fuel + 1, cs =>
    match cs with
    | c :: rest =>
      if isSeparator c then
        match pathItem rest with
        | some (name, rest) =>
          let (steps, rest) := pathItems fuel rest
          (itemStep name ++ steps, rest)
        | none => ([], cs)
      else ([], cs)
    | [] => ([], [])

/-- Reads `../` as often as it is there. -/
def pathUps : List Char → Nat × List Char
  | '.' :: '.' :: c :: cs =>
    if isSeparator c then
      let (n, rest) := pathUps cs
      (n + 1, rest)
    else (0, '.' :: '.' :: c :: cs)
  | cs => (0, cs)

/-- Reads a reference. -/
def reference : Scan Reference := fun cs => do
  let start := cs
  let cs := match cs with
    | 't' :: 'h' :: 'i' :: 's' :: c :: rest => if isSeparator c then rest else cs
    | '.' :: '/' :: rest => rest
    | _ => cs
  let (root, cs) : List PathStep × List Char := match word "@root".toList cs with
    | some (c :: rest) => if isSeparator c then ([.root], rest) else ([], cs)
    | _ => ([], cs)
  let (ofBlock, cs) : List PathStep × List Char := match cs with
    | '@' :: rest => ([.ofBlock], rest)
    | _ => ([], cs)
  let (ups, cs) := pathUps cs
  let (name, cs) ← pathItem cs
  let (more, cs) := pathItems cs.length cs
  return (⟨consumed start cs,
    root ++ ofBlock ++ List.replicate ups .up ++ itemStep name ++ more⟩, cs)

/-! ## Literals -/

private def isHex (c : Char) : Bool :=
  c.isDigit || ('a' ≤ c && c ≤ 'f') || ('A' ≤ c && c ≤ 'F')

/-- Reads the characters of a quoted string and the quote behind them. -/
def quotedRest (quote : Char) : List Char → Option (List Char)
  | [] => none
  | '\\' :: 'u' :: a :: b :: c :: d :: cs =>
    if isHex a && isHex b && isHex c && isHex d then quotedRest quote cs else none
  | '\\' :: c :: cs =>
    if c == quote || c == '\\' || c == '/' || "bfnrt".toList.contains c then quotedRest quote cs
    else none
  | ['\\'] => none
  | c :: cs => if c = quote then some cs else quotedRest quote cs

private def notInName (cs : List Char) : Bool :=
  match cs with
  | c :: _ => !isNameChar c
  | [] => true

/-- Reads a number. -/
def numberRest (cs : List Char) : Option (List Char) := do
  let cs := match cs with
    | '-' :: rest => rest
    | _ => cs
  let whole := cs.takeWhile Char.isDigit
  if whole.isEmpty then none
  let cs := cs.drop whole.length
  let cs := match cs with
    | '.' :: rest => rest
    | _ => cs
  let cs := cs.dropWhile Char.isDigit
  let cs := match cs with
    | 'E' :: rest =>
      let digits := match rest with
        | '-' :: more => more
        | _ => rest
      if (digits.takeWhile Char.isDigit).isEmpty then cs else digits.dropWhile Char.isDigit
    | _ => cs
  if notInName cs then some cs else none

private def wordRest (w : String) (cs : List Char) : Option (List Char) := do
  let rest ← word w.toList cs
  if notInName rest then some rest else none

mutual
/-- Reads a literal of any kind. -/
def literalRest : Nat → List Char → Option (List Char)
  | 0, _ => none
  | fuel + 1, cs =>
    match cs with
    | '"' :: rest => quotedRest '"' rest
    | '\'' :: rest => quotedRest '\'' rest
    | '[' :: rest =>
      let rest := skipBlanks rest
      match literalRest fuel rest with
      | some more => moreItems fuel (skipBlanks more)
      | none => moreItems fuel rest
    | '{' :: rest =>
      let rest := skipBlanks rest
      match memberRest fuel rest with
      | some more => moreMembers fuel (skipBlanks more)
      | none => moreMembers fuel rest
    | _ => (numberRest cs).orElse fun _ => (wordRest "null" cs).orElse fun _ =>
        (wordRest "true" cs).orElse fun _ => wordRest "false" cs

/-- Reads the items behind the first one, and the closing bracket. -/
def moreItems : Nat → List Char → Option (List Char)
  | 0, _ => none
  | fuel + 1, cs =>
    match cs with
    | ']' :: rest => some rest
    | ',' :: rest =>
      match literalRest fuel (skipBlanks rest) with
      | some more => moreItems fuel (skipBlanks more)
      | none => none
    | _ => none

/-- Reads a key, a colon and a literal. -/
def memberRest : Nat → List Char → Option (List Char)
  | 0, _ => none
  | fuel + 1, cs => do
    let rest ← match cs with
      | '"' :: rest => quotedRest '"' rest
      | '\'' :: rest => quotedRest '\'' rest
      | _ => none
    let rest ← word [':'] (skipBlanks rest)
    literalRest fuel (skipBlanks rest)

/-- Reads the members behind the first one, and the closing brace. -/
def moreMembers : Nat → List Char → Option (List Char)
  | 0, _ => none
  | fuel + 1, cs =>
    match cs with
    | '}' :: rest => some rest
    | ',' :: rest =>
      match memberRest fuel (skipBlanks rest) with
      | some more => moreMembers fuel (skipBlanks more)
      | none => none
    | _ => none
end

/-- A text in single quotes, in double quotes. -/
def requoted : List Char → List Char
  | [] => []
  | '\\' :: '\'' :: cs => '\'' :: requoted cs
  | '"' :: cs => '\\' :: '"' :: requoted cs
  | c :: cs => c :: requoted cs

/-- The value that a literal writes; one that is no JSON has none. -/
def literalValue (source : List Char) : Option Json :=
  let text := match source with
    | '\'' :: inner => '"' :: requoted inner.dropLast ++ ['"']
    | _ => source
  (Json.parse (String.ofList text)).toOption

/-! ## Arguments and options -/

/-- What a scanner of arguments read, and the first literal in it that is no JSON. -/
structure Read (α : Type) where
  value : α
  bad : Option String := none

private def startsKeyword (cs : List Char) : Bool :=
  (wordRest "as" cs).isSome || (wordRest "else" cs).isSome

mutual
/-- Reads a literal, a reference or a call in parentheses. -/
def param : Nat → Scan (Read Param)
  | 0, _ => none
  | fuel + 1, cs =>
    if startsKeyword cs then none
    else
      match literalRest (cs.length + 1) cs with
      | some rest =>
        let source := cs.take (cs.length - rest.length)
        match literalValue source with
        | some v => some (⟨.literal v, none⟩, rest)
        | none => some (⟨.literal .null, some (String.ofList source)⟩, rest)
      | none =>
        match reference cs with
        | some (r, rest) => some (⟨.path r, none⟩, rest)
        | none => subexpression fuel cs

/-- Reads a call in parentheses. -/
def subexpression : Nat → Scan (Read Param)
  | 0, _ => none
  | fuel + 1, cs => do
    let cs ← word ['('] cs
    let cs := skipBlanks cs
    let (call, cs) ← match called fuel cs with
      | some found => some found
      | none => do
        let (r, rest) ← reference cs
        some (⟨.call (.path r) [] [], none⟩, rest)
    let cs ← word [')'] (skipBlanks cs)
    return (call, cs)

/-- Reads the name of a helper with at least one argument or option. -/
def called : Nat → Scan (Read Param)
  | 0, _ => none
  | fuel + 1, cs => do
    let (name, cs) ← identifier cs
    let (r, cs) := arguments fuel cs
    if r.value.1.isEmpty && r.value.2.isEmpty then none
    return (⟨.call (.word name) r.value.1 r.value.2, r.bad⟩, cs)

/-- Reads arguments and options as long as there are any. -/
def arguments : Nat → List Char → Read (List Param × List (String × Param)) × List Char
  | 0, cs => (⟨([], []), none⟩, cs)
  | fuel + 1, cs =>
    let start := skipBlanks cs
    match option fuel start with
    | some (o, rest) =>
      let (more, rest) := arguments fuel rest
      (⟨(more.value.1, o.value :: more.value.2), o.bad.orElse fun _ => more.bad⟩, rest)
    | none =>
      match param fuel start with
      | some (p, rest) =>
        let (more, rest) := arguments fuel rest
        (⟨(p.value :: more.value.1, more.value.2), p.bad.orElse fun _ => more.bad⟩, rest)
      | none => (⟨([], []), none⟩, cs)

/-- Reads a name, `=` and a value. -/
def option : Nat → Scan (Read (String × Param))
  | 0, _ => none
  | fuel + 1, cs => do
    let (key, cs) ← identifier cs
    let cs ← word ['='] (skipBlanks cs)
    let (p, cs) ← param fuel (skipBlanks cs)
    return (⟨(key, p.value), p.bad⟩, cs)
end

/-- Reads `as |a|` or `as |a b|`. -/
def blockParams : Scan (String × Option String) := fun cs => do
  let cs ← word "as".toList cs
  let cs ← word ['|'] (skipBlanks cs)
  let (a, cs) ← identifier (skipBlanks cs)
  match identifier (skipBlanks cs) with
  | some (b, rest) => return ((a, some b), ← word ['|'] (skipBlanks rest))
  | none => return ((a, none), ← word ['|'] (skipBlanks cs))

/-- The last value that a key is given counts. -/
def lastOfEach (hash : List (String × Param)) : List (String × Param) :=
  hash.foldr (fun o kept => if kept.any (·.1 == o.1) then kept else o :: kept) []

private def expressionOf (name : Param) (r : Read (List Param × List (String × Param)))
    (blockParams : Option (String × Option String)) : Read Expression :=
  ⟨{ name, args := r.value.1, hash := lastOfEach r.value.2, blockParams }, r.bad⟩

/-- Reads the inside of a tag that opens a block: a name, arguments, and names for values. -/
def blockLine : Scan (Read Expression) := fun cs => do
  let (name, cs) ← identifier cs
  let (r, cs) := arguments (cs.length + 1) cs
  match blockParams (skipBlanks cs) with
  | some (names, rest) => return (expressionOf (.word name) r (some names), rest)
  | none => return (expressionOf (.word name) r none, cs)

/-- Reads a reference or a call in parentheses as the name of a tag. -/
def tagName : Scan (Read Param) := fun cs =>
  match subexpression (cs.length + 1) cs with
  | some found => some found
  | none => (reference cs).map fun (r, rest) => (⟨.path r, none⟩, rest)

/-- Reads the inside of a tag that shows a value. -/
def valueLine : Scan (Read Expression) := fun cs =>
  match called (cs.length + 1) cs with
  | some (⟨.call name args hash, bad⟩, rest) =>
    some (⟨{ name, args, hash := lastOfEach hash }, bad⟩, rest)
  | _ => (tagName cs).map fun (p, rest) => (⟨{ name := p.value }, p.bad⟩, rest)

/-- Reads the inside of a tag that shows a partial. -/
def partialLine : Scan (Read Expression) := fun cs => do
  let (name, cs) ← match partialName cs with
    | some (name, rest) => some ((⟨.word name, none⟩ : Read Param), rest)
    | none => tagName cs
  let (r, cs) := arguments (cs.length + 1) cs
  return (expressionOf name.value { r with bad := name.bad.orElse fun _ => r.bad } none, cs)

end Scan

end MailTemplates.Handlebars
