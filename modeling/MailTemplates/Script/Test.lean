import MailTemplates.Script.Arithmetic
import MailTemplates.Script.Machine
/-!
# Tests

A test says whether something holds of words: of texts, of numbers or of files. Tests are joined by
`-a` and `-o`, of which the first binds more tightly. What a word means depends on those behind it.

Three words with an operator in the middle compare the other two, even if these look like operators.
Of a test with three or four words, parentheses and negations around it are taken off first. All
other tests are read by the ranks of the operators.
-/

namespace MailTemplates.Script.Test

/-- Tests of two words. -/
private def binaryOperators : List String :=
  ["=", "!=", "<", ">", "-eq", "-ne", "-gt", "-ge", "-lt", "-le", "-nt", "-ot", "-ef"]

/-- Tests of one word. -/
private def unaryOperators : List String :=
  ["-n", "-z", "-e", "-f", "-d", "-r", "-w", "-x", "-s", "-h", "-L", "-p", "-S", "-b", "-c", "-u",
    "-g", "-k", "-O", "-G", "-t"]

private def devices : List String :=
  ["/dev/null", "/dev/zero", "/dev/stdin", "/dev/stdout", "/dev/stderr", "/dev/tty"]

/-- Whether something holds of a file. -/
def ofFile (m : Machine) (op name : String) : Bool :=
  let p := m.path name
  if devices.contains name then ["-e", "-r", "-w", "-c"].contains op
  else if name.isEmpty then false
  else
    match op with
    | "-e" | "-r" | "-w" | "-O" | "-G" => m.tree.pathExists p
    | "-f" => m.tree.isFile p
    | "-d" => m.tree.isDirectory p
    | "-x" =>
      match m.tree.lookup p with
      | .ok (.file _ executable) => executable
      | .ok .directory => true
      | _ => false
    | "-s" =>
      match m.tree.lookup p with
      | .ok (.file content _) => content.size != 0
      | .ok .directory => true
      | _ => false
    | _ => false

/-- Whether something holds of one word. -/
def unary (m : Machine) (op word : String) : Bool :=
  match op with
  | "-n" => !word.isEmpty
  | "-z" => word.isEmpty
  | "-t" => false
  | _ => ofFile m op word

private def number (word : String) : Except String Int :=
  let trimmed := word.toList.dropWhile fun c => c == ' ' || c == '\t' || c == '\n'
  let digits := match trimmed with
    | '-' :: ds | '+' :: ds => ds
    | ds => ds
  let run := digits.takeWhile Char.isDigit
  let rest := (digits.drop run.length).dropWhile fun c => c == ' ' || c == '\t' || c == '\n'
  if run.isEmpty || !rest.isEmpty then .error s!"Illegal number: {word}"
  else
    let n := Int.ofNat (run.foldl (fun n c => n * 10 + (c.toNat - 0x30)) 0)
    .ok (if trimmed.head? == some '-' then -n else n)

/-- Whether something holds of two words. -/
def binary (op a b : String) : Except String Bool :=
  let numbers (f : Int → Int → Bool) : Except String Bool := do return f (← number a) (← number b)
  match op with
  | "=" => .ok (a == b)
  | "!=" => .ok (a != b)
  | "<" => .ok (decide (a < b))
  | ">" => .ok (decide (b < a))
  | "-eq" => numbers (· == ·)
  | "-ne" => numbers (· != ·)
  | "-gt" => numbers fun a b => decide (b < a)
  | "-ge" => numbers fun a b => decide (b ≤ a)
  | "-lt" => numbers fun a b => decide (a < b)
  | "-le" => numbers fun a b => decide (a ≤ b)
  | _ => .ok false

/-! ## Reading tests -/

/-- What a word of a test is. -/
private inductive Role where
  | finish
  | operand
  | unary
  | binary
  | both
  | either
  | negation
  | opening
  | closing
deriving DecidableEq

/-- The role of the first word. An operator for one word is an operand if no operand can follow. -/
private def role : List String → Role
  | [] => .finish
  | w :: rest =>
    if unaryOperators.contains w then
      match rest with
      | [] => .operand
      | next :: _ :: _ => if binaryOperators.contains next then .operand else .unary
      | [_] => .unary
    else if binaryOperators.contains w then .binary
    else
      match w with
      | "-a" => .both
      | "-o" => .either
      | "!" => .negation
      | "(" => if rest.isEmpty then .operand else .opening
      | ")" => .closing
      | _ => .operand

mutual
/-- Tests of which one has to hold. Gives the words from the last one on that has been read. -/
private def eitherOf (m : Machine) :
    Nat → Role → List String → Bool → Except String (Bool × List String)
  | 0, _, ws, done => .ok (done, ws)
  | fuel + 1, r, ws, done => do
    let (b, ws) ← allOf m fuel r ws true
    if role (ws.drop 1) == .either then
      eitherOf m fuel (role (ws.drop 2)) (ws.drop 2) (done || b)
    else return (done || b, ws)

/-- Tests that all have to hold. -/
private def allOf (m : Machine) :
    Nat → Role → List String → Bool → Except String (Bool × List String)
  | 0, _, ws, done => .ok (done, ws)
  | fuel + 1, r, ws, done => do
    let (b, ws) ← negated m fuel r ws
    if role (ws.drop 1) == .both then
      allOf m fuel (role (ws.drop 2)) (ws.drop 2) (done && b)
    else return (done && b, ws)

/-- A test that may be negated. -/
private def negated (m : Machine) : Nat → Role → List String → Except String (Bool × List String)
  | 0, _, ws => .ok (false, ws)
  | fuel + 1, r, ws =>
    if r == .negation then do
      let (b, ws) ← negated m fuel (role (ws.drop 1)) (if ws.length < 2 then ws else ws.drop 1)
      return (!b, ws)
    else single m fuel r ws

/-- A test of one word, of a word and an operator, or of two words. -/
private def single (m : Machine) : Nat → Role → List String → Except String (Bool × List String)
  | 0, _, ws => .ok (false, ws)
  | fuel + 1, r, ws =>
    match r, ws with
    | .finish, _ => .ok (false, ws)
    | .opening, _ :: ws => do
      if role ws == .closing then return (false, ws)
      let (b, ws) ← eitherOf m fuel (role ws) ws false
      if role (ws.drop 1) == .closing then return (b, ws.drop 1)
      else throw "closing paren expected"
    | .unary, op :: ws =>
      match ws with
      | [] => .error s!"{op}: argument expected"
      | w :: _ => .ok (unary m op w, ws)
    | _, a :: ws =>
      if role ws == .binary then
        match ws with
        | op :: b :: rest => do return (← binary op a b, b :: rest)
        | op :: [] => .error s!"{op}: argument expected"
        | [] => .ok (!a.isEmpty, [a])
      else .ok (!a.isEmpty, a :: ws)
    | _, [] => .ok (false, [])
end

/-- Whether a test of words holds; negations in front of few words are taken first. -/
def holds (m : Machine) : Nat → List String → Except String Bool
  | 0, _ => .ok false
  | fuel + 1, words =>
    let whole (r : Role) (words : List String) : Except String Bool := do
      match ← eitherOf m (8 * words.length + 8) r words false with
      | (_, last :: _ :: _) => throw s!"{last}: unexpected operator"
      | (b, _) => return b
    let shorter : Except String Bool :=
      if words.head? == some "(" && words.getLast? == some ")" then
        let inner := (words.drop 1).dropLast
        whole (role inner) inner
      else if words.head? == some "!" then (holds m fuel (words.drop 1)).map (!·)
      else whole (role words) words
    match words with
    | [] => .ok false
    | [_, op, _] => if binaryOperators.contains op then whole .operand words else shorter
    | [_, _, _, _] => shorter
    | _ => whole (role words) words

end MailTemplates.Script.Test
