/-!
# Calculations

A calculation works on whole numbers of 64 bits, which wrap around. It reads variables and assigns
to them. What is not reached, behind a condition that decides, is read but not done.

The text is read and calculated at once, from left to right, by the ranks of the operators. On a way
that is not taken everything is read in the same manner, with results that nobody looks at and
without assigning.
-/

namespace MailTemplates.Script.Arithmetic

/-- What can be wrong with a calculation. -/
inductive Flaw where
  | missingOperand
  | unreadEnd
  | missing (text : String)
  | divisionByZero
  /-- The value of a variable is no number. -/
  | notNumber (text : String)
deriving DecidableEq, Repr

/-- The wording of a flaw in a calculation. -/
def Flaw.message (expression : String) : Flaw → String
  | missingOperand => s!"arithmetic expression: expecting primary: \"{expression}\""
  | unreadEnd => s!"arithmetic expression: expecting EOF: \"{expression}\""
  | missing text => s!"arithmetic expression: expecting '{text}': \"{expression}\""
  | divisionByZero => s!"arithmetic expression: division by zero: \"{expression}\""
  | notNumber text => s!"Illegal number: {text}"

/-- How many numbers 64 bits can hold. -/
def wordSize : Nat := 0x10000000000000000

/-- A number of 64 bits. -/
def wrapped (n : Int) : Int := n.bmod wordSize

/-- Values that names have. -/
structure Variables where
  value : String → String
  /-- What has been assigned, the last first. -/
  assigned : List (String × String) := []

/-- The value of a name as it is written. -/
def Variables.get (v : Variables) (name : String) : String :=
  (v.assigned.lookup name).getD (v.value name)

/-- Calculates, with what is left to read and the values of names. -/
abbrev Calculation := StateT (List Char × Variables) (Except Flaw)

private def isLetter (c : Char) : Bool := c.isAlphanum || c == '_'

private def skipBlanks (cs : List Char) : List Char :=
  cs.dropWhile fun c => c == ' ' || c == '\t' || c == '\n'

private def digitOf (c : Char) : Nat :=
  if c.isDigit then c.toNat - 0x30
  else if 'a' ≤ c && c ≤ 'f' then c.toNat - 0x57
  else if 'A' ≤ c && c ≤ 'F' then c.toNat - 0x37
  else 16

/-- The number in front of a text, whose base its first characters tell, and what follows. -/
def unsigned (cs : List Char) : Nat × List Char :=
  let (base, digits) : Nat × List Char := match cs with
    | '0' :: x :: d :: rest =>
      if (x == 'x' || x == 'X') && digitOf d < 16 then (16, d :: rest) else (8, cs)
    | '0' :: _ => (8, cs)
    | _ => (10, cs)
  let run := digits.takeWhile fun c => digitOf c < base
  (run.foldl (fun n c => n * base + digitOf c) 0, digits.drop run.length)

/-- The greatest number. -/
def greatest : Int := 0x7fffffffffffffff

/-- The number that a text is, with blanks around it and a sign; a blank text is zero. -/
def number? (s : String) : Option Int :=
  let whole := skipBlanks s.toList
  let (sign, cs) : Int × List Char := match whole with
    | '-' :: rest => (-1, rest)
    | '+' :: rest => (1, rest)
    | _ => (1, whole)
  match cs with
  | c :: _ =>
    let (n, rest) := unsigned cs
    let value := sign * Int.ofNat n
    if c.isDigit && (skipBlanks rest).isEmpty && wrapped value == value then some value else none
  | [] => if whole.isEmpty then some 0 else none

/-- The value of a name. -/
def lookUp (active : Bool) (name : String) : Calculation Int := do
  let (_, v) ← get
  let text := v.get name
  match number? text with
  | some n => return n
  | none => if active then throw (.notNumber text) else return 0

private def binaryOperators : List (List String) :=
  [["||"], ["&&"], ["|"], ["^"], ["&"], ["==", "!="], ["<=", ">=", "<", ">"], ["<<", ">>"],
    ["+", "-"], ["*", "/", "%"]]

private def assignmentOperators : List String :=
  ["<<=", ">>=", "+=", "-=", "*=", "/=", "%=", "&=", "|=", "^=", "="]

/-- The longest operators, of which another one may be the front. -/
private def allOperators : List String :=
  ["<<=", ">>=", "||", "&&", "==", "!=", "<=", ">=", "<<", ">>", "+=", "-=", "*=", "/=", "%=", "&=",
    "|=", "^=", "|", "^", "&", "<", ">", "+", "-", "*", "/", "%", "=", "?", ":", "(", ")", "!", "~"]

/-- The operator in front of what is left to read. -/
private def operator? : Calculation (Option String) := do
  let (cs, _) ← get
  let cs := skipBlanks cs
  return allOperators.find? fun op => op.toList.isPrefixOf cs

/-- Passes an operator. -/
private def pass (op : String) : Calculation Unit :=
  modify fun (cs, v) => ((skipBlanks cs).drop op.length, v)

private def ofBool (b : Bool) : Int := if b then 1 else 0

private def bits (f : Nat → Nat → Nat) (a b : Int) : Int :=
  let natural (n : Int) : Nat := (n % wordSize).toNat
  wrapped (Int.ofNat (f (natural a) (natural b)))

/-- The result of an operator on two numbers. -/
def operate (op : String) (a b : Int) : Except Flaw Int :=
  match op with
  | "|" => .ok (bits Nat.lor a b)
  | "^" => .ok (bits Nat.xor a b)
  | "&" => .ok (bits Nat.land a b)
  | "==" => .ok (ofBool (a == b))
  | "!=" => .ok (ofBool (a != b))
  | "<=" => .ok (ofBool (a ≤ b))
  | ">=" => .ok (ofBool (b ≤ a))
  | "<" => .ok (ofBool (a < b))
  | ">" => .ok (ofBool (b < a))
  | "<<" => .ok (wrapped (a * Int.ofNat (Nat.pow 2 (b % 64).toNat)))
  | ">>" => .ok (a.fdiv (Int.ofNat (Nat.pow 2 (b % 64).toNat)))
  | "+" => .ok (wrapped (a + b))
  | "-" => .ok (wrapped (a - b))
  | "*" => .ok (wrapped (a * b))
  | "/" => if b == 0 then .error .divisionByZero else .ok (wrapped (a.tdiv b))
  | "%" => if b == 0 then .error .divisionByZero else .ok (wrapped (a.tmod b))
  | _ => .ok b

mutual
/-- Calculates an assignment, or a choice. -/
def assignment : Nat → Bool → Calculation Int
  | 0, _ => throw .missingOperand
  | fuel + 1, active => do
    let (cs, _) ← get
    let cs := skipBlanks cs
    let name := cs.takeWhile isLetter
    let behind := skipBlanks (cs.drop name.length)
    let op := assignmentOperators.find? fun op => op.toList.isPrefixOf behind
    match op, name with
    | some op, c :: _ =>
      if c.isDigit || "==".toList.isPrefixOf behind then choice fuel active
      else
        let name := String.ofList name
        modify fun (_, v) => (behind.drop op.length, v)
        let b ← assignment fuel active
        let result ←
          if op == "=" then pure b
          else do
            let a ← lookUp active name
            if active then operate (op.dropEnd 1).toString a b else pure 0
        if active then
          modify fun (cs, v) => (cs, { v with assigned := (name, toString result) :: v.assigned })
        return result
    | _, _ => choice fuel active

/-- Calculates one of two, as a condition says. -/
def choice : Nat → Bool → Calculation Int
  | 0, _ => throw .missingOperand
  | fuel + 1, active => do
    let condition ← chain fuel active binaryOperators
    if (← operator?) == some "?" then
      pass "?"
      let yes ← assignment fuel (active && condition != 0)
      if (← operator?) != some ":" then throw (.missing ":")
      pass ":"
      let no ← choice fuel (active && condition == 0)
      return if condition != 0 then yes else no
    else return condition

/-- Calculates with operators of a rank and the ranks above it. -/
def chain : Nat → Bool → List (List String) → Calculation Int
  | 0, _, _ => throw .missingOperand
  | fuel + 1, active, [] => single fuel active
  | fuel + 1, active, rank :: ranks => do
    let first ← chain fuel active ranks
    further fuel active rank ranks first

/-- Goes on with operators of a rank, from the left. -/
def further : Nat → Bool → List String → List (List String) → Int → Calculation Int
  | 0, _, _, _, _ => throw .missingOperand
  | fuel + 1, active, rank, ranks, a => do
    match (← operator?).filter rank.contains with
    | none => return a
    | some op =>
      pass op
      if op == "&&" then
        let b ← chain fuel (active && a != 0) ranks
        further fuel active rank ranks (ofBool (a != 0 && b != 0))
      else if op == "||" then
        let b ← chain fuel (active && a == 0) ranks
        further fuel active rank ranks (ofBool (a != 0 || b != 0))
      else
        let b ← chain fuel active ranks
        let c ← if active then operate op a b else pure 0
        further fuel active rank ranks c

/-- Calculates a number, a name, or something with a sign or in parentheses. -/
def single : Nat → Bool → Calculation Int
  | 0, _ => throw .missingOperand
  | fuel + 1, active => do
    match ← operator? with
    | some "-" =>
      pass "-"
      return wrapped (-(← single fuel active))
    | some "+" =>
      pass "+"
      single fuel active
    | some "!" =>
      pass "!"
      return ofBool ((← single fuel active) == 0)
    | some "~" =>
      pass "~"
      return -1 - (← single fuel active)
    | some "(" =>
      pass "("
      let n ← assignment fuel active
      if (← operator?) != some ")" then throw (.missing ")")
      pass ")"
      return n
    | some _ => throw .missingOperand
    | none =>
      let (cs, v) ← get
      let cs := skipBlanks cs
      match cs with
      | c :: _ =>
        if c.isDigit then
          let (n, rest) := unsigned cs
          set (rest, v)
          return min (Int.ofNat n) greatest
        else
          let name := cs.takeWhile isLetter
          if name.isEmpty then throw .missingOperand
          set (cs.drop name.length, v)
          lookUp active (String.ofList name)
      | [] => throw .missingOperand
end

/-- The result of a calculation, and what it assigns, the last first. -/
def evaluate (value : String → String) (expression : String) :
    Except Flaw (Int × List (String × String)) := do
  let cs := expression.toList
  let (n, rest, v) ← (assignment (16 * cs.length + 32) true).run (cs, { value })
  if (skipBlanks rest).isEmpty then return (n, v.assigned) else throw .unreadEnd

end MailTemplates.Script.Arithmetic
