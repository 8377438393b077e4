import MailTemplates.Script.Regex
import MailTemplates.Script.Tool.Basic
/-!
# Tools for numbers

Rows of numbers, and expressions of words: numbers, comparisons, and the parts of a text that a
pattern takes.

Rows are calculated with whole numbers of the last decimal place that occurs, so that no rounding
comes in. Expressions are read by ranks as calculations are, but their operands are words, and a
comparison of two of them is one of numbers only if both are numbers.
-/

namespace MailTemplates.Script.Tools

/-! ## Rows -/

/-- A number as a whole one of the last of so many decimal places. -/
structure Decimals where
  value : Int
  places : Nat
deriving DecidableEq, Repr

private def decimals? (s : String) : Option Decimals :=
  let (sign, cs) : Int × List Char := match s.toList with
    | '-' :: rest => (-1, rest)
    | '+' :: rest => (1, rest)
    | rest => (1, rest)
  let whole := cs.takeWhile Char.isDigit
  match cs.drop whole.length with
  | [] => if whole.isEmpty then none else some ⟨sign * Int.ofNat (digitsValue whole), 0⟩
  | '.' :: rest =>
    if rest.all Char.isDigit && !(whole.isEmpty && rest.isEmpty) then
      some ⟨sign * Int.ofNat (digitsValue (whole ++ rest)), rest.length⟩
    else none
  | _ => none

/-- The value in the last of more places. -/
private def Decimals.at (d : Decimals) (places : Nat) : Int :=
  d.value * Int.ofNat (Nat.pow 10 (places - d.places))

private def decimalText (places : Nat) (n : Int) : String :=
  let ds := (toString n.natAbs).toList
  let ds := List.replicate (places + 1 - ds.length) '0' ++ ds
  let text := ds.take (ds.length - places) ++
    if places == 0 then [] else '.' :: ds.drop (ds.length - places)
  String.ofList (if n < 0 then '-' :: text else text)

/-- The options in front of numbers, which may have a hyphen too. -/
private def rowOptions : Nat → List String → String × Bool → (String × Bool) × List String
  | 0, args, o => (o, args)
  | fuel + 1, args, (mark, equal) =>
    match args with
    | "-s" :: m :: rest => rowOptions fuel rest (m, equal)
    | "-w" :: rest => rowOptions fuel rest (mark, true)
    | a :: rest =>
      match a.toList with
      | '-' :: 's' :: m => rowOptions fuel rest (String.ofList m, equal)
      | _ => ((mark, equal), args)
    | [] => ((mark, equal), [])

/-- Numbers from one to another. -/
def seq : Tool := fun s args =>
  let ((mark, equal), operands) := rowOptions (args.length + 1) args ("\n", false)
  let listed (first step last : Decimals) : ToolRun :=
    let places := max first.places step.places
    -- All three numbers at the last place that any of them has; it is the first two that decide how
    -- many places are shown.
    let scale := max places last.places
    let (a, d, b) := (first.at scale, step.at scale, last.at scale)
    if d == 0 then .misused s "seq" 1 ["seq: invalid Zero increment value: '0'"]
    else
      let n := ((b - a).fdiv d + 1).toNat
      let unit := Int.ofNat (Nat.pow 10 (scale - places))
      let texts := (List.range n).map fun i => decimalText places ((a + d * Int.ofNat i).tdiv unit)
      let width := (texts.map String.length).foldl max 0
      let texts := if equal then texts.map fun t =>
        String.ofList (List.replicate (width - t.length) '0') ++ t else texts
      if texts.isEmpty then .saying s "" else .saying s (mark.intercalate texts ++ "\n")
  let one : Decimals := ⟨1, 0⟩
  let read (a : String) : Except String Decimals :=
    match decimals? a with
    | some d => .ok d
    | none => .error a
  match operands.mapM read with
  | .error a => .misused s "seq" 1 [s!"seq: invalid floating point argument: '{a}'"]
  | .ok [last] => listed one one last
  | .ok [first, last] => listed first one last
  | .ok [first, step, last] => listed first step last
  | .ok [] => .misused s "seq" 1 ["seq: missing operand"]
  | .ok _ =>
    let extra := operands.getD 3 ""
    .misused s "seq" 1 [s!"seq: extra operand '{extra}'"]

/-! ## Expressions -/

private def integer? (s : String) : Option Int :=
  let (sign, ds) : Int × List Char := match s.toList with
    | '-' :: ds => (-1, ds)
    | ds => (1, ds)
  if !ds.isEmpty && ds.all Char.isDigit then some (sign * Int.ofNat (digitsValue ds)) else none

/-- Whether a text counts as something: it is neither empty nor zero. -/
def truth (s : String) : Bool := !s.isEmpty && (integer? s).all (· != 0)

private def ranks : List (List String) :=
  [["|"], ["&"], ["=", "==", "!=", "<", "<=", ">", ">="], ["+", "-"], ["*", "/", "%"], [":"]]

/-- What a pattern takes of the front of a text: the text of its group, or a length. -/
private def taken (s pattern : String) : Except String String :=
  match Regex.read? false ('^' :: pattern.toList) with
  | none => .error "expr: Unmatched ( or \\("
  | some r =>
    let grouped := (pattern.splitOn "\\(").length > 1
    match r.find? false s.toList with
    | some m =>
      .ok (if grouped then String.ofList ((m.groups.lookup 1).getD [])
        else toString m.taken.length)
    | none => .ok (if grouped then "" else "0")

private def operate (op a b : String) : Except String String :=
  let numbers (f : Int → Int → Except String Int) : Except String String :=
    match integer? a, integer? b with
    | some m, some n => (f m n).map toString
    | _, _ => .error "expr: non-integer argument"
  let comparison (f : Ordering → Bool) : Except String String :=
    let order := match integer? a, integer? b with
      | some m, some n => compare m n
      | _, _ => compare a b
    .ok (if f order then "1" else "0")
  let divided (f : Int → Int → Int) : Except String String :=
    numbers fun m n => if n == 0 then .error "expr: division by zero" else .ok (f m n)
  match op with
  | "|" => .ok (if truth a then a else if truth b then b else "0")
  | "&" => .ok (if truth a && truth b then a else "0")
  | "=" | "==" => comparison (· == .eq)
  | "!=" => comparison (· != .eq)
  | "<" => comparison (· == .lt)
  | "<=" => comparison (· != .gt)
  | ">" => comparison (· == .gt)
  | ">=" => comparison (· != .lt)
  | "+" => numbers fun m n => .ok (m + n)
  | "-" => numbers fun m n => .ok (m - n)
  | "*" => numbers fun m n => .ok (m * n)
  | "/" => divided Int.tdiv
  | "%" => divided Int.tmod
  | _ => taken a b

mutual
/-- Reads operators of a rank and the ranks above it. -/
private def chain : Nat → List (List String) → List String → Except String (String × List String)
  | 0, _, _ => .error "expr: syntax error"
  | fuel + 1, [], ws => single fuel ws
  | fuel + 1, rank :: more, ws => do
    let (a, rest) ← chain fuel more ws
    further fuel rank more a rest

/-- Goes on with operators of a rank, from the left. -/
private def further : Nat → List String → List (List String) → String → List String →
    Except String (String × List String)
  | 0, _, _, _, _ => .error "expr: syntax error"
  | fuel + 1, rank, more, a, ws =>
    match ws with
    | op :: rest =>
      if rank.contains op then do
        if rest.isEmpty then throw s!"expr: syntax error: missing argument after '{op}'"
        let (b, rest) ← chain fuel more rest
        further fuel rank more (← operate op a b) rest
      else .ok (a, ws)
    | [] => .ok (a, [])

/-- Reads one operand. -/
private def single : Nat → List String → Except String (String × List String)
  | 0, _ => .error "expr: syntax error"
  | fuel + 1, ws =>
    match ws with
    | "length" :: s :: rest => .ok (toString s.length, rest)
    | "substr" :: s :: first :: n :: rest =>
      match first.toInt?, n.toInt? with
      | some i, some n =>
        if i < 1 || n < 1 then .ok ("", rest)
        else .ok (String.ofList ((s.toList.drop (i.toNat - 1)).take n.toNat), rest)
      | _, _ => .ok ("", rest)
    | "index" :: s :: cs :: rest =>
      .ok (toString (((s.toList.findIdx? fun c => cs.toList.contains c).map (· + 1)).getD 0), rest)
    | "match" :: s :: p :: rest => do return (← taken s p, rest)
    | "(" :: rest => do
      let (a, rest) ← chain fuel ranks rest
      match rest with
      | ")" :: rest => return (a, rest)
      | _ => throw "expr: syntax error: expecting ')'"
    | w :: rest => .ok (w, rest)
    | [] => .error "expr: missing operand"
end

/-- The value of an expression of words. -/
def expr : Tool := fun s args =>
  match chain (16 * args.length + 32) ranks args with
  | .error "expr: missing operand" => .misused s "expr" 2 ["expr: missing operand"]
  | .error complaint => .failed s 2 [complaint]
  | .ok (_, w :: _) => .failed s 2 [s!"expr: syntax error: unexpected argument '{w}'"]
  | .ok (a, []) =>
    { output := a.toList ++ ['\n'], status := if truth a then 0 else 1, unread := s.input }

end MailTemplates.Script.Tools
