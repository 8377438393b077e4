import MailTemplates.Number.Binary64
/-!
# Decimal text of binary numbers

The shortest decimal that reads back as a binary number, the two ways to write it, and the text
with a fixed number of places.

Shortest: for 1, 2, … 17 digits the two neighbours of the value on that decimal grid are tried
against the interval of reals that round to it; the first grid with a hit wins, of two hits the
nearer, an exact tie going to the even digit.
-/

namespace MailTemplates.Number

/-- A decimal `coefficient * 10 ^ exponent`. -/
structure Decimal where
  coefficient : Nat
  exponent : Int
deriving DecidableEq, Repr

/-- The decimal digits of a number, most significant first. -/
def digits (n : Nat) : List Char := Nat.toDigits 10 n

namespace Binary64

/-- The reals that round to a positive number, as a pair of numerators over the common denominator
`4 * den`, and whether the two ends belong to it. -/
def interval (x : Binary64) : Nat × Nat × Bool :=
  let unit := Nat.pow 2 x.exponent.toNat
  let low := 4 * x.num -
    (if x.mantissa = Nat.pow 2 52 && minExponent < x.exponent then unit else 2 * unit)
  let high := 4 * x.num + 2 * unit
  (low, high, x.mantissa % 2 = 0)

/-- The decimal exponent of the leading digit of a positive quotient. -/
def leadingExponent (num den : Nat) : Int :=
  let guess : Int := ((num.log2 : Int) - den.log2) * 30103 / 100000
  let reaches (k : Int) : Bool := den * Nat.pow 10 k.toNat ≤ num * Nat.pow 10 (-k).toNat
  if reaches (guess + 1) then guess + 1
  else if reaches guess then guess
  else if reaches (guess - 1) then guess - 1
  else guess - 2

/-- The candidate of `n` digits, if one of the two neighbours reads back. -/
def candidate (x : Binary64) (lead : Int) (n : Nat) : Option Decimal :=
  let k := lead + 1 - n
  let (low, high, closed) := interval x
  -- the value and the interval in units of `10 ^ k`, as numerators over `d`
  let scale := Nat.pow 10 (-k).toNat
  let d := 4 * x.den * Nat.pow 10 k.toNat
  let v := 4 * x.num * scale
  let below := v / d
  let inside (c : Nat) : Bool :=
    if closed then low * scale ≤ c * d && c * d ≤ high * scale
    else low * scale < c * d && c * d < high * scale
  let above := below + 1
  match inside below, inside above with
  | false, false => none
  | true, false => some ⟨below, k⟩
  | false, true => some ⟨above, k⟩
  | true, true =>
    let toBelow := v - below * d
    let toAbove := above * d - v
    if toBelow < toAbove || (toBelow == toAbove && below % 2 == 0) then some ⟨below, k⟩
    else some ⟨above, k⟩

/-- The same decimal without the zeros at the end of its coefficient. -/
def stripZeros : Nat → Decimal → Decimal
  | 0, d => d
  | fuel + 1, d =>
    if d.coefficient ≠ 0 && d.coefficient % 10 = 0 then
      stripZeros fuel ⟨d.coefficient / 10, d.exponent + 1⟩
    else d

/-- The shortest decimal that reads back as the magnitude. -/
def shortest (x : Binary64) : Decimal :=
  if x.mantissa = 0 then ⟨0, 0⟩
  else
    let lead := leadingExponent x.num x.den
    match (List.range 17).findSome? fun i => candidate x lead (i + 1) with
    | some d => stripZeros 20 d
    | none => ⟨x.num, 0⟩

end Binary64

/-! ## Writing a decimal -/

/-- How numbers are written: positionally from `10 ^ minPositional` up to below
`10 ^ maxPositional`, with an exponent otherwise. -/
structure DecimalStyle where
  minPositional : Int
  maxPositional : Int

/-- JSON numbers are positional from `0.00001` up to below `10 ^ 16`. -/
def jsonStyle : DecimalStyle := ⟨-5, 16⟩

/-- So many zeros. -/
def zeros (n : Nat) : List Char := List.replicate n '0'

/-- Positional with at least one digit on either side of the point, or one digit before the point
and a signed exponent. -/
def DecimalStyle.write (style : DecimalStyle) (d : Decimal) : List Char :=
  let ds := digits d.coefficient
  -- the number of digits before the point
  let point : Int := ds.length + d.exponent
  if d.coefficient = 0 then "0.0".toList
  else if style.minPositional < point && point ≤ style.maxPositional then
    if 0 ≤ d.exponent then ds ++ zeros d.exponent.toNat ++ ".0".toList
    else if 0 < point then ds.take point.toNat ++ '.' :: ds.drop point.toNat
    else "0.".toList ++ zeros (-point).toNat ++ ds
  else
    let e := point - 1
    let fraction := match ds.drop 1 with
      | [] => []
      | more => '.' :: more
    ds.take 1 ++ fraction ++ 'e' :: (if e < 0 then '-' else '+') :: digits e.natAbs

/-- The JSON text of a binary number. -/
def Binary64.toJsonText (x : Binary64) : List Char :=
  (if x.negative then ['-'] else []) ++ jsonStyle.write x.shortest

/-- A non-negative quotient with one decimal place, rounded to the nearest, a half to the even. -/
def oneDecimal (num den : Nat) : List Char :=
  let tenths := roundDiv (num * 10) den
  digits (tenths / 10) ++ '.' :: digits (tenths % 10)

end MailTemplates.Number
