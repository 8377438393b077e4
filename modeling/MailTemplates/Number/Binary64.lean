/-!
# Binary numbers of 64 bits

A finite floating-point number is a sign and a magnitude `mantissa * 2 ^ exponent` with at most 53
bits in the mantissa. Arithmetic is exact on natural numbers, then rounded once to the nearest
representable value, ties to the even mantissa. Nothing here depends on a machine's floats, so every
result can be computed in a proof.

Main statements: `roundDiv_mul_le` and `lt_roundDiv_mul` (rounding a quotient moves it by at most
half a unit).
-/

namespace MailTemplates.Number

/-! ## Rounding a quotient -/

/-- The quotient of two numbers, rounded to the nearest, a half to the even neighbour. -/
def roundDiv (num den : Nat) : Nat :=
  let q := num / den
  let r := num % den
  if 2 * r < den then q
  else if den < 2 * r then q + 1
  else if q % 2 = 0 then q else q + 1

/-- Rounding goes up by at most half a unit. -/
theorem roundDiv_mul_le (num den : Nat) : 2 * (roundDiv num den * den) ≤ 2 * num + den := by
  have h := Nat.div_add_mod num den
  have hc : num / den * den = den * (num / den) := Nat.mul_comm _ _
  unfold roundDiv
  simp only
  split
  · omega
  · split
    · rw [Nat.add_mul]; omega
    · split
      · omega
      · rw [Nat.add_mul]; omega

/-- Rounding goes down by at most half a unit. -/
theorem lt_roundDiv_mul (num : Nat) {den : Nat} (hd : 0 < den) :
    2 * num ≤ 2 * (roundDiv num den * den) + den := by
  have h := Nat.div_add_mod num den
  have hm := Nat.mod_lt num hd
  have hc : num / den * den = den * (num / den) := Nat.mul_comm _ _
  unfold roundDiv
  simp only
  split
  · omega
  · split
    · rw [Nat.add_mul]; omega
    · split
      · omega
      · rw [Nat.add_mul]; omega

/-! ## The numbers -/

/-- A finite binary number of 64 bits. A zero has the least exponent. -/
structure Binary64 where
  negative : Bool
  mantissa : Nat
  exponent : Int
deriving DecidableEq, Repr

namespace Binary64

/-- The least exponent: that of the numbers with a short mantissa. -/
def minExponent : Int := -1074

/-- The greatest exponent of a finite number. -/
def maxExponent : Int := 971

/-- Zero with a sign. -/
def zero (negative : Bool) : Binary64 := ⟨negative, 0, minExponent⟩

/-- Numerator of the magnitude as a quotient of natural numbers. -/
def num (x : Binary64) : Nat := x.mantissa * Nat.pow 2 x.exponent.toNat

/-- Denominator of the magnitude as a quotient of natural numbers. -/
def den (x : Binary64) : Nat := Nat.pow 2 (-x.exponent).toNat

/-- The binary exponent at which a positive quotient has 53 bits, not below the least one. -/
def exponentFor (num den : Nat) : Int :=
  let guess : Int := (num.log2 : Int) - den.log2 - 52
  -- the quotient of the leading powers is off by less than a factor of two
  let fits := num * Nat.pow 2 (-guess).toNat < den * Nat.pow 2 guess.toNat * Nat.pow 2 52
  max minExponent (if fits then guess - 1 else guess)

/-- The number nearest to a quotient; nothing if that lies beyond the finite ones. -/
def ofQuotient (negative : Bool) (num den : Nat) : Option Binary64 :=
  if num = 0 then some (zero negative)
  else
    let e := exponentFor num den
    let m := roundDiv (num * Nat.pow 2 (-e).toNat) (den * Nat.pow 2 e.toNat)
    let (m, e) := if m = Nat.pow 2 53 then (Nat.pow 2 52, e + 1) else (m, e)
    if maxExponent < e then none
    else if m = 0 then some (zero negative)
    else some ⟨negative, m, e⟩

/-- The number nearest to a natural number below `2 ^ 1024`. -/
def ofNat (n : Nat) : Binary64 := (ofQuotient false n 1).getD (zero false)

/-- The number nearest to `10 ^ k`; zero beyond the finite ones. It is irreducible, as unification
would work out the great powers. -/
@[irreducible] def powerOfTen (k : Nat) : Binary64 := ofNat (Nat.pow 10 k)

def neg (x : Binary64) : Binary64 := { x with negative := !x.negative }

/-- The product, rounded; nothing on overflow. -/
def mul? (x y : Binary64) : Option Binary64 :=
  ofQuotient (x.negative != y.negative) (x.num * y.num) (x.den * y.den)

/-- The quotient by a number other than zero, rounded; nothing on overflow. -/
def div? (x y : Binary64) : Option Binary64 :=
  ofQuotient (x.negative != y.negative) (x.num * y.den) (x.den * y.num)

/-- Neither zero nor one of the numbers with a short mantissa. -/
def isNormal (x : Binary64) : Bool := Nat.pow 2 52 ≤ x.mantissa

/-- Equality of values: the two zeros are equal. -/
def sameValue (x y : Binary64) : Bool :=
  (x.mantissa == 0 && y.mantissa == 0) || x == y

/-- The value as numerator (with sign) and denominator. -/
def toQuotient (x : Binary64) : Int × Nat :=
  (if x.negative then -(x.num : Int) else x.num, x.den)

end Binary64

/-- The order of two quotients with positive denominators. -/
def compareQuotients (a b : Int × Nat) : Ordering :=
  compare (a.1 * b.2) (b.1 * a.2)

end MailTemplates.Number
