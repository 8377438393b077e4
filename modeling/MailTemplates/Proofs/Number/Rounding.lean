import Mathlib.Algebra.Order.Field.Power
import Mathlib.Algebra.Order.Ring.Abs
import Mathlib.Data.Rat.Cast.Order
import Mathlib.Tactic.FieldSimp
import Mathlib.Tactic.GCongr
import Mathlib.Tactic.Linarith
import Mathlib.Tactic.NormNum
import Mathlib.Tactic.Positivity
import Mathlib.Tactic.Ring
import MailTemplates.Number.Binary64
/-!
# Rounding to binary numbers

A positive quotient is rounded on the grid of its own exponent: the one at which it has 53 bits
(`Binary64.exponentFor_spec`). So it moves by at most one part in `2 ^ 53`
(`Binary64.abs_rounded_sub_le`). On one grid a greater quotient is not rounded to less; and where
the grid changes there is a power of two between the two results, so rounding is monotone
altogether (`Binary64.rounded_mono`).

All of this is about the quotient of two natural numbers, and the code works with natural numbers
throughout. The statements are about rationals, and each step has one lemma that leads from the one
to the other: `lt_scaled_iff` for comparisons, `scaled_div` for what is rounded,
`abs_roundDiv_sub_le` for the rounding itself.

The carry is the case that needs care. A mantissa that is rounded up to `2 ^ 53` belongs to the next
grid, where it is written as half of that with an exponent one higher (`carry_eq`); the value is the
same, and so statements on values do not see it.

Main statements: `Binary64.abs_rounded_sub_le`, `Binary64.rounded_mono` and
`Binary64.exists_ofQuotient` (a quotient that is not too great is rounded to a number).
-/

namespace MailTemplates.Number

/-!
## Quotients of natural numbers

Division that rounds to the nearest whole number, and a half to the even one. It is monotone, and
off by one half at most.
-/

/-- A common factor does not change what a quotient is rounded to. -/
theorem roundDiv_mul_right (num den : Nat) {k : Nat} (hk : 0 < k) :
    roundDiv (num * k) (den * k) = roundDiv num den := by
  have hlt : ∀ a b : Nat, 2 * (a * k) < b * k ↔ 2 * a < b := by
    intro a b
    rw [← Nat.mul_assoc, Nat.mul_lt_mul_right hk]
  have hgt : ∀ a b : Nat, b * k < 2 * (a * k) ↔ b < 2 * a := by
    intro a b
    rw [← Nat.mul_assoc, Nat.mul_lt_mul_right hk]
  unfold roundDiv
  dsimp only
  rw [Nat.mul_div_mul_right num den hk, Nat.mul_mod_mul_right]
  simp only [hlt, hgt]

/-- Rounding never goes below the whole part. -/
theorem div_le_roundDiv (num den : Nat) : num / den ≤ roundDiv num den := by
  unfold roundDiv
  dsimp only
  split_ifs <;> omega

/-- And never above the next whole number. -/
theorem roundDiv_le_div_add_one (num den : Nat) : roundDiv num den ≤ num / den + 1 := by
  unfold roundDiv
  dsimp only
  split_ifs <;> omega

/-- A greater dividend is not rounded to less. -/
theorem roundDiv_mono_left {num more : Nat} (h : num ≤ more) (den : Nat) :
    roundDiv num den ≤ roundDiv more den := by
  have hquotient : num / den ≤ more / den := Nat.div_le_div_right h
  rcases Nat.lt_or_eq_of_le hquotient with hlt | heq
  · calc roundDiv num den ≤ num / den + 1 := roundDiv_le_div_add_one num den
      _ ≤ more / den := hlt
      _ ≤ roundDiv more den := div_le_roundDiv more den
  · -- What is left over decides, and a tie goes the same way for both.
    have hnum := Nat.div_add_mod num den
    have hmore := Nat.div_add_mod more den
    rw [← heq] at hmore
    have hrest : num % den ≤ more % den := by omega
    unfold roundDiv
    dsimp only
    rw [← heq]
    split_ifs <;> omega

/-- A greater quotient is not rounded to less. -/
theorem roundDiv_mono {a b c d : Nat} (hb : 0 < b) (hd : 0 < d) (h : a * d ≤ c * b) :
    roundDiv a b ≤ roundDiv c d := by
  rw [← roundDiv_mul_right a b hd, ← roundDiv_mul_right c d hb, Nat.mul_comm d b]
  exact roundDiv_mono_left h (b * d)

/-- Rounding moves a quotient by at most one half. -/
theorem abs_roundDiv_sub_le (num : Nat) {den : Nat} (hden : 0 < den) :
    |(roundDiv num den : ℚ) - num / den| ≤ 1 / 2 := by
  have hpos : (0 : ℚ) < den := by exact_mod_cast hden
  have hle : (2 : ℚ) * (roundDiv num den * den) ≤ 2 * num + den := by
    exact_mod_cast roundDiv_mul_le num den
  have hge : (2 : ℚ) * num ≤ 2 * (roundDiv num den * den) + den := by
    exact_mod_cast lt_roundDiv_mul num hden
  have hquotient : (num : ℚ) / den * den = num := div_mul_cancel₀ _ hpos.ne'
  rw [abs_le]
  constructor
  · by_contra hlow
    have := mul_lt_mul_of_pos_right (not_le.1 hlow) hpos
    linarith
  · by_contra hhigh
    have := mul_lt_mul_of_pos_right (not_le.1 hhigh) hpos
    linarith

namespace Binary64

variable {a b c d : Nat} {negative : Bool} {x y : Binary64}

/-!
## Values

A binary number is a mantissa times a power of two, and this value is what the statements are about.
-/

/-- A power with an integer exponent as a quotient of natural numbers. -/
theorem zpow_eq_div (base : Nat) (e : Int) :
    (base : ℚ) ^ e = (Nat.pow base e.toNat : Nat) / (Nat.pow base (-e).toNat : Nat) := by
  rcases Int.le_total 0 e with he | he
  · obtain ⟨n, rfl⟩ := Int.eq_ofNat_of_zero_le he
    simp
  · obtain ⟨n, hn⟩ := Int.eq_ofNat_of_zero_le (Int.neg_nonneg_of_nonpos he)
    obtain rfl : e = -n := by omega
    simp

theorem zpow_two_eq (e : Int) :
    (2 : ℚ) ^ e = (Nat.pow 2 e.toNat : Nat) / (Nat.pow 2 (-e).toNat : Nat) :=
  zpow_eq_div 2 e

theorem zpow_ten_eq (e : Int) :
    (10 : ℚ) ^ e = (Nat.pow 10 e.toNat : Nat) / (Nat.pow 10 (-e).toNat : Nat) :=
  zpow_eq_div 10 e

/-- The powers by which a grid is cleared of fractions are positive. -/
theorem cast_two_pow_pos (n : Nat) : (0 : ℚ) < (Nat.pow 2 n : Nat) := by
  exact_mod_cast Nat.pow_pos (n := n) Nat.two_pos

theorem cast_ten_pow_pos (n : Nat) : (0 : ℚ) < (Nat.pow 10 n : Nat) := by
  exact_mod_cast Nat.pow_pos (n := n) (Nat.succ_pos 9)

/-- The magnitude of a binary number, as a rational one. -/
def magnitude (x : Binary64) : ℚ := x.mantissa * 2 ^ x.exponent

theorem magnitude_nonneg (x : Binary64) : 0 ≤ x.magnitude := by
  unfold magnitude
  positivity

theorem den_pos (x : Binary64) : 0 < x.den := Nat.pow_pos Nat.two_pos

/-- A magnitude is its numerator by its denominator. -/
theorem magnitude_eq_div (x : Binary64) : x.magnitude = x.num / x.den := by
  unfold magnitude num den
  rw [zpow_two_eq, Nat.cast_mul, mul_div_assoc]

/-!
## The grid of a quotient

The exponent is found from the logarithms of numerator and denominator, which give it up to one; a
comparison then settles it.
-/

/-- Whether a quotient is below a multiple of a power of two, in natural numbers. -/
theorem lt_scaled_iff (hb : 0 < b) (e : Int) (n : Nat) :
    a * Nat.pow 2 (-e).toNat < b * Nat.pow 2 e.toNat * n ↔ (a : ℚ) / b < 2 ^ e * n := by
  have hpos : (0 : ℚ) < b := by exact_mod_cast hb
  have hcomm : (Nat.pow 2 e.toNat : ℚ) * n * b = b * Nat.pow 2 e.toNat * n := by ring
  rw [zpow_two_eq, div_mul_eq_mul_div, div_lt_div_iff₀ hpos (cast_two_pow_pos _), hcomm]
  norm_cast

/-- The leading powers of two numbers bound their quotient up to a factor of four. -/
theorem div_lt_two_zpow (hb : 0 < b) : (a : ℚ) / b < 2 ^ ((a.log2 : Int) - b.log2 + 1) := by
  have hpos : (0 : ℚ) < b := by exact_mod_cast hb
  have hnum : (a : ℚ) < 2 ^ (a.log2 + 1) := by exact_mod_cast Nat.lt_log2_self
  have hden : (2 : ℚ) ^ b.log2 ≤ b := by exact_mod_cast Nat.log2_self_le hb.ne'
  calc (a : ℚ) / b ≤ a / 2 ^ b.log2 := by gcongr
    _ < 2 ^ (a.log2 + 1) / 2 ^ b.log2 := by gcongr
    _ = 2 ^ ((a.log2 : Int) - b.log2 + 1) := by
      rw [← zpow_natCast, ← zpow_natCast, ← zpow_sub₀ two_ne_zero]
      congr 1
      push_cast
      ring

/-- And a quotient is at least the power of two below that of the logarithms. -/
theorem two_zpow_le_div (ha : a ≠ 0) (hb : 0 < b) :
    (2 : ℚ) ^ ((a.log2 : Int) - b.log2 - 1) ≤ a / b := by
  have hpos : (0 : ℚ) < b := by exact_mod_cast hb
  have hnum : (2 : ℚ) ^ a.log2 ≤ a := by exact_mod_cast Nat.log2_self_le ha
  have hden : (b : ℚ) < 2 ^ (b.log2 + 1) := by exact_mod_cast Nat.lt_log2_self
  calc (2 : ℚ) ^ ((a.log2 : Int) - b.log2 - 1) = 2 ^ a.log2 / 2 ^ (b.log2 + 1) := by
        rw [← zpow_natCast, ← zpow_natCast, ← zpow_sub₀ two_ne_zero]
        congr 1
        push_cast
        ring
    _ ≤ a / 2 ^ (b.log2 + 1) := by gcongr
    _ ≤ a / b := by gcongr

/-- The quotient has at most 53 bits on its grid, and it has so many unless the grid is the least
one. -/
theorem exponentFor_spec (ha : a ≠ 0) (hb : 0 < b) :
    (a : ℚ) / b < 2 ^ (exponentFor a b + 53) ∧ minExponent ≤ exponentFor a b ∧
      (exponentFor a b = minExponent ∨ 2 ^ (exponentFor a b + 52) ≤ (a : ℚ) / b) := by
  have hupper : (a : ℚ) / b < 2 ^ ((a.log2 : Int) - b.log2 - 52 + 53) := by
    have heq : (a.log2 : Int) - b.log2 - 52 + 53 = a.log2 - b.log2 + 1 := by ring
    exact heq ▸ div_lt_two_zpow hb
  have hlower : (2 : ℚ) ^ ((a.log2 : Int) - b.log2 - 52 - 1 + 52) ≤ a / b := by
    have heq : (a.log2 : Int) - b.log2 - 52 - 1 + 52 = a.log2 - b.log2 - 1 := by ring
    exact heq ▸ two_zpow_le_div ha hb
  have hfits := lt_scaled_iff (a := a) hb ((a.log2 : Int) - b.log2 - 52) (Nat.pow 2 52)
  unfold exponentFor
  dsimp only
  generalize (a.log2 : Int) - b.log2 - 52 = guess at hupper hlower hfits ⊢
  have hmiddle : (2 : ℚ) ^ guess * (Nat.pow 2 52 : Nat) = 2 ^ (guess + 52) := by
    rw [zpow_add₀ two_ne_zero]
    norm_num
  rw [hmiddle] at hfits
  -- The exponent that was found; below the least one the quotient has fewer bits.
  have hfound : ∀ e : Int, (a : ℚ) / b < 2 ^ (e + 53) → 2 ^ (e + 52) ≤ (a : ℚ) / b →
      (a : ℚ) / b < 2 ^ (max minExponent e + 53) ∧ minExponent ≤ max minExponent e ∧
        (max minExponent e = minExponent ∨ 2 ^ (max minExponent e + 52) ≤ (a : ℚ) / b) := by
    intro e hlt hle
    refine ⟨lt_of_lt_of_le hlt (zpow_le_zpow_right₀ one_le_two (by omega)), le_max_left _ _, ?_⟩
    rcases le_total e minExponent with hmin | hmin
    · exact .inl (max_eq_left hmin)
    · rw [max_eq_right hmin]
      exact .inr hle
  split_ifs with hlt
  · have heq : guess - 1 + 53 = guess + 52 := by ring
    exact hfound (guess - 1) (heq ▸ hfits.1 hlt) hlower
  · exact hfound guess hupper (not_lt.1 (mt hfits.2 hlt))

/-!
## Rounding

The result of rounding is studied as a rational number first, as if there were no greatest exponent.
-/

/-- The mantissa of a quotient on its grid; `2 ^ 53` if it is rounded up to the next grid. -/
def significand (a b : Nat) : Nat :=
  roundDiv (a * Nat.pow 2 (-exponentFor a b).toNat) (b * Nat.pow 2 (exponentFor a b).toNat)

/-- What a quotient is rounded to, if exponents had no end. -/
def rounded (a b : Nat) : ℚ := if a = 0 then 0 else significand a b * 2 ^ exponentFor a b

/-- The unit of a grid is positive. -/
theorem grid_pos (hb : 0 < b) (e : Int) : 0 < b * Nat.pow 2 e.toNat :=
  Nat.mul_pos hb (Nat.pow_pos Nat.two_pos)

/-- What is rounded is the quotient in units of its grid. -/
theorem scaled_div (hb : 0 < b) (e : Int) :
    ((a * Nat.pow 2 (-e).toNat : Nat) : ℚ) / (b * Nat.pow 2 e.toNat : Nat) = a / b / 2 ^ e := by
  have hpos : (b : ℚ) ≠ 0 := by exact_mod_cast hb.ne'
  have hup : ((Nat.pow 2 e.toNat : Nat) : ℚ) ≠ 0 := (cast_two_pow_pos _).ne'
  have hdown : ((Nat.pow 2 (-e).toNat : Nat) : ℚ) ≠ 0 := (cast_two_pow_pos _).ne'
  rw [zpow_two_eq, Nat.cast_mul, Nat.cast_mul]
  field_simp

/-- The mantissa is within one half of that. -/
theorem abs_significand_sub_le (hb : 0 < b) :
    |(significand a b : ℚ) - a / b / 2 ^ exponentFor a b| ≤ 1 / 2 := by
  rw [← scaled_div hb]
  exact abs_roundDiv_sub_le _ (grid_pos hb _)

/-- Rounding moves a quotient by at most one part in `2 ^ 53`, unless it is so small that it has
fewer bits. -/
theorem abs_rounded_sub_le (hb : 0 < b) (hnormal : 2 ^ (minExponent + 52) ≤ (a : ℚ) / b) :
    |rounded a b - a / b| ≤ a / b / 2 ^ 53 := by
  have ha : a ≠ 0 := by
    rintro rfl
    rw [Nat.cast_zero, zero_div] at hnormal
    exact absurd hnormal (not_le.2 (by positivity))
  obtain ⟨-, -, hexponent⟩ := exponentFor_spec ha hb
  -- The quotient has all its bits, also on the least grid.
  have hleast : (2 : ℚ) ^ (exponentFor a b + 52) ≤ a / b := by
    rcases hexponent with hmin | hle
    · rwa [hmin]
    · exact hle
  have hpow : (0 : ℚ) < 2 ^ exponentFor a b := by positivity
  have hsplit : (a : ℚ) / b = a / b / 2 ^ exponentFor a b * 2 ^ exponentFor a b :=
    (div_mul_cancel₀ _ hpow.ne').symm
  rw [rounded, if_neg ha]
  calc |(significand a b : ℚ) * 2 ^ exponentFor a b - a / b|
      = |(significand a b : ℚ) - a / b / 2 ^ exponentFor a b| * 2 ^ exponentFor a b := by
        conv_lhs => rw [hsplit]
        rw [← sub_mul, abs_mul, abs_of_pos hpow]
    _ ≤ 1 / 2 * 2 ^ exponentFor a b := by
        gcongr
        exact abs_significand_sub_le hb
    _ = 2 ^ (exponentFor a b + 52) / 2 ^ 53 := by
        rw [zpow_add₀ two_ne_zero]
        norm_num
        ring
    _ ≤ a / b / 2 ^ 53 := by gcongr

/-- A mantissa has at most 53 bits, or is the carry. -/
theorem significand_le (ha : a ≠ 0) (hb : 0 < b) : significand a b ≤ 2 ^ 53 := by
  obtain ⟨hlt, -, -⟩ := exponentFor_spec ha hb
  have hpow : (0 : ℚ) < 2 ^ exponentFor a b := by positivity
  have hquotient : (a : ℚ) / b / 2 ^ exponentFor a b < 2 ^ 53 := by
    rw [div_lt_iff₀ hpow]
    calc (a : ℚ) / b < 2 ^ (exponentFor a b + 53) := hlt
      _ = 2 ^ 53 * 2 ^ exponentFor a b := by
        rw [zpow_add₀ two_ne_zero, mul_comm]
        norm_cast
  have hclose := (abs_le.1 (abs_significand_sub_le (a := a) hb)).2
  have hless : (significand a b : ℚ) < 2 ^ 53 + 1 := by linarith
  exact_mod_cast Nat.lt_succ_iff.1 (by exact_mod_cast hless)

/-- It has 53 bits unless the grid is the least one. -/
theorem le_significand (ha : a ≠ 0) (hb : 0 < b) (h : exponentFor a b ≠ minExponent) :
    2 ^ 52 ≤ significand a b := by
  obtain ⟨-, -, hexponent⟩ := exponentFor_spec ha hb
  have hle := hexponent.resolve_left h
  have hpow : (0 : ℚ) < 2 ^ exponentFor a b := by positivity
  have hquotient : (2 : ℚ) ^ 52 ≤ a / b / 2 ^ exponentFor a b := by
    rw [le_div_iff₀ hpow]
    calc (2 : ℚ) ^ 52 * 2 ^ exponentFor a b = 2 ^ (exponentFor a b + 52) := by
          rw [zpow_add₀ two_ne_zero, mul_comm]
          norm_cast
      _ ≤ a / b := hle
  have hclose := (abs_le.1 (abs_significand_sub_le (a := a) hb)).1
  have hmore : (2 : ℚ) ^ 52 < significand a b + 1 := by linarith
  exact_mod_cast Nat.lt_succ_iff.1 (by exact_mod_cast hmore)

/-- A greater quotient has no lower grid. -/
theorem exponentFor_mono (ha : a ≠ 0) (hb : 0 < b) (hc : c ≠ 0) (hd : 0 < d)
    (h : (a : ℚ) / b ≤ c / d) : exponentFor a b ≤ exponentFor c d := by
  obtain ⟨-, -, hexponent⟩ := exponentFor_spec ha hb
  obtain ⟨hlt, hmin, -⟩ := exponentFor_spec hc hd
  rcases hexponent with heq | hle
  · rwa [heq]
  · have hpow : (2 : ℚ) ^ (exponentFor a b + 52) < 2 ^ (exponentFor c d + 53) :=
      (hle.trans h).trans_lt hlt
    have := (zpow_lt_zpow_iff_right₀ one_lt_two).1 hpow
    omega

/-- On one grid a greater quotient has no lesser mantissa. -/
theorem significand_mono (hb : 0 < b) (hd : 0 < d) (h : (a : ℚ) / b ≤ c / d)
    (hexponent : exponentFor a b = exponentFor c d) : significand a b ≤ significand c d := by
  have hcross : ((a * Nat.pow 2 (-exponentFor a b).toNat : Nat) : ℚ) /
      (b * Nat.pow 2 (exponentFor a b).toNat : Nat) ≤
        (c * Nat.pow 2 (-exponentFor c d).toNat : Nat) /
          (d * Nat.pow 2 (exponentFor c d).toNat : Nat) := by
    rw [scaled_div hb, scaled_div hd, hexponent]
    gcongr
  have hpos : (0 : ℚ) < (b * Nat.pow 2 (exponentFor a b).toNat : Nat) := by
    exact_mod_cast grid_pos hb _
  have hpos' : (0 : ℚ) < (d * Nat.pow 2 (exponentFor c d).toNat : Nat) := by
    exact_mod_cast grid_pos hd _
  rw [div_le_div_iff₀ hpos hpos'] at hcross
  exact roundDiv_mono (grid_pos hb _) (grid_pos hd _) (by exact_mod_cast hcross)

/-- Rounding is monotone. -/
theorem rounded_mono (hb : 0 < b) (hd : 0 < d) (h : (a : ℚ) / b ≤ c / d) :
    rounded a b ≤ rounded c d := by
  have hnonneg : 0 ≤ rounded c d := by
    unfold rounded
    split_ifs <;> positivity
  by_cases ha : a = 0
  · rwa [rounded, if_pos ha]
  have hc : c ≠ 0 := by
    rintro rfl
    have hpos : (0 : ℚ) < a / b := by positivity
    rw [Nat.cast_zero, zero_div] at h
    exact absurd h (not_le.2 hpos)
  rw [rounded, rounded, if_neg ha, if_neg hc]
  rcases (exponentFor_mono ha hb hc hd h).lt_or_eq with hlt | heq
  · -- There is a power of two between the results.
    have hhigh : exponentFor c d ≠ minExponent := by
      obtain ⟨-, hmin, -⟩ := exponentFor_spec ha hb
      omega
    have hupper : (significand a b : ℚ) ≤ 2 ^ 53 := by exact_mod_cast significand_le ha hb
    have hlower : (2 : ℚ) ^ 52 ≤ significand c d := by exact_mod_cast le_significand hc hd hhigh
    calc (significand a b : ℚ) * 2 ^ exponentFor a b
        ≤ 2 ^ 53 * 2 ^ exponentFor a b := by gcongr
      _ = 2 ^ 52 * 2 ^ (exponentFor a b + 1) := by
        rw [zpow_add₀ two_ne_zero]
        ring
      _ ≤ 2 ^ 52 * 2 ^ exponentFor c d := by
        gcongr
        · exact one_le_two
        · omega
      _ ≤ significand c d * 2 ^ exponentFor c d := by gcongr
  · -- On one grid the mantissas compare.
    have hle := significand_mono hb hd h heq
    rw [heq]
    gcongr

/-!
## The numbers that quotients are rounded to

Then it is compared with the number that the code makes of it, with the carry as a case of its own,
and the greatest exponent as the limit.
-/

/-- The exponent of what a quotient is rounded to, which may be one more than that of its grid. -/
def topExponent (a b : Nat) : Int :=
  if significand a b = Nat.pow 2 53 then exponentFor a b + 1 else exponentFor a b

/-- The carry of a mantissa that was rounded up to the next grid. The two bounds are names here:
they are too large for a comparison in unary. -/
theorem carry_eq {full half : Nat} (hfull : full ≠ 0) (hhalf : half ≠ 0) (m : Nat) (e : Int) :
    (match if m = full then (half, e + 1) else (m, e) with
      | (m, e) =>
        if maxExponent < e then none
        else if m = 0 then some (zero negative)
        else some (⟨negative, m, e⟩ : Binary64)) =
      if maxExponent < if m = full then e + 1 else e then none
      else if m = 0 then some (zero negative)
      else if m = full then some ⟨negative, half, e + 1⟩
      else some ⟨negative, m, e⟩ := by
  by_cases hcarry : m = full
  · have hm : m ≠ 0 := hcarry ▸ hfull
    rw [if_pos hcarry, if_pos hcarry, if_neg hm, if_pos hcarry]
    dsimp only
    rw [if_neg hhalf]
  · rw [if_neg hcarry, if_neg hcarry, if_neg hcarry]

/-- The number nearest to a quotient, by its mantissa and its exponent, with the carry as a case of
its own. -/
theorem ofQuotient_eq (ha : a ≠ 0) :
    ofQuotient negative a b =
      if maxExponent < topExponent a b then none
      else if significand a b = 0 then some (zero negative)
      else if significand a b = Nat.pow 2 53 then
        some ⟨negative, Nat.pow 2 52, exponentFor a b + 1⟩
      else some ⟨negative, significand a b, exponentFor a b⟩ := by
  unfold ofQuotient topExponent
  rw [if_neg ha]
  exact carry_eq (by decide) (by decide) _ _

/-- Its magnitude is what the quotient is rounded to. -/
theorem magnitude_of_ofQuotient (h : ofQuotient negative a b = some x) :
    x.magnitude = rounded a b := by
  by_cases ha : a = 0
  · subst ha
    cases h
    simp [magnitude, rounded, zero]
  rw [ofQuotient_eq ha] at h
  rw [rounded, if_neg ha]
  split_ifs at h with hoverflow hzero hcarry
  · cases h
    simp [magnitude, zero, hzero]
  · cases h
    rw [hcarry]
    unfold magnitude
    dsimp only
    rw [zpow_add₀ two_ne_zero]
    norm_num
    ring
  · cases h
    rfl

/-- A quotient below `2 ^ 1023` can be rounded. -/
theorem exists_ofQuotient (negative : Bool) (hb : 0 < b)
    (h : (a : ℚ) / b < 2 ^ (maxExponent + 52)) :
    ∃ x, ofQuotient negative a b = some x ∧ x.magnitude = rounded a b := by
  obtain ⟨x, hx⟩ : ∃ x, ofQuotient negative a b = some x := by
    by_cases ha : a = 0
    · exact ⟨zero negative, by rw [ofQuotient, if_pos ha]⟩
    have hbelow : exponentFor a b < maxExponent := by
      obtain ⟨-, -, hexponent⟩ := exponentFor_spec ha hb
      rcases hexponent with hmin | hle
      · rw [hmin]
        decide
      · have := (zpow_lt_zpow_iff_right₀ one_lt_two).1 (hle.trans_lt h)
        omega
    have htop : ¬ maxExponent < topExponent a b := by
      unfold topExponent
      split_ifs <;> omega
    rw [ofQuotient_eq ha, if_neg htop]
    split_ifs
    all_goals exact ⟨_, rfl⟩
  exact ⟨x, hx, magnitude_of_ofQuotient hx⟩

/-- A natural number below `2 ^ 1023` is rounded to its binary number. -/
theorem magnitude_ofNat {n : Nat} (h : (n : ℚ) < 2 ^ (maxExponent + 52)) :
    (ofNat n).magnitude = rounded n 1 := by
  obtain ⟨x, hx, hmagnitude⟩ := exists_ofQuotient false Nat.one_pos (by simpa using h)
  rw [ofNat, hx]
  exact hmagnitude

/-! ## Division -/

/-- The quotient of two numbers is that of their magnitudes. -/
theorem num_div_num (x y : Binary64) :
    ((x.num * y.den : Nat) : ℚ) / (x.den * y.num : Nat) = x.magnitude / y.magnitude := by
  rw [magnitude_eq_div, magnitude_eq_div, div_div_div_eq, Nat.cast_mul, Nat.cast_mul]

/-- A quotient of numbers that is not too great can be rounded. -/
theorem exists_div? (hy : 0 < y.num) (h : x.magnitude / y.magnitude < 2 ^ (maxExponent + 52)) :
    ∃ z, x.div? y = some z ∧ z.magnitude = rounded (x.num * y.den) (x.den * y.num) :=
  exists_ofQuotient _ (Nat.mul_pos x.den_pos hy) (by rwa [num_div_num])

/-!
## The form of a number

Two numbers in this form are equal if their values are, so it is what makes the shortest decimal of
a number unambiguous.
-/

/-- Whether a number has the form in which each magnitude is written once: the mantissa is full,
unless the exponent is the least one. -/
structure Proper (x : Binary64) : Prop where
  mantissa_lt : x.mantissa < 2 ^ 53
  min_le : minExponent ≤ x.exponent
  le_max : x.exponent ≤ maxExponent
  full : x.exponent = minExponent ∨ 2 ^ 52 ≤ x.mantissa

theorem proper_zero (negative : Bool) : (zero negative).Proper where
  mantissa_lt := Nat.pow_pos Nat.two_pos
  min_le := le_rfl
  le_max := show minExponent ≤ maxExponent by decide
  full := .inl rfl

theorem Proper.neg (hx : x.Proper) : x.neg.Proper :=
  ⟨hx.mantissa_lt, hx.min_le, hx.le_max, hx.full⟩

/-- What a quotient is rounded to has that form. -/
theorem proper_of_ofQuotient (hb : 0 < b) (h : ofQuotient negative a b = some x) : x.Proper := by
  by_cases ha : a = 0
  · subst ha
    cases h
    exact proper_zero negative
  obtain ⟨-, hmin, -⟩ := exponentFor_spec ha hb
  rw [ofQuotient_eq ha] at h
  unfold topExponent at h
  split_ifs at h with hcarry htop hzero htop hzero
  · cases h
    exact proper_zero negative
  · cases h
    have hfull : Nat.pow 2 52 < 2 ^ 53 := by decide
    exact ⟨hfull, Int.le_add_one hmin, not_lt.1 htop, .inr le_rfl⟩
  · cases h
    exact proper_zero negative
  · cases h
    exact ⟨lt_of_le_of_ne (significand_le ha hb) hcarry, hmin, not_lt.1 htop,
      or_iff_not_imp_left.2 (le_significand ha hb)⟩

/-- So has the number nearest to a natural one. -/
theorem proper_ofNat (n : Nat) : (ofNat n).Proper := by
  unfold ofNat
  cases h : ofQuotient false n 1 with
  | none => exact proper_zero false
  | some x => exact proper_of_ofQuotient Nat.one_pos h

theorem proper_of_mul? {z : Binary64} (h : x.mul? y = some z) : z.Proper :=
  proper_of_ofQuotient (Nat.mul_pos x.den_pos y.den_pos) h

theorem proper_of_div? {z : Binary64} (hy : 0 < y.num) (h : x.div? y = some z) : z.Proper :=
  proper_of_ofQuotient (Nat.mul_pos x.den_pos hy) h

end Binary64

end MailTemplates.Number
