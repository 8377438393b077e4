import Mathlib.Tactic.NormNum
import Mathlib.Tactic.Linarith
import MailTemplates.Proofs.Number.Notation
import MailTemplates.Proofs.Number.Rounding
/-!
# The shortest decimal reads back

A rational is read as the binary number that is nearest to it, and of two that are equally near as
the one with the even mantissa (`IsNearest`). Between a number and the next one there is at least
one unit of its exponent, and below it at least half of one (`above`, `below`). So the reals that
are read as a number are those around it up to the middle of these gaps, the two ends included if
the mantissa is even (`Within`).

The decimal that is written for a number lies there, as it is looked for in just this interval
(`candidate_within`). And the search finds one: with seventeen digits the steps of the decimal grid
are smaller than the interval, as `10 ^ 16` is more than `2 ^ 53` (`exists_candidate`).

That what lies within the interval is read as the number (`Within.isNearest`) compares with an
arbitrary other number, by which of the two is greater; there are no neighbours to be computed. The
gap below is half a unit where the mantissa is the least one with 53 bits, as the numbers below are
on a finer grid. This is the only asymmetry, and it is taken along in `gap`.

The test of the search is in natural numbers over a common denominator. `inside_iff` is the one
place where this denominator is dealt with: from there on the test is about rationals.

Main statement: `Proper.shortest_isNearest`.
-/

namespace MailTemplates.Number

namespace Binary64

variable {x y : Binary64} {q : ℚ}

/-- Whether a rational is read as a number: it is not too great to be read at all, no magnitude is
nearer to it than that of the number, and if another is as near the mantissa is even. -/
structure IsNearest (x : Binary64) (q : ℚ) : Prop where
  proper : x.Proper
  inRange : q < (2 ^ 53 - 1 / 2) * 2 ^ maxExponent
  le (y : Binary64) : y.Proper → |q - x.magnitude| ≤ |q - y.magnitude|
  even (y : Binary64) : y.Proper → |q - x.magnitude| = |q - y.magnitude| →
    x.magnitude = y.magnitude ∨ x.mantissa % 2 = 0

/-!
## Neighbours

Between two numbers that can be represented there is at least one unit of the finer of their grids.
What lies around a number is told from this without naming the next one.
-/

/-- The unit of a number: what its magnitude is a multiple of. -/
def unit (x : Binary64) : ℚ := 2 ^ x.exponent

theorem unit_pos (x : Binary64) : 0 < x.unit := zpow_pos two_pos _

/-- The units of two numbers differ by the power of two that their exponents differ by. -/
theorem unit_eq {k : Nat} (h : y.exponent = k + x.exponent) : y.unit = 2 ^ k * x.unit := by
  rw [unit, unit, h, zpow_add₀ two_ne_zero, zpow_natCast]

/-- Of two exponents, the greater one has the greater unit, by a power of two. -/
theorem exists_unit_eq (h : x.exponent ≤ y.exponent) : ∃ k : Nat, y.unit = 2 ^ k * x.unit := by
  obtain ⟨k, hk⟩ := Int.eq_ofNat_of_zero_le (Int.sub_nonneg_of_le h)
  exact ⟨k, unit_eq (by omega)⟩

/-- If they are not the same then that is at least two. -/
theorem exists_unit_eq_of_lt (h : x.exponent < y.exponent) :
    ∃ k : Nat, y.unit = 2 ^ (k + 1) * x.unit := by
  obtain ⟨k, hk⟩ := Int.eq_ofNat_of_zero_le (Int.sub_nonneg_of_le (Int.add_one_le_of_lt h))
  exact ⟨k, unit_eq (by omega)⟩

/-- The greatest number with a unit is one unit below `2 ^ 53` of them. -/
theorem Proper.magnitude_lt (hx : x.Proper) : x.magnitude ≤ (2 ^ 53 - 1) * x.unit := by
  have hmantissa : (x.mantissa : ℚ) ≤ 2 ^ 53 - 1 := by
    have := hx.mantissa_lt
    have : (x.mantissa : ℚ) + 1 ≤ 2 ^ 53 := by exact_mod_cast this
    linarith
  exact mul_le_mul_of_nonneg_right hmantissa x.unit_pos.le

/-- A number with a lower unit than another one is below the least with a full mantissa. -/
theorem Proper.magnitude_lt_full (hx : x.Proper) {k : Nat} (hunit : y.unit = 2 ^ (k + 1) * x.unit) :
    x.magnitude ≤ 2 ^ 52 * y.unit - y.unit / 2 := by
  have hpow : (1 : ℚ) ≤ 2 ^ k := one_le_pow₀ one_le_two
  have hfine : x.unit ≤ 2 ^ k * x.unit := le_mul_of_one_le_left x.unit_pos.le hpow
  have hhalf : y.unit / 2 = 2 ^ k * x.unit := by
    rw [hunit, pow_succ]
    ring
  calc x.magnitude ≤ (2 ^ 53 - 1) * x.unit := hx.magnitude_lt
    _ ≤ (2 ^ 53 - 1) * (y.unit / 2) := by
      rw [hhalf]
      exact mul_le_mul_of_nonneg_left hfine (by norm_num)
    _ = 2 ^ 52 * y.unit - y.unit / 2 := by ring

/-- A number with a greater unit than some other has a full mantissa. -/
theorem Proper.full_le (hx : x.Proper) (hy : y.Proper) (h : y.exponent < x.exponent) :
    2 ^ 52 * x.unit ≤ x.magnitude := by
  have hmin := hy.min_le
  have hfull : (2 : ℚ) ^ 52 ≤ x.mantissa := by
    exact_mod_cast hx.full.resolve_left (by omega)
  exact mul_le_mul_of_nonneg_right hfull x.unit_pos.le

/-- Numbers on a common grid that differ do so by a step of the grid. -/
theorem add_unit_le {m n : Nat} {u : ℚ} (hu : 0 < u) (h : (m : ℚ) * u < n * u) :
    m * u + u ≤ n * u := by
  have hlt : m < n := by exact_mod_cast lt_of_mul_lt_mul_right h hu.le
  have hle : (m : ℚ) + 1 ≤ n := by exact_mod_cast hlt
  have := mul_le_mul_of_nonneg_right hle hu.le
  linarith

/-- The next number is one unit above, or farther. -/
theorem above (hx : x.Proper) (hy : y.Proper) (h : x.magnitude < y.magnitude) :
    x.magnitude + x.unit ≤ y.magnitude := by
  rcases le_or_gt x.exponent y.exponent with hle | hlt
  · obtain ⟨k, hk⟩ := exists_unit_eq hle
    have hgrid : y.magnitude = (y.mantissa * 2 ^ k : Nat) * x.unit := by
      rw [magnitude, ← unit, hk]
      push_cast
      ring
    rw [hgrid] at h ⊢
    exact add_unit_le x.unit_pos h
  · -- A number with a lower unit is not greater than one with a full mantissa.
    obtain ⟨k, hk⟩ := exists_unit_eq_of_lt hlt
    have hlow := hy.magnitude_lt_full hk
    have hfull := hx.full_le hy hlt
    have := x.unit_pos
    linarith

/-- How far below a number the next one is at least: half a unit, where the exponent changes. -/
def gap (x : Binary64) : ℚ :=
  if x.mantissa = 2 ^ 52 ∧ minExponent < x.exponent then x.unit / 2 else x.unit

theorem gap_pos (x : Binary64) : 0 < x.gap := by
  have := x.unit_pos
  unfold gap
  split_ifs <;> linarith

/-- The next number below is the gap below, or farther. -/
theorem below (hx : x.Proper) (hy : y.Proper) (h : y.magnitude < x.magnitude) :
    y.magnitude + x.gap ≤ x.magnitude := by
  have hunit := x.unit_pos
  rcases le_or_gt x.exponent y.exponent with hle | hlt
  · -- The lower number has the greater unit, or the same: the step is one of its units.
    have hstep := above hy hx h
    obtain ⟨k, hk⟩ := exists_unit_eq hle
    have hpow : (1 : ℚ) ≤ 2 ^ k := one_le_pow₀ one_le_two
    have hgreater : x.unit ≤ y.unit := hk ▸ le_mul_of_one_le_left hunit.le hpow
    unfold gap
    split_ifs <;> linarith
  · -- The lower number has a lower unit, so it is below the least full mantissa of this one.
    obtain ⟨k, hk⟩ := exists_unit_eq_of_lt hlt
    have hlow := hy.magnitude_lt_full hk
    have hfull := hx.full_le hy hlt
    unfold gap
    split_ifs with hleast
    · linarith
    · -- Beyond the least full mantissa there is room for a whole unit.
      have hmin := hy.min_le
      have hmantissa : 2 ^ 52 < x.mantissa := by
        rcases hx.full with hmin' | hge
        · omega
        · exact lt_of_le_of_ne hge fun heq => hleast ⟨heq.symm, by omega⟩
      have hmore : (2 : ℚ) ^ 52 + 1 ≤ x.mantissa := by exact_mod_cast hmantissa
      have : (2 ^ 52 + 1) * x.unit ≤ x.magnitude := mul_le_mul_of_nonneg_right hmore hunit.le
      linarith

/-!
## The interval of a number

What is nearer to a number than to any other lies within half of the gap on either side. At the very
ends the even mantissa wins.
-/

/-- Whether a rational lies between the middles of the gaps around a number. -/
def Within (x : Binary64) (q : ℚ) : Prop :=
  if x.mantissa % 2 = 0 then x.magnitude - x.gap / 2 ≤ q ∧ q ≤ x.magnitude + x.unit / 2
  else x.magnitude - x.gap / 2 < q ∧ q < x.magnitude + x.unit / 2

/-- The interval reaches from half a gap below to half a unit above. -/
theorem Within.le (h : x.Within q) :
    x.magnitude - x.gap / 2 ≤ q ∧ q ≤ x.magnitude + x.unit / 2 := by
  unfold Within at h
  split_ifs at h with heven
  · exact h
  · exact ⟨h.1.le, h.2.le⟩

/-- If the mantissa is odd, the two ends do not belong to it. -/
theorem Within.lt (h : x.Within q) (hodd : x.mantissa % 2 ≠ 0) :
    x.magnitude - x.gap / 2 < q ∧ q < x.magnitude + x.unit / 2 := by
  rwa [Within, if_neg hodd] at h

/-- What is strictly between them does in any case. -/
theorem within_of_lt (hlow : x.magnitude - x.gap / 2 < q) (hhigh : q < x.magnitude + x.unit / 2) :
    x.Within q := by
  unfold Within
  split_ifs
  · exact ⟨hlow.le, hhigh.le⟩
  · exact ⟨hlow, hhigh⟩

/-- Nothing beyond the greatest number is within the interval of one. -/
theorem Within.inRange (h : x.Within q) (hx : x.Proper) :
    q < (2 ^ 53 - 1 / 2) * 2 ^ maxExponent := by
  have hunit : x.unit ≤ 2 ^ maxExponent := zpow_le_zpow_right₀ one_le_two hx.le_max
  have htop : (0 : ℚ) < 2 ^ maxExponent := zpow_pos two_pos _
  -- Only the size of the greatest unit matters, and it is better not computed.
  generalize (2 : ℚ) ^ maxExponent = top at hunit htop
  have hpos := x.unit_pos
  by_cases heven : x.mantissa % 2 = 0
  · have hmantissa : (x.mantissa : ℚ) + 2 ≤ 2 ^ 53 := by
      have hlt := hx.mantissa_lt
      have : x.mantissa + 2 ≤ 2 ^ 53 := by omega
      exact_mod_cast this
    have hmagnitude : x.magnitude ≤ (2 ^ 53 - 2) * x.unit :=
      mul_le_mul_of_nonneg_right (by linarith) hpos.le
    calc q ≤ x.magnitude + x.unit / 2 := h.le.2
      _ ≤ (2 ^ 53 - 2 + 1 / 2) * x.unit := by linarith
      _ ≤ (2 ^ 53 - 2 + 1 / 2) * top := mul_le_mul_of_nonneg_left hunit (by norm_num)
      _ < (2 ^ 53 - 1 / 2) * top := mul_lt_mul_of_pos_right (by norm_num) htop
  · calc q < x.magnitude + x.unit / 2 := (h.lt heven).2
      _ ≤ (2 ^ 53 - 1 / 2) * x.unit := by linarith [hx.magnitude_lt]
      _ ≤ (2 ^ 53 - 1 / 2) * top := mul_le_mul_of_nonneg_left hunit (by norm_num)

/-- What lies within the interval of a number is read as it. -/
theorem Within.isNearest (h : x.Within q) (hx : x.Proper) : x.IsNearest q := by
  obtain ⟨hlow, hhigh⟩ := h.le
  have hunit := x.unit_pos
  have hgap := x.gap_pos
  -- Any other number is a gap away or more, and the rational is within half of that.
  have hnearer : ∀ y : Binary64, y.Proper → x.magnitude ≠ y.magnitude →
      |q - x.magnitude| ≤ |q - y.magnitude| ∧
        (x.mantissa % 2 ≠ 0 → |q - x.magnitude| < |q - y.magnitude|) := by
    intro y hy hne
    rcases hne.lt_or_gt with hlt | hgt
    · have hstep := above hx hy hlt
      have habs : |q - y.magnitude| = y.magnitude - q := by
        rw [abs_sub_comm]
        exact abs_of_nonneg (by linarith)
      rw [habs, abs_le, abs_lt]
      refine ⟨⟨by linarith, by linarith⟩, fun hodd => ?_⟩
      have := (h.lt hodd).2
      exact ⟨by linarith, by linarith⟩
    · have hstep := below hx hy hgt
      have habs : |q - y.magnitude| = q - y.magnitude := abs_of_nonneg (by linarith)
      rw [habs, abs_le, abs_lt]
      refine ⟨⟨by linarith, by linarith⟩, fun hodd => ?_⟩
      have := (h.lt hodd).1
      exact ⟨by linarith, by linarith⟩
  refine ⟨hx, h.inRange hx, fun y hy => ?_, fun y hy heq => ?_⟩
  · by_cases hsame : x.magnitude = y.magnitude
    · rw [hsame]
    · exact (hnearer y hy hsame).1
  · by_cases hsame : x.magnitude = y.magnitude
    · exact .inl hsame
    · right
      by_contra hodd
      exact absurd heq ((hnearer y hy hsame).2 hodd).ne

/-!
## The search

The search works with whole numbers: everything is multiplied by a common denominator. Points of the
grid of `10 ^ k` are tried for one number of digits after another, and for each of these the two
points around the magnitude.
-/

/-- The unit over the common denominator. -/
theorem den_mul_unit (x : Binary64) :
    (x.den : ℚ) * x.unit = (Nat.pow 2 x.exponent.toNat : Nat) := by
  have hden : (x.den : ℚ) ≠ 0 := by exact_mod_cast x.den_pos.ne'
  rw [unit, zpow_two_eq]
  exact mul_div_cancel₀ _ hden

/-- The magnitude over the common denominator is the numerator. -/
theorem den_mul_magnitude (x : Binary64) : (x.den : ℚ) * x.magnitude = x.num := by
  have hden : (x.den : ℚ) ≠ 0 := by exact_mod_cast x.den_pos.ne'
  rw [magnitude_eq_div]
  exact mul_div_cancel₀ _ hden

/-- The ends of the interval, in quarters of the unit of the denominator. -/
theorem interval_ends (x : Binary64) (hpos : x.mantissa ≠ 0) :
    (x.interval.1 : ℚ) = 4 * x.den * (x.magnitude - x.gap / 2) ∧
      (x.interval.2.1 : ℚ) = 4 * x.den * (x.magnitude + x.unit / 2) := by
  have hunit := x.den_mul_unit
  have hmagnitude := x.den_mul_magnitude
  have hnum : Nat.pow 2 x.exponent.toNat ≤ x.num :=
    Nat.le_mul_of_pos_left _ (Nat.pos_of_ne_zero hpos)
  unfold interval gap
  dsimp only
  generalize Nat.pow 2 x.exponent.toNat = u at *
  have hfull : (decide (x.mantissa = Nat.pow 2 52) && decide (minExponent < x.exponent)) = true ↔
      x.mantissa = 2 ^ 52 ∧ minExponent < x.exponent := by
    rw [Bool.and_eq_true, decide_eq_true_iff, decide_eq_true_iff]
    rfl
  constructor
  · rw [Nat.cast_sub (by split_ifs <;> omega)]
    simp only [hfull]
    split_ifs <;> push_cast <;> linarith
  · push_cast
    linarith

/-- The test of the search: whether a point of the grid of `10 ^ k` is in the interval. -/
def inside (x : Binary64) (k : Int) (c : Nat) : Bool :=
  if x.interval.2.2 then
    decide (x.interval.1 * Nat.pow 10 (-k).toNat ≤ c * (4 * x.den * Nat.pow 10 k.toNat)) &&
      decide (c * (4 * x.den * Nat.pow 10 k.toNat) ≤ x.interval.2.1 * Nat.pow 10 (-k).toNat)
  else
    decide (x.interval.1 * Nat.pow 10 (-k).toNat < c * (4 * x.den * Nat.pow 10 k.toNat)) &&
      decide (c * (4 * x.den * Nat.pow 10 k.toNat) < x.interval.2.1 * Nat.pow 10 (-k).toNat)

/-- The point of the grid of `10 ^ k` at or below the magnitude. -/
def floorAt (x : Binary64) (k : Int) : Nat :=
  4 * x.num * Nat.pow 10 (-k).toNat / (4 * x.den * Nat.pow 10 k.toNat)

/-- The common denominator of the search on the grid of `10 ^ k`. -/
def scale (x : Binary64) (k : Int) : ℚ := 4 * x.den * (Nat.pow 10 (-k).toNat : Nat)

theorem scale_pos (x : Binary64) (k : Int) : 0 < x.scale k := by
  have hden : (0 : ℚ) < x.den := by exact_mod_cast x.den_pos
  exact mul_pos (mul_pos four_pos hden) (cast_ten_pow_pos _)

/-- A point of a grid over the denominator of the search. -/
theorem point_eq (x : Binary64) (k : Int) (c : Nat) :
    ((c * (4 * x.den * Nat.pow 10 k.toNat) : Nat) : ℚ) = c * 10 ^ k * x.scale k := by
  have hten : (10 : ℚ) ^ k * (Nat.pow 10 (-k).toNat : Nat) = (Nat.pow 10 k.toNat : Nat) := by
    rw [zpow_ten_eq]
    exact div_mul_cancel₀ _ (cast_ten_pow_pos _).ne'
  rw [scale, Nat.cast_mul, Nat.cast_mul, ← hten]
  push_cast
  ring

/-- A numerator over four times the denominator, in the terms of the search. -/
theorem scaled_eq {q : ℚ} {n : Nat} (h : (n : ℚ) = 4 * x.den * q) (k : Int) :
    ((n * Nat.pow 10 (-k).toNat : Nat) : ℚ) = q * x.scale k := by
  rw [scale, Nat.cast_mul, h]
  ring

/-- One of the two points around the magnitude is taken, if either is in the interval. -/
theorem candidate_cases (x : Binary64) (lead : Int) (n : Nat) :
    (∃ c, x.inside (lead + 1 - n) c = true ∧
      x.candidate lead n = some ⟨c, lead + 1 - n⟩) ∨
    x.candidate lead n = none ∧ x.inside (lead + 1 - n) (x.floorAt (lead + 1 - n)) = false ∧
      x.inside (lead + 1 - n) (x.floorAt (lead + 1 - n) + 1) = false := by
  unfold candidate
  dsimp only
  -- The cases are whether the point below and the point above are in the interval.
  split
  · next hbelow habove => exact .inr ⟨rfl, hbelow, habove⟩
  · next hbelow habove => exact .inl ⟨_, hbelow, rfl⟩
  · next hbelow habove => exact .inl ⟨_, habove, rfl⟩
  · next hbelow habove =>
    left
    split_ifs
    · exact ⟨_, hbelow, rfl⟩
    · exact ⟨_, habove, rfl⟩

/-- The test is in natural numbers; this is what it asks. -/
theorem inside_iff (hpos : x.mantissa ≠ 0) (k : Int) (c : Nat) :
    x.inside k c = true ↔ x.Within (c * 10 ^ k) := by
  obtain ⟨hlow, hhigh⟩ := x.interval_ends hpos
  have hclosed : x.interval.2.2 = true ↔ x.mantissa % 2 = 0 := decide_eq_true_iff
  have hscale := x.scale_pos k
  unfold Within inside
  by_cases heven : x.mantissa % 2 = 0
  · rw [if_pos (hclosed.2 heven), if_pos heven, Bool.and_eq_true, decide_eq_true_iff,
      decide_eq_true_iff, ← Nat.cast_le (α := ℚ), ← Nat.cast_le (α := ℚ), point_eq,
      scaled_eq hlow, scaled_eq hhigh, mul_le_mul_iff_left₀ hscale, mul_le_mul_iff_left₀ hscale]
  · rw [if_neg (mt hclosed.1 heven), if_neg heven, Bool.and_eq_true, decide_eq_true_iff,
      decide_eq_true_iff, ← Nat.cast_lt (α := ℚ), ← Nat.cast_lt (α := ℚ), point_eq,
      scaled_eq hlow, scaled_eq hhigh, mul_lt_mul_iff_left₀ hscale, mul_lt_mul_iff_left₀ hscale]

/-- The magnitude is not below its floor on a grid, and below the next point. -/
theorem floorAt_spec (x : Binary64) (k : Int) :
    x.floorAt k * 10 ^ k ≤ x.magnitude ∧ x.magnitude < (x.floorAt k + 1) * 10 ^ k := by
  have hd : 0 < 4 * x.den * Nat.pow 10 k.toNat :=
    Nat.mul_pos (Nat.mul_pos four_pos x.den_pos) (Nat.pow_pos (Nat.succ_pos 9))
  have hscale := x.scale_pos k
  have hvalue := scaled_eq (x := x) (n := 4 * x.num) (q := x.magnitude)
    (by rw [Nat.cast_mul, ← x.den_mul_magnitude]; push_cast; ring) k
  have hpoint := x.point_eq k
  constructor
  · rw [← mul_le_mul_iff_left₀ hscale, ← hpoint, ← hvalue, Nat.cast_le]
    exact Nat.div_mul_le_self _ _
  · have hnext := hpoint (x.floorAt k + 1)
    rw [Nat.cast_add, Nat.cast_one] at hnext
    rw [← mul_lt_mul_iff_left₀ hscale, ← hnext, ← hvalue, Nat.cast_lt]
    exact (Nat.div_lt_iff_lt_mul hd).1 (Nat.lt_succ_self _)

/-!
## The leading digit

The exponent of the first digit is estimated from the lengths of numerator and denominator as binary
numbers. It has to be good enough that seventeen digits from there on are fine enough.
-/

/-- Powers of two bases compare as those of two fixed exponents do. -/
theorem zpow_le_zpow_of_pow_le {base other : ℚ} (hbase : 1 ≤ base) (hother : 1 ≤ other) {m n : Nat}
    (hm : m ≠ 0) (h : base ^ m ≤ other ^ n) {a b : Int} (ha : 0 ≤ a) (hab : n * a ≤ m * b) :
    base ^ a ≤ other ^ b := by
  have hbase' : 0 ≤ base := zero_le_one.trans hbase
  have hother' : 0 ≤ other := zero_le_one.trans hother
  refine le_of_pow_le_pow_left₀ hm (zpow_nonneg hother' _) ?_
  calc (base ^ a) ^ m = (base ^ m) ^ a := by
        rw [← zpow_natCast, ← zpow_natCast, ← zpow_mul, ← zpow_mul, mul_comm]
    _ ≤ (other ^ n) ^ a := zpow_le_zpow_left₀ ha (pow_nonneg hbase' _) h
    _ = other ^ (n * a) := by rw [← zpow_natCast, ← zpow_mul]
    _ ≤ other ^ (m * b) := zpow_le_zpow_right₀ hother hab
    _ = (other ^ b) ^ m := by rw [mul_comm, zpow_mul, zpow_natCast]

/-- `2 ^ 196` is more than `10 ^ 59`, and `10 ^ 28` is more than `2 ^ 93`. -/
theorem ten_zpow_le_two_zpow {a b : Int} (habove : 196 * a ≤ 59 * b) (hbelow : 93 * a ≤ 28 * b) :
    (10 : ℚ) ^ a ≤ 2 ^ b := by
  rcases le_total 0 a with ha | ha
  · exact zpow_le_zpow_of_pow_le (by norm_num) one_le_two (m := 59) (n := 196) (by omega)
      (by norm_num) ha habove
  · rcases le_total 0 b with hb | hb
    · exact (zpow_le_one_of_nonpos₀ (by norm_num) ha).trans (one_le_zpow₀ one_le_two hb)
    · have hinv : (2 : ℚ) ^ (-b) ≤ 10 ^ (-a) :=
        zpow_le_zpow_of_pow_le one_le_two (by norm_num) (m := 93) (n := 28) (by omega) (by norm_num)
          (by omega) (by push_cast; omega)
      rw [zpow_neg, zpow_neg] at hinv
      exact (inv_le_inv₀ (by positivity) (by positivity)).1 hinv

/-- The exponent of the leading digit is not too great. -/
theorem ten_zpow_leadingExponent_le {num den : Nat} (hnum : num ≠ 0) (hden : 0 < den)
    (hsize : num.log2 ≤ den.log2 + 2000 ∧ den.log2 ≤ num.log2 + 2000) :
    (10 : ℚ) ^ leadingExponent num den ≤ num / den := by
  have hreaches (k : Int) (h : den * Nat.pow 10 k.toNat ≤ num * Nat.pow 10 (-k).toNat) :
      (10 : ℚ) ^ k ≤ num / den := by
    have hpos : (0 : ℚ) < den := by exact_mod_cast hden
    rw [zpow_ten_eq, div_le_div_iff₀ (cast_ten_pow_pos _) hpos]
    rw [mul_comm] at h
    exact_mod_cast h
  unfold leadingExponent
  dsimp only
  split_ifs with hmore hsame hless
  · exact hreaches _ (of_decide_eq_true hmore)
  · exact hreaches _ (of_decide_eq_true hsame)
  · exact hreaches _ (of_decide_eq_true hless)
  · -- Two below the guess even the leading power of two is reached.
    refine le_trans (ten_zpow_le_two_zpow ?_ ?_) (two_zpow_le_div hnum hden) <;> omega

/-- Numerator and denominator of a number are close enough for the estimate of the first digit. -/
theorem log2_bounds (hx : x.Proper) (hpos : x.mantissa ≠ 0) :
    x.num.log2 ≤ x.den.log2 + 2000 ∧ x.den.log2 ≤ x.num.log2 + 2000 := by
  have hmin := hx.min_le
  have hmax := hx.le_max
  have hden : x.den.log2 = (-x.exponent).toNat := Nat.log2_two_pow
  have hnum : x.num.log2 < 53 + x.exponent.toNat := by
    have hne : x.num ≠ 0 := Nat.mul_ne_zero hpos (Nat.pow_pos Nat.two_pos).ne'
    rw [Nat.log2_lt hne, pow_add]
    exact Nat.mul_lt_mul_of_pos_right hx.mantissa_lt (Nat.pow_pos Nat.two_pos)
  unfold minExponent at hmin
  unfold maxExponent at hmax
  omega

/-!
## The shortest decimal

That something is found with seventeen digits makes the search succeed; that it lies in the interval
makes it right.
-/

/-- With seventeen digits the steps of the grid are smaller than the interval. -/
theorem step_lt (hx : x.Proper) {step : ℚ} (h : 10 ^ 16 * step ≤ x.magnitude) :
    step < x.gap / 2 + x.unit / 2 := by
  have hunit := x.unit_pos
  unfold gap
  split_ifs with hleast
  · have hmagnitude : x.magnitude = 2 ^ 52 * x.unit := by
      rw [magnitude, hleast.1]
      push_cast
      rfl
    linarith
  · have hmagnitude := hx.magnitude_lt
    linarith

/-- The search finds a decimal with seventeen digits, if not with fewer. -/
theorem exists_candidate (hx : x.Proper) (hpos : x.mantissa ≠ 0) {lead : Int}
    (hlead : (10 : ℚ) ^ lead ≤ x.magnitude) : ∃ d, x.candidate lead 17 = some d := by
  rcases x.candidate_cases lead 17 with ⟨c, -, hc⟩ | ⟨-, hbelow, habove⟩
  · exact ⟨_, hc⟩
  -- A point around the magnitude is in the interval: both cannot be outside.
  exfalso
  have hexponent : lead + 1 - ((17 : Nat) : Int) = lead - 16 := by omega
  rw [hexponent, Bool.eq_false_iff, ne_eq, inside_iff hpos] at hbelow habove
  obtain ⟨hfloor, hnext⟩ := x.floorAt_spec (lead - 16)
  have hstep : 10 ^ 16 * (10 : ℚ) ^ (lead - 16) ≤ x.magnitude := by
    have hsplit : (10 : ℚ) ^ lead = 10 ^ 16 * 10 ^ (lead - 16) := by
      rw [← zpow_natCast, ← zpow_add₀ (by norm_num)]
      congr 1
      push_cast
      ring
    rwa [← hsplit]
  have hsmall := step_lt hx hstep
  have hpositive : (0 : ℚ) < 10 ^ (lead - 16) := by positivity
  have hunit := x.unit_pos
  have hgap := x.gap_pos
  push_cast at habove
  generalize (10 : ℚ) ^ (lead - 16) = step at *
  rcases lt_or_ge (x.magnitude - x.gap / 2) (x.floorAt (lead - 16) * step) with hnear | hfar
  · exact hbelow (within_of_lt hnear (by linarith))
  · exact habove (within_of_lt (by linarith) (by linarith))

/-- What is found lies in the interval. -/
theorem candidate_within (hpos : x.mantissa ≠ 0) {lead : Int} {n : Nat} {d : Decimal}
    (h : x.candidate lead n = some d) : x.Within d.value := by
  rcases x.candidate_cases lead n with ⟨c, hinside, hc⟩ | ⟨hnone, -⟩
  · cases h.symm.trans hc
    exact (inside_iff hpos _ c).1 hinside
  · nomatch h.symm.trans hnone

/-- Zeros at the end of a coefficient do not count. -/
theorem value_stripZeros (fuel : Nat) (d : Decimal) : (stripZeros fuel d).value = d.value := by
  induction fuel generalizing d with
  | zero => rfl
  | succ fuel ih =>
    unfold stripZeros
    split_ifs with hzero
    · rw [Bool.and_eq_true, decide_eq_true_iff, decide_eq_true_iff] at hzero
      have hten : ((d.coefficient / 10 : Nat) : ℚ) * 10 = d.coefficient := by
        exact_mod_cast Nat.div_mul_cancel (Nat.dvd_of_mod_eq_zero hzero.2)
      rw [ih, Decimal.value, Decimal.value, zpow_add_one₀ (by norm_num), ← hten]
      ring
    · rfl

/-- The decimal that is written for a number is read as this number. -/
theorem Proper.shortest_isNearest (hx : x.Proper) : x.IsNearest x.shortest.value := by
  unfold shortest
  split_ifs with hzero
  · -- Zero is not searched for; its mantissa is even, and no magnitude is nearer.
    have hmagnitude : x.magnitude = 0 := by
      rw [magnitude, hzero, Nat.cast_zero, zero_mul]
    have hvalue : (⟨0, 0⟩ : Decimal).value = 0 := by
      rw [Decimal.value, Nat.cast_zero, zero_mul]
    rw [hvalue]
    refine ⟨hx, by unfold maxExponent; positivity, fun y _ => ?_, fun _ _ _ => .inr ?_⟩
    · rw [hmagnitude, sub_zero, abs_zero]
      exact abs_nonneg _
    · rw [hzero]
  · have hnum : x.num ≠ 0 := Nat.mul_ne_zero hzero (Nat.pow_pos Nat.two_pos).ne'
    have hlead := ten_zpow_leadingExponent_le hnum x.den_pos (log2_bounds hx hzero)
    rw [← magnitude_eq_div] at hlead
    dsimp only
    generalize leadingExponent x.num x.den = lead at hlead ⊢
    split
    · next d hfound =>
      obtain ⟨n, -, hcandidate⟩ := List.exists_of_findSome?_eq_some hfound
      rw [value_stripZeros]
      exact (candidate_within hzero hcandidate).isNearest hx
    · next hnone =>
      -- The last round of the search is the one with seventeen digits, and there it finds a
      -- decimal.
      obtain ⟨d, hd⟩ := exists_candidate hx hzero hlead
      have hlast := List.findSome?_eq_none_iff.1 hnone 16 (by decide)
      cases hlast.symm.trans hd

end Binary64

end MailTemplates.Number
