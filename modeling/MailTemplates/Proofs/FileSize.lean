import Mathlib.Data.Nat.Log
import MailTemplates.FileSize
import MailTemplates.Proofs.Number.Notation
import MailTemplates.Proofs.Number.Rounding
/-!
# What the text of a file size tells

A size is divided by a thousand up to four times, and rounded each time. For sizes below `10 ^ 15`
all of these roundings together move it by less than one byte (`FileSize.near_divided`,
`FileSize.drift_lt_one`), and they never take a size across a power of a thousand
(`FileSize.fits_iff`): so the unit is the one that the exact size has, and the number is the one
nearest to the exact size with one place.

The unit is chosen before the number is rounded to one place. So the sizes that are nearer to a
thousand of their unit than to the number before it are shown as a thousand of it.

Main statement: `FileSize.format_shows`.
-/

namespace MailTemplates.FileSize

open Number

variable {bytes other k : Nat}

/-!
## Division by a thousand, step by step

Each division is rounded to a binary number. The lemmas give one such step: what its exact quotient
is, and that rounding it is off by one part in `2 ^ 53` at most.
-/

/-- A byte count divided by a thousand as often as told, rounded each time. -/
def divided (bytes : Nat) : Nat → Binary64
  | 0 => Binary64.ofNat bytes
  | k + 1 => ((divided bytes k).div? (Binary64.ofNat 1000)).getD (divided bytes k)

/-- A thousand is represented exactly. -/
theorem magnitude_thousand : (Binary64.ofNat 1000).magnitude = 1000 := by
  have hnum : (Binary64.ofNat 1000).num = 1000 * (Binary64.ofNat 1000).den := by decide +kernel
  have hden : ((Binary64.ofNat 1000).den : ℚ) ≠ 0 := by
    exact_mod_cast (Binary64.den_pos _).ne'
  rw [Binary64.magnitude_eq_div, hnum, Nat.cast_mul, mul_div_cancel_right₀ _ hden]
  norm_num

/-- The exact quotient of a step. -/
theorem step_quotient (bytes k : Nat) :
    (((divided bytes k).num * (Binary64.ofNat 1000).den : Nat) : ℚ) /
      ((divided bytes k).den * (Binary64.ofNat 1000).num : Nat) =
        (divided bytes k).magnitude / 1000 := by
  rw [Binary64.num_div_num, magnitude_thousand]

theorem step_den_pos (bytes k : Nat) :
    0 < (divided bytes k).den * (Binary64.ofNat 1000).num :=
  Nat.mul_pos (Binary64.den_pos _) (by decide +kernel)

/-- Each further division is rounded once. -/
theorem magnitude_divided_succ (h : (divided bytes k).magnitude < 10 ^ 16) :
    (divided bytes (k + 1)).magnitude =
      Binary64.rounded ((divided bytes k).num * (Binary64.ofNat 1000).den)
        ((divided bytes k).den * (Binary64.ofNat 1000).num) := by
  have hfinite : (divided bytes k).magnitude / (Binary64.ofNat 1000).magnitude <
      2 ^ (Binary64.maxExponent + 52) := by
    rw [magnitude_thousand]
    calc (divided bytes k).magnitude / 1000 < 2 ^ (54 : Int) := by
          norm_num
          linarith
      _ ≤ 2 ^ (Binary64.maxExponent + 52) := zpow_le_zpow_right₀ one_le_two (by decide)
  obtain ⟨next, hnext, hmagnitude⟩ := Binary64.exists_div? (by decide +kernel) hfinite
  rw [divided, hnext]
  exact hmagnitude

/-- The size itself is rounded once, if it is not exact. -/
theorem magnitude_divided_zero (h : bytes < 10 ^ 15) :
    (divided bytes 0).magnitude = Binary64.rounded bytes 1 := by
  apply Binary64.magnitude_ofNat
  have hbytes : (bytes : ℚ) < 10 ^ 15 := by exact_mod_cast h
  calc (bytes : ℚ) < 2 ^ (50 : Int) := by
        norm_num at hbytes ⊢
        linarith
    _ ≤ 2 ^ (Binary64.maxExponent + 52) := zpow_le_zpow_right₀ one_le_two (by decide)

/-- Nothing that is divided here comes near the numbers with fewer bits. -/
theorem normal_of_le {q : ℚ} (h : 1 / 10 ^ 16 ≤ q) : 2 ^ (Binary64.minExponent + 52) ≤ q := by
  calc (2 : ℚ) ^ (Binary64.minExponent + 52) ≤ 2 ^ (-60 : Int) :=
        zpow_le_zpow_right₀ one_le_two (by decide)
    _ ≤ 1 / 10 ^ 16 := by norm_num
    _ ≤ q := h

/-- One division moves the value by one part in `2 ^ 53` at most. -/
theorem divided_succ_close (hlow : 1 / 10 ^ 13 ≤ (divided bytes k).magnitude)
    (hhigh : (divided bytes k).magnitude < 10 ^ 16) :
    |(divided bytes (k + 1)).magnitude * 1000 - (divided bytes k).magnitude| ≤
      (divided bytes k).magnitude / 2 ^ 53 := by
  have hquotient := step_quotient bytes k
  have hnormal : 1 / 10 ^ 16 ≤ (divided bytes k).magnitude / 1000 := by linarith
  have hround := Binary64.abs_rounded_sub_le (step_den_pos bytes k)
    (hquotient ▸ normal_of_le hnormal)
  rw [hquotient, ← magnitude_divided_succ hhigh] at hround
  calc |(divided bytes (k + 1)).magnitude * 1000 - (divided bytes k).magnitude|
      = |(divided bytes (k + 1)).magnitude - (divided bytes k).magnitude / 1000| * 1000 := by
        rw [← abs_of_pos (show (0 : ℚ) < 1000 by norm_num), ← abs_mul, sub_mul,
          abs_of_pos (show (0 : ℚ) < 1000 by norm_num), div_mul_cancel₀ _ (by norm_num)]
    _ ≤ (divided bytes k).magnitude / 1000 / 2 ^ 53 * 1000 := by gcongr
    _ = (divided bytes k).magnitude / 2 ^ 53 := by ring

/-!
## How far the roundings move a size

The errors of all steps are measured in bytes of the original size, so that they can be added. Four
steps for sizes below `10 ^ 15` add up to less than one byte.
-/

/-- What a size may be off by after so many divisions, in bytes. -/
def drift (bytes k : Nat) : ℚ := (2 * k + 1) * bytes / 2 ^ 53

/-- All roundings together move a size by less than one byte. -/
theorem drift_lt_one (h : bytes < 10 ^ 15) (hk : k ≤ 4) : drift bytes k < 1 := by
  have hbytes : (bytes : ℚ) < 10 ^ 15 := by exact_mod_cast h
  have hsteps : (2 * k + 1 : ℚ) ≤ 9 := by
    have : 2 * k + 1 ≤ 9 := by omega
    exact_mod_cast this
  unfold drift
  calc (2 * k + 1 : ℚ) * bytes / 2 ^ 53 ≤ 9 * bytes / 2 ^ 53 := by gcongr
    _ < 9 * 10 ^ 15 / 2 ^ 53 := by gcongr
    _ < 1 := by norm_num

/-- The divided size stands for nearly so many bytes. -/
def Near (bytes k : Nat) : Prop :=
  |(divided bytes k).magnitude * 1000 ^ k - bytes| ≤ drift bytes k

/-- Before the first division a size has moved by at most its first rounding. -/
theorem near_zero (hlow : 1000 ≤ bytes) (hhigh : bytes < 10 ^ 15) : Near bytes 0 := by
  have hpos : (1000 : ℚ) ≤ bytes := by exact_mod_cast hlow
  have hnormal : 2 ^ (Binary64.minExponent + 52) ≤ (bytes : ℚ) / (1 : Nat) := by
    apply normal_of_le
    norm_num
    linarith
  have hround := Binary64.abs_rounded_sub_le Nat.one_pos hnormal
  unfold Near drift
  rw [magnitude_divided_zero hhigh]
  simpa using hround

/-- A size that is at least a thousand bytes, at most four divisions on. -/
theorem Near.bounds (hlow : 1000 ≤ bytes) (hhigh : bytes < 10 ^ 15) (hk : k ≤ 4)
    (h : Near bytes k) :
    1 / 10 ^ 13 ≤ (divided bytes k).magnitude ∧ (divided bytes k).magnitude < 10 ^ 16 := by
  have hbytes : (1000 : ℚ) ≤ bytes := by exact_mod_cast hlow
  have hlimit : (bytes : ℚ) < 10 ^ 15 := by exact_mod_cast hhigh
  have hroom : (10 ^ 15 + 1 : ℚ) < 10 ^ 16 := by norm_num
  have hdrift := drift_lt_one hhigh hk
  obtain ⟨hbelow, habove⟩ := abs_le.1 h
  have hnonneg := (divided bytes k).magnitude_nonneg
  have hone : (1 : ℚ) ≤ 1000 ^ k := one_le_pow₀ (by norm_num)
  have hmost : (1000 : ℚ) ^ k ≤ 1000 ^ 4 := pow_le_pow_right₀ (by norm_num) hk
  constructor
  · have hle : (divided bytes k).magnitude * 1000 ^ k ≤ (divided bytes k).magnitude * 1000 ^ 4 := by
      gcongr
    norm_num at hle ⊢
    linarith
  · have hle := le_mul_of_one_le_right hnonneg hone
    linarith

/-- A further division adds two parts in `2 ^ 53` at most. -/
theorem near_succ (hlow : 1000 ≤ bytes) (hhigh : bytes < 10 ^ 15) (hk : k < 4)
    (h : Near bytes k) : Near bytes (k + 1) := by
  have hbytes : (1000 : ℚ) ≤ bytes := by exact_mod_cast hlow
  have hdrift := drift_lt_one hhigh hk.le
  obtain ⟨-, habove⟩ := abs_le.1 h
  obtain ⟨hleast, hmost⟩ := h.bounds hlow hhigh hk.le
  have hstep := divided_succ_close hleast hmost
  have hdouble : (divided bytes k).magnitude * 1000 ^ k ≤ 2 * bytes := by linarith
  -- The new difference is that of this step, scaled back, and the one before.
  have hsplit : (divided bytes (k + 1)).magnitude * 1000 ^ (k + 1) - bytes =
      ((divided bytes (k + 1)).magnitude * 1000 - (divided bytes k).magnitude) * 1000 ^ k +
        ((divided bytes k).magnitude * 1000 ^ k - bytes) := by
    ring
  unfold Near
  rw [hsplit]
  calc |((divided bytes (k + 1)).magnitude * 1000 - (divided bytes k).magnitude) * 1000 ^ k +
        ((divided bytes k).magnitude * 1000 ^ k - bytes)|
      ≤ |(divided bytes (k + 1)).magnitude * 1000 - (divided bytes k).magnitude| * 1000 ^ k +
        |(divided bytes k).magnitude * 1000 ^ k - bytes| := by
        refine (abs_add_le _ _).trans_eq ?_
        rw [abs_mul, abs_of_pos (show (0 : ℚ) < 1000 ^ k by positivity)]
    _ ≤ (divided bytes k).magnitude / 2 ^ 53 * 1000 ^ k + drift bytes k := by
        gcongr
        exact h
    _ = (divided bytes k).magnitude * 1000 ^ k / 2 ^ 53 + drift bytes k := by ring
    _ ≤ 2 * bytes / 2 ^ 53 + drift bytes k := by
        gcongr
    _ = drift bytes (k + 1) := by
        unfold drift
        push_cast
        ring

/-- All the roundings together move a size by less than a byte. -/
theorem near_divided (hlow : 1000 ≤ bytes) (hhigh : bytes < 10 ^ 15) (hk : k ≤ 4) :
    Near bytes k := by
  induction k with
  | zero => exact near_zero hlow hhigh
  | succ k ih => exact near_succ hlow hhigh (by omega) (ih (by omega))

/-!
## Which unit is chosen

The loop compares a rounded number with a thousand. Powers of a thousand are divided without any
rounding, and rounding is monotone, so it is never misled about which side a size is on.
-/

/-- A greater size is not divided to less. -/
theorem divided_mono (hlow : 1000 ≤ bytes) (h : bytes ≤ other) (hhigh : other < 10 ^ 15)
    (hk : k ≤ 4) : (divided bytes k).magnitude ≤ (divided other k).magnitude := by
  have hbytes : bytes < 10 ^ 15 := h.trans_lt hhigh
  have hother : 1000 ≤ other := hlow.trans h
  induction k with
  | zero =>
    rw [magnitude_divided_zero hbytes, magnitude_divided_zero hhigh]
    apply Binary64.rounded_mono Nat.one_pos Nat.one_pos
    gcongr
  | succ k ih =>
    have hsmaller := (near_divided hlow hbytes (by omega)).bounds hlow hbytes (by omega : k ≤ 4)
    have hgreater := (near_divided hother hhigh (by omega)).bounds hother hhigh (by omega : k ≤ 4)
    rw [magnitude_divided_succ hsmaller.2, magnitude_divided_succ hgreater.2]
    apply Binary64.rounded_mono (step_den_pos bytes k) (step_den_pos other k)
    rw [step_quotient, step_quotient]
    gcongr
    exact ih (by omega)

/-- A power of a thousand is divided without a rest. -/
theorem divided_power (hk : k < 4) : (divided (1000 ^ (k + 1)) k).magnitude = 1000 := by
  have hnum : ∀ j < 4, (divided (1000 ^ (j + 1)) j).num =
      1000 * (divided (1000 ^ (j + 1)) j).den := by decide +kernel
  have hden : ((divided (1000 ^ (k + 1)) k).den : ℚ) ≠ 0 := by
    exact_mod_cast (Binary64.den_pos _).ne'
  rw [Binary64.magnitude_eq_div, hnum k hk, Nat.cast_mul, mul_div_cancel_right₀ _ hden]
  norm_num

/-- The division goes on exactly where the exact size has a thousand of the unit. -/
theorem fits_iff (hlow : 1000 ≤ bytes) (hhigh : bytes < 10 ^ 15) (hk : k < 4) :
    (divided bytes k).num < 1000 * (divided bytes k).den ↔ bytes < 1000 ^ (k + 1) := by
  have hden : (0 : ℚ) < (divided bytes k).den := by exact_mod_cast Binary64.den_pos _
  have hmagnitude : (divided bytes k).num < 1000 * (divided bytes k).den ↔
      (divided bytes k).magnitude < 1000 := by
    rw [Binary64.magnitude_eq_div, div_lt_iff₀ hden]
    norm_cast
  rw [hmagnitude]
  constructor
  · intro hless
    by_contra hge
    have hpower : 1000 ≤ 1000 ^ (k + 1) := Nat.le_self_pow (by omega) 1000
    -- A size that reaches the power is not divided to less than the power is.
    have hmono := divided_mono hpower (not_lt.1 hge) hhigh hk.le
    rw [divided_power hk] at hmono
    exact absurd hless (not_lt.2 hmono)
  · intro hless
    -- A size below the power is below it by at least one byte, and the drift is less.
    have hsucc : (bytes : ℚ) + 1 ≤ 1000 ^ (k + 1) := by exact_mod_cast hless
    have hdrift := drift_lt_one hhigh hk.le
    obtain ⟨-, habove⟩ := abs_le.1 (near_divided hlow hhigh hk.le)
    have hpow : (0 : ℚ) < 1000 ^ k := by positivity
    apply lt_of_mul_lt_mul_right _ hpow.le
    calc (divided bytes k).magnitude * 1000 ^ k < bytes + 1 := by linarith
      _ ≤ 1000 ^ (k + 1) := hsucc
      _ = 1000 * 1000 ^ k := pow_succ' _ _

/-- A number below a thousand keeps its unit. -/
theorem scaled_of_fits {x : Binary64} (h : x.num < 1000 * x.den) (unit : String)
    (rest : List String) : scaled x unit rest = (x, unit) := by
  cases rest with
  | nil => rfl
  | cons next rest => rw [scaled, if_pos h]

/-- The loop passes every unit of which the size has a thousand. -/
theorem scaled_eq (hlow : 1000 ≤ bytes) (hhigh : bytes < 10 ^ 15) (hk : k ≤ 4)
    (h : 1000 ^ k ≤ bytes) :
    scaled (Binary64.ofNat bytes) "B" units =
      scaled (divided bytes k) (("B" :: units).get ⟨k, Nat.lt_succ_of_le hk⟩) (units.drop k) := by
  induction k with
  | zero => rfl
  | succ k ih =>
    have hk' : k < units.length := hk
    have hpow : 1000 ^ k ≤ bytes := (Nat.pow_le_pow_right (by omega) k.le_succ).trans h
    have hgoes : ¬ (divided bytes k).num < 1000 * (divided bytes k).den := by
      rw [fits_iff hlow hhigh hk]
      omega
    rw [ih (by omega) hpow, List.drop_eq_getElem_cons hk', scaled, if_neg hgoes]
    rfl

/-- The unit is the one the exact size has. -/
theorem scaled_units (hlow : 1000 ≤ bytes) (hhigh : bytes < 10 ^ 15) (hk : k < units.length)
    (h : 1000 ^ (k + 1) ≤ bytes) (hless : bytes < 1000 ^ (k + 2)) :
    scaled (Binary64.ofNat bytes) "B" units = (divided bytes (k + 1), units[k]) := by
  rw [scaled_eq hlow hhigh hk h]
  have hk' : k < 4 := hk
  rcases Nat.lt_or_eq_of_le (show k + 1 ≤ 4 from hk) with hmore | hlast
  · exact scaled_of_fits ((fits_iff hlow hhigh hmore).2 hless) _ _
  · obtain rfl : k = 3 := by omega
    rfl

/-!
## The number with one place

The rounding to one place is exact and to the nearest; what it starts from is off by less than a
byte. Both together give the nearest number to the exact size, because that is a whole number of
bytes: it is at least one byte away from the middle between two numbers, unless it is the middle
itself.
-/

/-- The number shown, in tenths. -/
def tenths (bytes k : Nat) : Nat :=
  roundDiv ((divided bytes k).num * 10) (divided bytes k).den

/-- The number is nearest to the exact size of all numbers with one place. -/
theorem tenths_nearest (hlow : 1000 ≤ bytes) (hhigh : bytes < 10 ^ 15) (hk : k < 4) :
    2 * tenths bytes (k + 1) * 1000 ^ (k + 1) ≤ 20 * bytes + 1000 ^ (k + 1) ∧
      20 * bytes ≤ 2 * tenths bytes (k + 1) * 1000 ^ (k + 1) + 1000 ^ (k + 1) := by
  have hdrift := drift_lt_one hhigh (show k + 1 ≤ 4 from hk)
  obtain ⟨hbelow, habove⟩ := abs_le.1 (near_divided hlow hhigh (show k + 1 ≤ 4 from hk))
  have hround := abs_roundDiv_sub_le ((divided bytes (k + 1)).num * 10)
    (divided bytes (k + 1)).den_pos
  have hvalue : (((divided bytes (k + 1)).num * 10 : Nat) : ℚ) / (divided bytes (k + 1)).den =
      10 * (divided bytes (k + 1)).magnitude := by
    rw [Binary64.magnitude_eq_div]
    push_cast
    ring
  rw [hvalue, ← tenths] at hround
  obtain ⟨hless, hmore⟩ := abs_le.1 hround
  have hpow : (0 : ℚ) < 1000 ^ (k + 1) := by positivity
  have hlower := mul_le_mul_of_nonneg_right hless hpow.le
  have hupper := mul_le_mul_of_nonneg_right hmore hpow.le
  -- Both sides are multiples of twenty, so less than twenty more is no more.
  have hunit : 1000 ^ (k + 1) = 20 * (50 * 1000 ^ k) := by
    rw [pow_succ]
    omega
  have hhigher : (2 * tenths bytes (k + 1) * 1000 ^ (k + 1) : ℚ) <
      20 * bytes + 1000 ^ (k + 1) + 20 := by
    linarith
  have hlesser : (20 * bytes : ℚ) <
      2 * tenths bytes (k + 1) * 1000 ^ (k + 1) + 1000 ^ (k + 1) + 20 := by
    linarith
  have hhigher' : 2 * tenths bytes (k + 1) * 1000 ^ (k + 1) <
      20 * bytes + 1000 ^ (k + 1) + 20 := by exact_mod_cast hhigher
  have hlesser' : 20 * bytes <
      2 * tenths bytes (k + 1) * 1000 ^ (k + 1) + 1000 ^ (k + 1) + 20 := by exact_mod_cast hlesser
  have hmultiple : 2 * tenths bytes (k + 1) * 1000 ^ (k + 1) =
      20 * (2 * tenths bytes (k + 1) * (50 * 1000 ^ k)) := by
    rw [hunit]
    ring
  omega

/-- The size from which on the number is rounded up to a thousand of its unit: a half of the last
place below the next power of a thousand. -/
def threshold (k : Nat) : Nat := 99995 * 1000 ^ (k + 1) / 100

/-- At the threshold itself two numbers with one place are equally near to the exact size, and it is
the roundings that decide. -/
theorem tenths_threshold (hk : k < 4) : tenths (threshold k) (k + 1) = 10000 := by
  have heach : ∀ j < 4, tenths (threshold j) (j + 1) = 10000 := by decide +kernel
  exact heach k hk

/-- What is shown for a size, as a number of tenths and the place of the unit in the list. -/
structure Shows (bytes k tenths : Nat) : Prop where
  /-- The size is at least one of the unit. -/
  unit_le : 1000 ^ (k + 1) ≤ bytes
  /-- The size is less than a thousand of the unit. -/
  lt_next : bytes < 1000 ^ (k + 2)
  /-- The number is at most half of the last place above the exact size. -/
  le_half : 2 * tenths * 1000 ^ (k + 1) ≤ 20 * bytes + 1000 ^ (k + 1)
  /-- The number is at most half of the last place below the exact size. -/
  half_le : 20 * bytes ≤ 2 * tenths * 1000 ^ (k + 1) + 1000 ^ (k + 1)
  /-- The number is at least one. -/
  one_le : 10 ≤ tenths
  /-- The number is at most a thousand. -/
  le_thousand : tenths ≤ 10000
  /-- The number is a thousand exactly from the threshold on. -/
  thousand_iff : tenths = 10000 ↔ threshold k ≤ bytes

/-- The tenths of a size say what is asked of them: they are the nearest, and a thousand is reached
from the middle on. -/
theorem shows_tenths (hhigh : bytes < 10 ^ 15) (hk : k < 4) (h : 1000 ^ (k + 1) ≤ bytes)
    (hless : bytes < 1000 ^ (k + 2)) : Shows bytes k (tenths bytes (k + 1)) := by
  have hlow : 1000 ≤ bytes := (Nat.le_self_pow (by omega) 1000).trans h
  obtain ⟨habove, hbelow⟩ := tenths_nearest hlow hhigh hk
  have hnext : bytes < 1000 * 1000 ^ (k + 1) := by rwa [← pow_succ']
  have hthreshold : 20 * threshold k = 19999 * 1000 ^ (k + 1) := by
    unfold threshold
    rw [pow_succ]
    omega
  have hscale : ∀ m n : Nat, m ≤ n → 2 * m * 1000 ^ (k + 1) ≤ 2 * n * 1000 ^ (k + 1) := by
    intro m n hmn
    gcongr
  -- A size of at least one unit has at least ten tenths, and less than a thousand units at most ten
  -- thousand.
  have hone : 10 ≤ tenths bytes (k + 1) := by
    by_contra hfew
    have := hscale (tenths bytes (k + 1)) 9 (by omega)
    omega
  have hthousand : tenths bytes (k + 1) ≤ 10000 := by
    by_contra hmany
    have := hscale 10001 (tenths bytes (k + 1)) (by omega)
    omega
  refine ⟨h, hless, habove, hbelow, hone, hthousand, ?_⟩
  constructor
  · intro heq
    rw [heq] at habove
    omega
  · intro hge
    by_contra hne
    have hfew := hscale (tenths bytes (k + 1)) 9999 (by omega)
    -- Nine hundred and ninety-nine units and nine tenths would be as near: the size is the
    -- threshold itself.
    have hat : bytes = threshold k := by omega
    exact hne (hat ▸ tenths_threshold hk)

/-!
## Reading the text

The text that is shown is read again by a reader of its own, so that the statement is about what it
says and not about how it is made.
-/

/-- Reads a number with one place, in tenths. -/
def readTenths? (number : List Char) : Option Nat :=
  match number.dropWhile (· != '.') with
  | [_, place] =>
    let whole := number.takeWhile (· != '.')
    if whole ≠ [] ∧ (whole ++ [place]).all Char.isDigit then
      some (Nat.ofDigitChars 10 (whole ++ [place]) 0)
    else none
  | _ => none

/-- Reads the text of a size: a number with one place in tenths, and the unit after a blank. -/
def read? (text : List Char) : Option (Nat × String) :=
  match text.dropWhile (· != ' ') with
  | _ :: unit => (readTenths? (text.takeWhile (· != ' '))).map (·, String.ofList unit)
  | _ => none

/-- No digit is a point or a blank. -/
theorem ne_of_mem_digits {c other : Char} {n : Nat} (h : c ∈ digits n)
    (hother : other.isDigit = false) : (c != other) = true := by
  have hdigit := isDigit_of_mem_digits h
  rw [bne_iff_ne]
  rintro rfl
  exact absurd hdigit (by rw [hother]; exact Bool.false_ne_true)

/-- One more digit makes ten times the number, and the digit. -/
theorem ofDigitChars_digits_append (n : Nat) {place : Nat} (h : place < 10) :
    Nat.ofDigitChars 10 (digits n ++ [Nat.digitChar place]) 0 = 10 * n + place := by
  have hvalue : ∀ d < 10, (Nat.digitChar d).toNat - '0'.toNat = d := by decide
  rw [Nat.ofDigitChars_append, ofDigitChars_digits, Nat.ofDigitChars_cons, hvalue place h]
  rfl

/-- A number written with one place is read back. -/
theorem readTenths?_oneDecimal (num den : Nat) :
    readTenths? (oneDecimal num den) = some (roundDiv (num * 10) den) := by
  unfold oneDecimal
  dsimp only
  generalize roundDiv (num * 10) den = n
  have hplace : digits (n % 10) = [Nat.digitChar (n % 10)] :=
    Nat.toDigits_of_lt_base (Nat.mod_lt n (by omega))
  have hwhole : ∀ c ∈ digits (n / 10), (c != '.') = true :=
    fun c hc => ne_of_mem_digits hc (by decide)
  have hdigits : (digits (n / 10) ++ digits (n % 10)).all Char.isDigit := by
    rw [List.all_append, Bool.and_eq_true, List.all_eq_true, List.all_eq_true]
    exact ⟨fun c hc => isDigit_of_mem_digits hc, fun c hc => isDigit_of_mem_digits hc⟩
  rw [hplace] at hdigits ⊢
  have hnonempty : digits (n / 10) ≠ [] := digits_ne_nil _
  -- The point is the only one, so the text is cut there.
  have hfront : (digits (n / 10) ++ ['.', Nat.digitChar (n % 10)]).takeWhile (· != '.') =
      digits (n / 10) := by
    rw [List.takeWhile_append_of_pos hwhole, List.takeWhile_cons_of_neg (by decide),
      List.append_nil]
  have hback : (digits (n / 10) ++ ['.', Nat.digitChar (n % 10)]).dropWhile (· != '.') =
      ['.', Nat.digitChar (n % 10)] := by
    rw [List.dropWhile_append_of_pos hwhole, List.dropWhile_cons_of_neg (by decide)]
  unfold readTenths?
  rw [hback]
  dsimp only
  rw [hfront, if_pos ⟨hnonempty, hdigits⟩, ofDigitChars_digits_append _ (Nat.mod_lt n (by omega)),
    Nat.div_add_mod]

/-- A number and a unit are read back from their text. -/
theorem read?_append (num den : Nat) (unit : String) :
    read? (oneDecimal num den ++ ' ' :: unit.toList) = some (roundDiv (num * 10) den, unit) := by
  have hnumber : ∀ c ∈ oneDecimal num den, (c != ' ') = true := by
    intro c hc
    unfold oneDecimal at hc
    dsimp only at hc
    rcases List.mem_append.1 hc with hwhole | hrest
    · exact ne_of_mem_digits hwhole (by decide)
    · rcases List.mem_cons.1 hrest with rfl | hplace
      · decide
      · exact ne_of_mem_digits hplace (by decide)
  unfold read?
  rw [List.dropWhile_append_of_pos hnumber, List.dropWhile_cons_of_neg (by decide),
    List.takeWhile_append_of_pos hnumber, List.takeWhile_cons_of_neg (by decide)]
  dsimp only
  rw [List.append_nil, readTenths?_oneDecimal, String.ofList_toList]
  rfl

/-- A size is written with the unit of its power of a thousand. -/
theorem format_eq (hlow : 1000 ≤ bytes) (hhigh : bytes < 10 ^ 15) (hk : k < units.length)
    (h : 1000 ^ (k + 1) ≤ bytes) (hless : bytes < 1000 ^ (k + 2)) :
    (format bytes).toList =
      oneDecimal (divided bytes (k + 1)).num (divided bytes (k + 1)).den ++
        ' ' :: units[k].toList := by
  rw [format, if_neg (by omega), scaled_units hlow hhigh hk h hless]
  simp only [toString, String.toList_append, String.toList_ofList, List.append_assoc]
  rfl

/-- A size from a kilobyte on is shown in the largest unit that it has at least one of, by the
number with one place that is nearest to it. The number is a thousand for the sizes from the
threshold on, and less for all others. -/
theorem format_shows (hlow : 1000 ≤ bytes) (hhigh : bytes < 10 ^ 15) :
    ∃ k tenths, ∃ hk : k < units.length,
      read? (format bytes).toList = some (tenths, units[k]) ∧ Shows bytes k tenths := by
  -- The unit is told by the leading power of a thousand.
  have hfirst : 1 ≤ Nat.log 1000 bytes := Nat.log_pos (by omega) hlow
  have hlast : Nat.log 1000 bytes < 5 :=
    Nat.log_lt_of_lt_pow (by omega) (hhigh.trans_le (by decide))
  have hle := Nat.pow_log_le_self 1000 (show bytes ≠ 0 by omega)
  have hlt := Nat.lt_pow_succ_log_self (show 1 < 1000 by omega) bytes
  obtain ⟨k, hk⟩ := Nat.exists_eq_add_of_le' hfirst
  rw [hk] at hle hlt
  have hunit : k < 4 := by omega
  refine ⟨k, tenths bytes (k + 1), hunit, ?_, shows_tenths hhigh hunit hle hlt⟩
  rw [format_eq hlow hhigh hunit hle hlt, read?_append]
  rfl

/-- The size of a letter of more than a megabyte. -/
theorem format_shows_megabytes : ∃ k tenths, ∃ hk : k < units.length,
    read? (format 1234567).toList = some (tenths, units[k]) ∧ Shows 1234567 k tenths :=
  format_shows (by decide) (by decide)

/-- A size just below a megabyte is shown as a thousand kilobytes. -/
theorem format_thousand_kilobytes : 1000 ≤ 999950 ∧ 999950 < 10 ^ 15 ∧
    read? (format 999950).toList = some (10000, "kB") := by
  decide +kernel

end MailTemplates.FileSize
