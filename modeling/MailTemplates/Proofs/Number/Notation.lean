import Mathlib.Algebra.Order.Field.Power
import Mathlib.Data.List.Basic
import Mathlib.Data.Rat.Cast.Order
import Mathlib.Tactic.Ring
import MailTemplates.Number.Decimal
/-!
# Decimals as they are written

Which text is which number, said without the functions that write them: a natural number is its
digits (`SpellsNat`), and a decimal is digits, a point with more digits behind it or an exponent, or
both (`SpellsDecimal`). Its value is that of all digits read as one number, moved by the exponent
and by the number of digits behind the point.

Whatever the style, what is written for a decimal has its value (`DecimalStyle.spells_write`). The
cases are those of the code: zeros behind the digits, a point between them, zeros in front of them,
or an exponent.

Main statement: `DecimalStyle.spells_write`.
-/

namespace MailTemplates.Number

/-!
## Natural numbers

A number is written by its digits in base ten, and the front of these is a number again.
-/

/-- Whether a text is a natural number in decimal: digits with that value, of which the first is no
zero unless it is the only one. -/
structure SpellsNat (ds : List Char) (n : Nat) : Prop where
  nonempty : ds ≠ []
  digit : ∀ c ∈ ds, c.isDigit
  leading : ds.head? = some '0' → ds = ['0']
  value : Nat.ofDigitChars 10 ds 0 = n

theorem isDigit_of_mem_digits {c : Char} {n : Nat} (h : c ∈ digits n) : c.isDigit :=
  Nat.isDigit_of_mem_toDigits (by omega) (by omega) h

theorem digits_ne_nil (n : Nat) : digits n ≠ [] := Nat.toDigits_ne_nil

/-- Only zero is written with a zero in front. -/
theorem eq_zero_of_head?_digits (n : Nat) : (digits n).head? = some '0' → n = 0 := by
  induction n using Nat.strongRecOn with
  | ind n ih =>
    intro h
    rcases Nat.lt_or_ge n 10 with hlt | hge
    · rw [digits, Nat.toDigits_of_lt_base hlt, List.head?_cons, Option.some_inj,
        Nat.digitChar_eq_zero] at h
      exact h
    · -- The first digit is that of the number without its last digit.
      rw [digits, Nat.toDigits_of_base_le (by omega) hge, List.head?_append_of_ne_nil _
        Nat.toDigits_ne_nil] at h
      have := ih (n / 10) (by omega) h
      omega

/-- A number is written by its digits. -/
theorem spells_digits (n : Nat) : SpellsNat (digits n) n where
  nonempty := Nat.toDigits_ne_nil
  digit _ h := isDigit_of_mem_digits h
  leading h := by
    rw [eq_zero_of_head?_digits n h]
    rfl
  value := Nat.ofDigitChars_ten_toDigits

/-- The front of the digits of a number other than zero is a number. -/
theorem spells_take {n k : Nat} (hn : n ≠ 0) (hk : 0 < k) :
    SpellsNat ((digits n).take k) (Nat.ofDigitChars 10 ((digits n).take k) 0) where
  nonempty := by
    rw [ne_eq, List.take_eq_nil_iff, not_or]
    exact ⟨hk.ne', Nat.toDigits_ne_nil⟩
  digit _ h := isDigit_of_mem_digits (List.mem_of_mem_take h)
  leading h := by
    rw [List.head?_take, if_neg hk.ne'] at h
    exact absurd (eq_zero_of_head?_digits n h) hn
  value := rfl

/-!
## Decimals

The value of a text is read off its parts. Where zeros or a point are put depends on the exponent,
and there is one lemma for each of the cases.
-/

/-- The rational that a decimal is. -/
def Decimal.value (d : Decimal) : ℚ := d.coefficient * 10 ^ d.exponent

/-- Whether a text is an exponent, and which; no text stands for zero. -/
inductive SpellsExponent : List Char → Int → Prop where
  | none : SpellsExponent [] 0
  | up {ds : List Char} {n : Nat} (h : SpellsNat ds n) : SpellsExponent ('e' :: '+' :: ds) n
  | down {ds : List Char} {n : Nat} (h : SpellsNat ds n) : SpellsExponent ('e' :: '-' :: ds) (-n)

/-- Digits behind a point, which is only written if there are any. -/
def pointed : List Char → List Char
  | [] => []
  | d :: ds => '.' :: d :: ds

/-- Whether a text is a decimal, and of which value. It has a fraction or an exponent, so that it is
told from an integer. -/
inductive SpellsDecimal : List Char → ℚ → Prop where
  | intro {whole fraction exponent : List Char} {n : Nat} {e : Int} (hwhole : SpellsNat whole n)
      (hfraction : ∀ c ∈ fraction, c.isDigit) (hexponent : SpellsExponent exponent e)
      (hsome : fraction ≠ [] ∨ exponent ≠ []) :
      SpellsDecimal (whole ++ pointed fraction ++ exponent)
        (Nat.ofDigitChars 10 (whole ++ fraction) 0 * 10 ^ (e - fraction.length))

/-- A decimal without an exponent. -/
theorem SpellsDecimal.of_fraction {whole fraction : List Char} {n : Nat} {q : ℚ}
    (hwhole : SpellsNat whole n) (hfraction : ∀ c ∈ fraction, c.isDigit) (hsome : fraction ≠ [])
    (hvalue : q = Nat.ofDigitChars 10 (whole ++ fraction) 0 * 10 ^ (-(fraction.length : Int))) :
    SpellsDecimal (whole ++ '.' :: fraction) q := by
  have h := SpellsDecimal.intro hwhole hfraction .none (.inl hsome)
  rw [List.append_nil, zero_sub, ← hvalue] at h
  cases fraction with
  | nil => exact absurd rfl hsome
  | cons d ds => exact h

theorem isDigit_of_mem_zeros {c : Char} {n : Nat} (h : c ∈ zeros n) : c.isDigit := by
  rw [List.eq_of_mem_replicate h]
  rfl

/-- The digits of a number are read as it. -/
theorem ofDigitChars_digits (n : Nat) : Nat.ofDigitChars 10 (digits n) 0 = n :=
  Nat.ofDigitChars_ten_toDigits

/-- Zeros behind the digits of a number. -/
theorem spells_digits_zeros {n : Nat} (hn : n ≠ 0) (k : Nat) :
    SpellsNat (digits n ++ zeros k) (n * 10 ^ k) where
  nonempty h := Nat.toDigits_ne_nil (List.append_eq_nil_iff.1 h).1
  digit c h := (List.mem_append.1 h).elim isDigit_of_mem_digits isDigit_of_mem_zeros
  leading h := by
    rw [List.head?_append_of_ne_nil _ (digits_ne_nil n)] at h
    exact absurd (eq_zero_of_head?_digits n h) hn
  value := by
    rw [Nat.ofDigitChars_append, ofDigitChars_digits, zeros, Nat.ofDigitChars_replicate_zero,
      Nat.mul_comm]

/-- A zero behind other digits. -/
theorem ofDigitChars_zero (n : Nat) : Nat.ofDigitChars 10 ['0'] n = 10 * n :=
  Nat.ofDigitChars_replicate_zero (n := 1)

theorem spells_zero : SpellsNat ['0'] 0 := spells_digits 0

section Write

variable {d : Decimal}

/-- Zero, with a zero behind the point. -/
theorem spells_nothing (hd : d.coefficient = 0) : SpellsDecimal ['0', '.', '0'] d.value := by
  refine .of_fraction spells_zero (List.forall_mem_singleton.2 rfl) (List.cons_ne_nil '0' []) ?_
  have hdigits : Nat.ofDigitChars 10 (['0'] ++ ['0']) 0 = 0 := rfl
  rw [Decimal.value, hd, hdigits, Nat.cast_zero, zero_mul, zero_mul]

/-- Digits, zeros, and a zero behind the point. -/
theorem spells_zeros_behind (hd : d.coefficient ≠ 0) (h : 0 ≤ d.exponent) :
    SpellsDecimal (digits d.coefficient ++ zeros d.exponent.toNat ++ ['.', '0']) d.value := by
  have hwhole := spells_digits_zeros hd d.exponent.toNat
  refine .of_fraction hwhole (List.forall_mem_singleton.2 rfl) (List.cons_ne_nil '0' []) ?_
  have hexponent : (10 : ℚ) ^ d.exponent = 10 ^ d.exponent.toNat := by
    rw [← zpow_natCast, Int.toNat_of_nonneg h]
  rw [Nat.ofDigitChars_append, hwhole.value, ofDigitChars_zero, Decimal.value, hexponent,
    List.length_singleton, Nat.cast_one, zpow_neg_one]
  push_cast
  ring

/-- A point between the digits. -/
theorem spells_point_between (hd : d.coefficient ≠ 0) (h : d.exponent < 0) {k : Nat} (hk : 0 < k)
    (hpoint : (k : Int) = (digits d.coefficient).length + d.exponent) :
    SpellsDecimal ((digits d.coefficient).take k ++ '.' :: (digits d.coefficient).drop k)
      d.value := by
  have hlength : ((digits d.coefficient).drop k).length = (digits d.coefficient).length - k :=
    List.length_drop
  refine .of_fraction (spells_take hd hk)
    (fun c hc => isDigit_of_mem_digits (List.mem_of_mem_drop hc)) ?_ ?_
  · rw [← List.length_pos_iff]
    omega
  · have hexponent : -(((digits d.coefficient).drop k).length : Int) = d.exponent := by omega
    rw [List.take_append_drop, ofDigitChars_digits, hexponent, Decimal.value]

/-- Zeros between the point and the digits. -/
theorem spells_zeros_in_front {k : Nat}
    (hpoint : -(k : Int) = (digits d.coefficient).length + d.exponent) :
    SpellsDecimal ('0' :: '.' :: (zeros k ++ digits d.coefficient)) d.value := by
  refine .of_fraction spells_zero (fun c hc =>
    (List.mem_append.1 hc).elim isDigit_of_mem_zeros isDigit_of_mem_digits) ?_ ?_
  · exact fun hnil => digits_ne_nil _ (List.append_eq_nil_iff.1 hnil).2
  · have hexponent : -((zeros k ++ digits d.coefficient).length : Int) = d.exponent := by
      rw [List.length_append, zeros, List.length_replicate]
      push_cast
      omega
    have hfront : Nat.ofDigitChars 10 ('0' :: zeros k) 0 = 0 := by
      have hzeros : '0' :: zeros k = List.replicate (k + 1) '0' := rfl
      rw [hzeros, Nat.ofDigitChars_replicate_zero, Nat.mul_zero]
    rw [hexponent, List.singleton_append, ← List.cons_append, Nat.ofDigitChars_append, hfront,
      ofDigitChars_digits, Decimal.value]

/-- An exponent is written with its sign, also if it is not negative. -/
theorem spells_sign (e : Int) :
    SpellsExponent ('e' :: (if e < 0 then '-' else '+') :: digits e.natAbs) e := by
  split_ifs with hneg
  · have h := SpellsExponent.down (spells_digits e.natAbs)
    rwa [Int.ofNat_natAbs_of_nonpos hneg.le, neg_neg] at h
  · have h := SpellsExponent.up (spells_digits e.natAbs)
    rwa [Int.natAbs_of_nonneg (not_lt.1 hneg)] at h

/-- One digit, a fraction if there are more, and an exponent. -/
theorem spells_exponent (hd : d.coefficient ≠ 0) {e : Int}
    (he : e = (digits d.coefficient).length + d.exponent - 1) :
    SpellsDecimal ((digits d.coefficient).take 1 ++ pointed ((digits d.coefficient).drop 1) ++
      'e' :: (if e < 0 then '-' else '+') :: digits e.natAbs) d.value := by
  have hfraction : ∀ c ∈ (digits d.coefficient).drop 1, c.isDigit :=
    fun c hc => isDigit_of_mem_digits (List.mem_of_mem_drop hc)
  have h := SpellsDecimal.intro (spells_take hd one_pos) hfraction (spells_sign e)
    (.inr (List.cons_ne_nil _ _))
  have hpos : 0 < (digits d.coefficient).length := List.length_pos_iff.2 (digits_ne_nil _)
  have hmoved : e - (((digits d.coefficient).drop 1).length : Int) = d.exponent := by
    rw [List.length_drop]
    omega
  rwa [List.take_append_drop, ofDigitChars_digits, hmoved, ← Decimal.value] at h

end Write

/-- What is written for a decimal has its value, whatever the style. -/
theorem DecimalStyle.spells_write (style : DecimalStyle) (d : Decimal) :
    SpellsDecimal (style.write d) d.value := by
  unfold write
  dsimp only
  by_cases hzero : d.coefficient = 0
  · rw [if_pos hzero]
    exact spells_nothing hzero
  · rw [if_neg hzero]
    split
    case isTrue =>
      split_ifs with hwhole hbetween
      · exact spells_zeros_behind hzero hwhole
      · exact spells_point_between hzero (not_le.1 hwhole) (by omega) (by omega)
      · exact spells_zeros_in_front (by omega)
    case isFalse =>
      have h := spells_exponent hzero rfl
      -- Of the digits behind the first one, `pointed` says what the match says.
      cases hmore : (digits d.coefficient).drop 1 <;> rwa [hmore] at h

end MailTemplates.Number
