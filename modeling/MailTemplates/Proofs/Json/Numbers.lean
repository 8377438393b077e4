import MailTemplates.Proofs.Json.Ordered
import MailTemplates.Proofs.Number.Rounding
/-!
# Numbers that are read

A number with a fraction or an exponent is read as a binary number in its usual form
(`Number.Binary64.Proper`): the significand is rounded to one, and so is each product and quotient
by a power of ten (`Cursor.proper_of_scale`). So all numbers in a value that is read have this form
(`proper_of_parse`).

Main statement: `proper_of_parse`.
-/

namespace MailTemplates

open Number (Binary64)

/-- Whether a number is an integer or a binary number in its usual form. -/
inductive JsonNumber.Proper : JsonNumber → Prop where
  | integer (n : Int) : Proper (.integer n)
  | float {x : Binary64} (h : x.Proper) : Proper (.float x)

namespace Json

/-- Whether all numbers in a value have their usual form. -/
inductive Proper : Json → Prop where
  | null : Proper .null
  | bool (b : Bool) : Proper (.bool b)
  | number {n : JsonNumber} (h : n.Proper) : Proper (.number n)
  | string (s : String) : Proper (.string s)
  | array {items : List Json} (h : ∀ v ∈ items, Proper v) : Proper (.array items)
  | object {members : Members} (h : ∀ m ∈ members, Proper m.2) : Proper (.object members)

/-- What a value holds under a key has its numbers in their usual form if the value has. -/
theorem proper_of_get? {v w : Json} {key : String} (h : v.Proper) (hget : v.get? key = some w) :
    w.Proper := by
  cases h with
  | object hmembers => exact hmembers (key, w) (Members.mem_of_get? hget)
  | _ => nomatch hget

namespace Cursor

variable {negative : Bool} {c c' : Cursor} {n : JsonNumber}

/-- The powers of ten that numbers are divided by are none of them zero. -/
theorem powerOfTen_pos {k : Nat} (h : k ≤ 308) : 0 < (Binary64.powerOfTen k).num := by
  have hall : (List.range 309).all fun k => 0 < (Binary64.powerOfTen k).num := by decide +kernel
  exact of_decide_eq_true (List.all_eq_true.1 hall k (List.mem_range.2 (Nat.lt_succ_of_le h)))

/-- Scaling multiplies or divides, and rounds each time; so it ends with a number in its usual form.
The induction is on the steps of `10 ^ 308`. -/
theorem proper_of_scale {fuel : Nat} {f g : Binary64} {e : Int} (hf : f.Proper)
    (h : scale fuel f e = some g) : g.Proper := by
  induction fuel generalizing f e with
  | zero =>
    cases h
    exact hf
  | succ fuel ih =>
    unfold scale at h
    split_ifs at h with hsmall hup hzero
    · exact Binary64.proper_of_mul? h
    · exact Binary64.proper_of_div? (powerOfTen_pos hsmall) h
    · cases h
      exact hf
    · split at h
      · next hdiv => exact ih (Binary64.proper_of_div? (powerOfTen_pos le_rfl) hdiv) h
      · nomatch h

/-- The sign is put on a number that was scaled. -/
theorem proper_of_floatOf {significand : Nat} {exponent : Int}
    (h : floatOf negative significand exponent c = .ok (n, c')) : n.Proper := by
  unfold floatOf at h
  split at h
  · next hscale =>
    have hx := proper_of_scale (Binary64.proper_ofNat _) hscale
    cases h
    split_ifs
    · exact .float hx.neg
    · exact .float hx
  · nomatch h

/-- A number with an exponent is scaled, or is zero if the exponent is too low for anything else. -/
theorem proper_of_exponentPart {significand : Nat} {before : Int}
    (h : exponentPart negative significand before c = .ok (n, c')) : n.Proper := by
  unfold exponentPart at h
  dsimp only at h
  split at h
  · nomatch h
  · nomatch h
  · split at h
    · exact proper_of_floatOf h
    · split_ifs at h
      cases h
      exact .float (Binary64.proper_zero _)

/-- A number with a fraction goes on to its exponent or is scaled. -/
theorem proper_of_fractionPart {significand : Nat} {before : Int}
    (h : fractionPart negative significand before c = .ok (n, c')) : n.Proper := by
  unfold fractionPart at h
  dsimp only at h
  split at h
  · nomatch h
  · nomatch h
  · split_ifs at h
    · exact proper_of_exponentPart h
    · exact proper_of_floatOf h

/-- A number that is read is in its usual form, whichever way it goes on. -/
theorem proper_of_number (h : c.number negative = .ok (n, c')) : n.Proper := by
  unfold number at h
  dsimp only at h
  split at h
  · nomatch h
  · nomatch h
  · split at h
    · nomatch h
    split at h
    · exact proper_of_fractionPart h
    · split_ifs at h
      · exact proper_of_exponentPart h
      · exact proper_of_floatOf h
      · cases h
        exact .integer _
      · cases h
        exact .float (Binary64.proper_ofNat _).neg
      · cases h
        exact .integer _

end Cursor

/-- All numbers in a value that is read are in their usual form. -/
theorem proper_of_parse {s : String} {v : Json} (h : parse s = .ok v) : v.Proper :=
  Cursor.Inherited.parse
    { null := .null, bool := .bool, number := fun h => .number (Cursor.proper_of_number h),
      string := .string, array := .array, object := fun _ => .object } h

end Json

end MailTemplates
