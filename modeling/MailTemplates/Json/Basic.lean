import MailTemplates.Number.Decimal
/-!
# JSON values

Values, objects as key-ordered lists of members, look-up and overlay. Numbers remember whether they
were written as an integer: `1` and `1.0` are different values.

Main statements: `get?_insert` (an inserted member is found and no other changes) and decidable
equality of values.
-/

namespace MailTemplates

open MailTemplates.Number (Binary64)

/-- A number as it was written: an integer that fits 64 bits, or a binary number. -/
inductive JsonNumber where
  | integer (n : Int)
  | float (x : Binary64)
deriving DecidableEq, Repr

/-- A JSON value. The members of an object are in ascending order of their keys, each key once. -/
inductive Json where
  | null
  | bool (b : Bool)
  | number (n : JsonNumber)
  | string (s : String)
  | array (items : List Json)
  | object (members : List (String × Json))
deriving Repr

/-- The members of an object. -/
abbrev Members := List (String × Json)

namespace Json

/-! ## Equality -/

mutual
/-- Structural equality. -/
def beq : Json → Json → Bool
  | null, null => true
  | bool a, bool b => a == b
  | number a, number b => a == b
  | string a, string b => a == b
  | array a, array b => beqItems a b
  | object a, object b => beqMembers a b
  | _, _ => false

/-- `beq` item by item. -/
def beqItems : List Json → List Json → Bool
  | [], [] => true
  | a :: as, b :: bs => beq a b && beqItems as bs
  | _, _ => false

/-- `beq` member by member. -/
def beqMembers : Members → Members → Bool
  | [], [] => true
  | (k, a) :: as, (l, b) :: bs => k == l && beq a b && beqMembers as bs
  | _, _ => false
end

mutual
/-- Every value equals itself, as do its items and members. -/
theorem beq_refl : ∀ a : Json, beq a a = true
  | null => rfl
  | bool b => by simp [beq]
  | number n => by simp [beq]
  | string s => by simp [beq]
  | array as => by simpa [beq] using beqItems_refl as
  | object ms => by simpa [beq] using beqMembers_refl ms

theorem beqItems_refl : ∀ as : List Json, beqItems as as = true
  | [] => rfl
  | a :: as => by simp [beqItems, beq_refl a, beqItems_refl as]

theorem beqMembers_refl : ∀ ms : Members, beqMembers ms ms = true
  | [] => rfl
  | (k, a) :: ms => by simp [beqMembers, beq_refl a, beqMembers_refl ms]
end

mutual
/-- Values that are found equal are the same, part by part. -/
theorem eq_of_beq : ∀ {a b : Json}, beq a b = true → a = b
  | null, b, h => by cases b <;> simp [beq] at h ⊢
  | bool _, b, h => by cases b <;> simp [beq] at h ⊢; exact h
  | number _, b, h => by cases b <;> simp [beq] at h ⊢; exact h
  | string _, b, h => by cases b <;> simp [beq] at h ⊢; exact h
  | array as, b, h => by
    cases b <;> simp [beq] at h ⊢
    exact eq_of_beqItems h
  | object ms, b, h => by
    cases b <;> simp [beq] at h ⊢
    exact eq_of_beqMembers h

theorem eq_of_beqItems : ∀ {as bs : List Json}, beqItems as bs = true → as = bs
  | [], bs, h => by cases bs <;> simp [beqItems] at h ⊢
  | a :: as, bs, h => by
    cases bs with
    | nil => simp [beqItems] at h
    | cons b bs =>
      simp only [beqItems, Bool.and_eq_true] at h
      rw [eq_of_beq h.1, eq_of_beqItems h.2]

theorem eq_of_beqMembers : ∀ {as bs : Members}, beqMembers as bs = true → as = bs
  | [], bs, h => by cases bs <;> simp [beqMembers] at h ⊢
  | (k, a) :: as, bs, h => by
    cases bs with
    | nil => simp [beqMembers] at h
    | cons b bs =>
      obtain ⟨l, b⟩ := b
      simp only [beqMembers, Bool.and_eq_true, beq_iff_eq] at h
      rw [h.1.1, eq_of_beq h.1.2, eq_of_beqMembers h.2]
end

instance : DecidableEq Json := fun a b =>
  decidable_of_iff (beq a b = true) ⟨eq_of_beq, fun h => h ▸ beq_refl a⟩

end Json

/-- Equality of numbers by value, an integer and a float being different. -/
def JsonNumber.same : JsonNumber → JsonNumber → Bool
  | .integer a, .integer b => a == b
  | .float a, .float b => a.sameValue b
  | _, _ => false

namespace Json

mutual
/-- Equality in which the two zeros of the binary numbers are the same. -/
def same : Json → Json → Bool
  | null, null => true
  | bool a, bool b => a == b
  | number a, number b => a.same b
  | string a, string b => a == b
  | array a, array b => sameItems a b
  | object a, object b => sameMembers a b
  | _, _ => false

/-- `same` item by item. -/
def sameItems : List Json → List Json → Bool
  | [], [] => true
  | a :: as, b :: bs => same a b && sameItems as bs
  | _, _ => false

/-- `same` member by member. -/
def sameMembers : Members → Members → Bool
  | [], [] => true
  | (k, a) :: as, (l, b) :: bs => k == l && same a b && sameMembers as bs
  | _, _ => false
end

end Json

/-! ## Members -/

namespace Members

/-- The value of a key. -/
def get? : Members → String → Option Json
  | [], _ => none
  | (k, v) :: ms, key => if k = key then some v else get? ms key

/-- Sets the value of a key, keeping the order of the keys. -/
def insert : Members → String → Json → Members
  | [], key, value => [(key, value)]
  | (k, v) :: ms, key, value =>
    if key = k then (key, value) :: ms
    else if key < k then (key, value) :: (k, v) :: ms
    else (k, v) :: insert ms key value

/-- Members set one after another, the last value of a key winning. -/
def ofList (entries : List (String × Json)) : Members :=
  entries.foldl (fun ms e => ms.insert e.1 e.2) []

/-- The members of `base` with those of `top` laid over them. -/
def overlay (base top : Members) : Members :=
  top.foldl (fun ms e => ms.insert e.1 e.2) base

/-- A member that was set is found under its key, and no other changes. -/
theorem get?_insert (ms : Members) (key k : String) (v : Json) :
    (ms.insert key v).get? k = if key = k then some v else ms.get? k := by
  induction ms with
  | nil => simp [insert, get?]
  | cons m ms ih =>
    obtain ⟨k', v'⟩ := m
    unfold insert
    split
    · next h => subst h; by_cases hk : key = k <;> simp [get?, hk]
    · split
      · simp [get?]
      · next h _ =>
        simp only [get?, ih]
        by_cases hk : k' = k
        · subst hk; simp [h]
        · simp [hk]

end Members

namespace Json

/-- The value of a key of an object; any other value has none. -/
def get? : Json → String → Option Json
  | object ms, key => Members.get? ms key
  | _, _ => none

end Json

end MailTemplates
