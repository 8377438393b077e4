import Mathlib.Data.List.Basic
import MailTemplates.Json.Printer
import MailTemplates.Proofs.Json.Numbers
import MailTemplates.Proofs.Number.Nearest
/-!
# The grammar of JSON

Which text stands for which value, said without the printer (`Spells`): the three literals, integers
in decimal, binary numbers by a decimal that is read as them, strings character by character with
their escapes, and arrays and objects as the texts of their parts with commas between them. Members
keep the order of the text.

`compact` prints a text that stands for its value, if the numbers in that have their usual form
(`spells_text`); so they have in all values that are read. The induction is on the value,
with one companion for the items of an array and one for the members of an object. The printer puts
the commas in front of all parts but the first, the grammar between the parts, so the two are
compared first (`itemsText_eq_intercalate`, `membersText_eq_intercalate`).

Main statement: `spells_text`.
-/

namespace MailTemplates.Json

open MailTemplates.Number (Binary64 SpellsDecimal SpellsNat digits jsonStyle spells_digits)

/-!
## Strings

There is more than one way to write a character inside quotes. The grammar has all of them; the
printer uses a short escape where there is one.
-/

/-- The hexadecimal digits, in the order of their values. -/
def hexDigits : List Char := "0123456789abcdef".toList

/-- Whether some text inside quotes stands for a character: for itself, if it is neither a control
character nor a quote nor a backslash, and else by a letter or by its code behind a backslash. -/
inductive SpellsChar : List Char → Char → Prop where
  | plain {c : Char} (hcontrol : 0x20 ≤ c.toNat) (hquote : c ≠ '"') (hbackslash : c ≠ '\\') :
      SpellsChar [c] c
  | quote : SpellsChar ['\\', '"'] '"'
  | backslash : SpellsChar ['\\', '\\'] '\\'
  | backspace : SpellsChar ['\\', 'b'] (Char.ofNat 0x08)
  | tab : SpellsChar ['\\', 't'] (Char.ofNat 0x09)
  | newline : SpellsChar ['\\', 'n'] (Char.ofNat 0x0a)
  | formFeed : SpellsChar ['\\', 'f'] (Char.ofNat 0x0c)
  | carriageReturn : SpellsChar ['\\', 'r'] (Char.ofNat 0x0d)
  | code {c high low : Char} {m n : Nat} (hhigh : hexDigits[m]? = some high)
      (hlow : hexDigits[n]? = some low) (hcode : c.toNat = 16 * m + n) :
      SpellsChar ['\\', 'u', '0', '0', high, low] c

/-- Whether a text in quotes stands for a string. -/
def SpellsString (cs : List Char) (s : String) : Prop :=
  ∃ parts : List (List Char × Char), (∀ p ∈ parts, SpellsChar p.1 p.2) ∧
    cs = '"' :: (parts.map Prod.fst).flatten ++ ['"'] ∧ s.toList = parts.map Prod.snd

theorem eq_ofNat_of_toNat {c : Char} {n : Nat} (h : c.toNat = n) : c = Char.ofNat n := by
  rw [← h, Char.ofNat_toNat]

/-- The digits that are written are those of the table. -/
theorem hexDigits_getElem? {n : Nat} (h : n < 16) :
    hexDigits[n]? = some (Nat.digitChar n) := by
  have hall : ∀ n < 16, hexDigits[n]? = some (Nat.digitChar n) := by decide
  exact hall n h

/-- Every character is written in one of the ways that stand for it. -/
theorem spells_escapeChar (c : Char) : SpellsChar (escapeChar c) c := by
  unfold escapeChar
  split_ifs with hquote hbackslash hbackspace htab hnewline hformFeed hreturn hcontrol
  · exact hquote ▸ .quote
  · exact hbackslash ▸ .backslash
  · exact eq_ofNat_of_toNat hbackspace ▸ .backspace
  · exact eq_ofNat_of_toNat htab ▸ .tab
  · exact eq_ofNat_of_toNat hnewline ▸ .newline
  · exact eq_ofNat_of_toNat hformFeed ▸ .formFeed
  · exact eq_ofNat_of_toNat hreturn ▸ .carriageReturn
  · refine .code (hexDigits_getElem? (by omega)) (hexDigits_getElem? (by omega)) ?_
    exact (Nat.div_add_mod c.toNat 16).symm
  · exact .plain (Nat.le_of_not_lt hcontrol) hquote hbackslash

/-- A string is written character by character, and so stands for itself. -/
theorem spells_quote (s : String) : SpellsString (quote s) s := by
  refine ⟨s.toList.map fun c => (escapeChar c, c), ?_, ?_, ?_⟩
  · intro p hp
    obtain ⟨c, -, rfl⟩ := List.mem_map.1 hp
    exact spells_escapeChar c
  · rw [List.map_map, ← List.flatMap_def]
    rfl
  · rw [List.map_map]
    exact (List.map_id _).symm

/-!
## Values

Blanks between the parts are left out of this grammar, as the printer writes none. So every text
that it accepts is one that any reader of JSON accepts, but not the other way round.
-/

/-- Whether a text stands for a value. For a binary number these are the decimals with its sign to
which no other is nearer. -/
inductive Spells : List Char → Json → Prop where
  | null : Spells "null".toList .null
  | true : Spells "true".toList (.bool true)
  | false : Spells "false".toList (.bool false)
  | natural {ds : List Char} {n : Nat} (h : SpellsNat ds n) :
      Spells ds (.number (.integer n))
  | negative {ds : List Char} {n : Nat} (h : SpellsNat ds n) (hpos : 0 < n) :
      Spells ('-' :: ds) (.number (.integer (-n)))
  | float {ds : List Char} {q : ℚ} {x : Binary64} (h : SpellsDecimal ds q) (hx : x.IsNearest q) :
      Spells (if x.negative then '-' :: ds else ds) (.number (.float x))
  | string {cs : List Char} {s : String} (h : SpellsString cs s) : Spells cs (.string s)
  | array (parts : List (List Char × Json)) (h : ∀ p ∈ parts, Spells p.1 p.2) :
      Spells ('[' :: [','].intercalate (parts.map Prod.fst) ++ [']']) (.array (parts.map Prod.snd))
  | object (parts : List ((List Char × String) × (List Char × Json)))
      (hkey : ∀ p ∈ parts, SpellsString p.1.1 p.1.2) (hvalue : ∀ p ∈ parts, Spells p.2.1 p.2.2) :
      Spells ('{' :: [','].intercalate (parts.map fun p => p.1.1 ++ ':' :: p.2.1) ++ ['}'])
        (.object (parts.map fun p => (p.1.2, p.2.2)))

/-- The items of an array are printed with commas between them. -/
theorem itemsText_eq_intercalate (items : List Json) :
    itemsText items = [','].intercalate (items.map text) := by
  induction items with
  | nil => rfl
  | cons v items ih =>
    cases items with
    | nil =>
      rw [List.map_singleton, List.intercalate_singleton]
      rfl
    | cons w items =>
      rw [List.map_cons, List.map_cons, List.intercalate_cons_cons, ← List.map_cons, ← ih]
      simp [itemsText]

/-- The members of an object are printed with commas between them. -/
theorem membersText_eq_intercalate (members : Members) :
    membersText members =
      [','].intercalate (members.map fun m => quote m.1 ++ ':' :: text m.2) := by
  induction members with
  | nil => rfl
  | cons m members ih =>
    cases members with
    | nil =>
      rw [List.map_singleton, List.intercalate_singleton]
      rfl
    | cons n members =>
      rw [List.map_cons, List.map_cons, List.intercalate_cons_cons,
        ← List.map_cons (f := fun m : String × Json => quote m.1 ++ ':' :: text m.2), ← ih]
      simp [membersText]

/-- An integer is written with its sign in front of its digits. -/
theorem spells_integer (n : Int) : Spells (integerText n) (.number (.integer n)) := by
  unfold integerText
  split_ifs with hneg
  · have h := Spells.negative (spells_digits n.natAbs) (Int.natAbs_pos.2 (Int.ne_of_lt hneg))
    rwa [Int.ofNat_natAbs_of_nonpos (Int.le_of_lt hneg), Int.neg_neg] at h
  · have h := Spells.natural (spells_digits n.natAbs)
    rwa [Int.natAbs_of_nonneg (Int.not_lt.1 hneg)] at h

/-- A binary number is written with its sign in front of its shortest decimal, to which it is the
nearest. -/
theorem spells_float {x : Binary64} (hx : x.Proper) : Spells x.toJsonText (.number (.float x)) := by
  have h := Spells.float (jsonStyle.spells_write x.shortest) hx.shortest_isNearest
  unfold Binary64.toJsonText
  split_ifs at h ⊢
  · exact h
  · exact h

mutual
/-- What is printed for a value stands for it. -/
theorem spells_text : ∀ {v : Json}, v.Proper → Spells v.text v
  | .null, _ => .null
  | .bool true, _ => .true
  | .bool false, _ => .false
  | .number _, .number (.integer n) => spells_integer n
  | .number _, .number (.float hx) => spells_float hx
  | .string s, _ => .string (spells_quote s)
  | .array items, .array hitems => by
    have h := Spells.array (items.map fun v => (v.text, v)) fun p hp => by
      obtain ⟨v, hv, rfl⟩ := List.mem_map.1 hp
      exact spells_items hitems v hv
    rw [List.map_map, List.map_map] at h
    rw [text, itemsText_eq_intercalate]
    simpa [Function.comp_def] using h
  | .object members, .object hmembers => by
    have h := Spells.object (members.map fun m => ((quote m.1, m.1), (m.2.text, m.2)))
      (fun p hp => by
        obtain ⟨m, -, rfl⟩ := List.mem_map.1 hp
        exact spells_quote m.1)
      (fun p hp => by
        obtain ⟨m, hm, rfl⟩ := List.mem_map.1 hp
        exact spells_members hmembers m hm)
    rw [List.map_map, List.map_map] at h
    rw [text, membersText_eq_intercalate]
    simpa [Function.comp_def] using h

/-- So it does for each item of an array. -/
theorem spells_items : ∀ {items : List Json}, (∀ v ∈ items, v.Proper) →
    ∀ v ∈ items, Spells v.text v
  | [], _ => List.forall_mem_nil _
  | _ :: _, h =>
    have ⟨hfirst, hrest⟩ := List.forall_mem_cons.1 h
    List.forall_mem_cons.2 ⟨spells_text hfirst, spells_items hrest⟩

/-- And for each member of an object. -/
theorem spells_members : ∀ {members : Members}, (∀ m ∈ members, m.2.Proper) →
    ∀ m ∈ members, Spells m.2.text m.2
  | [], _ => List.forall_mem_nil _
  | (_, _) :: _, h =>
    have ⟨hfirst, hrest⟩ := List.forall_mem_cons.1 h
    List.forall_mem_cons.2 ⟨spells_text hfirst, spells_members hrest⟩
end

/-- The compact text of a value stands for it. -/
theorem spells_compact {v : Json} (h : v.Proper) : Spells v.compact.toList v := by
  rw [compact, String.toList_ofList]
  exact spells_text h

end MailTemplates.Json
