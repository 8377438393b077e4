import Mathlib.Data.List.Basic
import MailTemplates.Proofs.Text.Cutting
import MailTemplates.Text.Entities
/-!
# Texts without markup

A text is inert if it has none of the characters that begin and end tags and quoted values, and no
`&` that does not begin an entity (`Inert`). An escaped text is inert, and there are no other inert
texts: each of them is what its entities are read back to, escaped (`exists_escape_eq_iff`).

Reading back is a cut at the entities, from left to right, where each piece gives one character
(`unescape_eq_iff`). What was read back is not read again, so that `&amp;lt;` is `&lt;` and not `<`.
An `&` that is escaped always has its own entity behind it, whatever the text says there; so texts
that differ are escaped differently (`escape_injective`).
-/

namespace MailTemplates.Text.Entities

variable {m cs text : List Char} {c : Char}

/-- What is written for a character that is escaped. -/
inductive IsEntity : List Char → Char → Prop where
  | amp : IsEntity ['&', 'a', 'm', 'p', ';'] '&'
  | lt : IsEntity ['&', 'l', 't', ';'] '<'
  | gt : IsEntity ['&', 'g', 't', ';'] '>'
  | quot : IsEntity ['&', 'q', 'u', 'o', 't', ';'] '"'
  | apos : IsEntity ['&', '#', '3', '9', ';'] '\''

/-- The characters that begin and end tags and quoted values. -/
def isMarkup (c : Char) : Bool := c == '<' || c == '>' || c == '"' || c == '\''

/-- A text without markup: no character of it is markup, and each `&` in it begins an entity. -/
structure Inert (text : List Char) : Prop where
  no_markup : ∀ c ∈ text, isMarkup c = false
  amp_begins : ∀ rest, '&' :: rest <:+ text → ∃ m c, IsEntity m c ∧ m <+: '&' :: rest

/-! ## Single characters -/

/-- The entity of a character is the one in the list. -/
theorem IsEntity.entity_eq (h : IsEntity m c) : entity c = m := by
  cases h <;> rfl

/-- A character that is neither markup nor an ampersand stands for itself. -/
theorem entity_of_plain (hmarkup : isMarkup c = false) (hamp : c ≠ '&') : entity c = [c] := by
  unfold entity
  split
  · exact absurd rfl hamp
  · nomatch hmarkup
  · nomatch hmarkup
  · nomatch hmarkup
  · nomatch hmarkup
  · rfl

/-- A character has an entity, or it is written as it is. -/
theorem isEntity_or_plain (c : Char) :
    IsEntity (entity c) c ∨ entity c = [c] ∧ isMarkup c = false ∧ c ≠ '&' := by
  unfold entity
  split
  · exact .inl .amp
  · exact .inl .lt
  · exact .inl .gt
  · exact .inl .quot
  · exact .inl .apos
  · next hamp hlt hgt hquot hapos =>
    have hmarkup : isMarkup c = false := by
      simp only [isMarkup, Bool.or_eq_false_iff, beq_eq_false_iff_ne]
      exact ⟨⟨⟨hlt, hgt⟩, hquot⟩, hapos⟩
    exact .inr ⟨rfl, hmarkup, hamp⟩

/-! ## Inert texts -/

theorem inert_nil : Inert [] where
  no_markup := nofun
  amp_begins := by
    intro rest h
    exact absurd (List.suffix_nil.1 h) (List.cons_ne_nil _ _)

/-- A text is inert if its first character is, and the rest; an ampersand has to begin an entity. -/
theorem inert_cons_iff : Inert (c :: text) ↔
    isMarkup c = false ∧ (c = '&' → ∃ m a, IsEntity m a ∧ m <+: c :: text) ∧ Inert text := by
  constructor
  · rintro ⟨hmarkup, hamp⟩
    rw [List.forall_mem_cons] at hmarkup
    refine ⟨hmarkup.1, ?_, hmarkup.2, fun rest hrest => hamp rest ?_⟩
    · rintro rfl
      exact hamp text List.suffix_rfl
    · exact hrest.trans (List.suffix_cons c text)
  · rintro ⟨hc, hfront, htext⟩
    refine ⟨List.forall_mem_cons.2 ⟨hc, htext.no_markup⟩, fun rest hrest => ?_⟩
    rcases List.suffix_cons_iff.1 hrest with hall | hsuffix
    · obtain ⟨rfl, rfl⟩ := List.cons.inj hall
      exact hfront rfl
    · exact htext.amp_begins rest hsuffix

/-- Only the first character of an entity needs what follows it. -/
theorem IsEntity.inert_append (h : IsEntity m c) (htext : Inert text) : Inert (m ++ text) := by
  have hfront : ∃ n a, IsEntity n a ∧ n <+: m ++ text := ⟨m, c, h, List.prefix_append m text⟩
  cases h <;> simpa [inert_cons_iff, isMarkup, htext] using hfront

/-- The end of an inert text is inert. -/
theorem Inert.of_append (h : Inert (m ++ text)) : Inert text where
  no_markup c hc := h.no_markup c (List.mem_append_right m hc)
  amp_begins rest hrest := h.amp_begins rest (hrest.trans (List.suffix_append m text))

/-- An inert text has no markup. -/
theorem Inert.filter_isMarkup (h : Inert text) : text.filter isMarkup = [] := by
  rw [List.filter_eq_nil_iff]
  intro c hc
  rw [h.no_markup c hc]
  exact Bool.false_ne_true

theorem escape_cons (c : Char) (cs : List Char) : escape (c :: cs) = entity c ++ escape cs :=
  List.flatMap_cons

/-- What is escaped is inert. -/
theorem inert_escape (cs : List Char) : Inert (escape cs) := by
  induction cs with
  | nil => exact inert_nil
  | cons c cs ih =>
    rw [escape_cons]
    rcases isEntity_or_plain c with hentity | ⟨hplain, hmarkup, hamp⟩
    · exact hentity.inert_append ih
    · rw [hplain, List.singleton_append]
      exact inert_cons_iff.2 ⟨hmarkup, fun h => absurd h hamp, ih⟩

/-! ## Reading back -/

/-- The character that a piece is read as. -/
def readAs : Piece Char → Char
  | .plain c => c
  | .token _ c => c

theorem IsEntity.ne_nil (h : IsEntity m c) : m ≠ [] := by
  cases h <;> nofun

/-- An entity at the front is read as its character. -/
theorem IsEntity.unescape_append (h : IsEntity m c) (cs : List Char) :
    unescape (m ++ cs) = c :: unescape cs := by
  cases h <;> rfl

/-- What begins no entity is read as it is. -/
theorem unescape_cons (h : ∀ m a, IsEntity m a → ¬m <+: c :: cs) :
    unescape (c :: cs) = c :: unescape cs := by
  -- The other equations are for texts with an entity in front.
  rw [unescape]
  · rintro rest rfl rfl
    exact h _ _ .amp ⟨rest, rfl⟩
  · rintro rest rfl rfl
    exact h _ _ .lt ⟨rest, rfl⟩
  · rintro rest rfl rfl
    exact h _ _ .gt ⟨rest, rfl⟩
  · rintro rest rfl rfl
    exact h _ _ .quot ⟨rest, rfl⟩
  · rintro rest rfl rfl
    exact h _ _ .apos ⟨rest, rfl⟩

/-- So unescaping reads the pieces of a cut one by one. -/
theorem unescape_of_cut {ps : List (Piece Char)} (h : Cut IsEntity text ps) :
    unescape text = ps.map readAs := by
  induction h with
  | done => rfl
  | token hentity _ ih => rw [hentity.unescape_append, ih, List.map_cons, readAs]
  | plain hnone _ ih => rw [unescape_cons hnone, ih, List.map_cons, readAs]

/-- Reading back is one pass from left to right, with one character for each piece. -/
theorem unescape_eq_iff :
    unescape text = cs ↔ ∃ ps, Cut IsEntity text ps ∧ ps.map readAs = cs := by
  constructor
  · rintro rfl
    obtain ⟨ps, hcut⟩ := exists_cut (fun m c => IsEntity.ne_nil) text
    exact ⟨ps, hcut, (unescape_of_cut hcut).symm⟩
  · rintro ⟨ps, hcut, rfl⟩
    exact unescape_of_cut hcut

-- What an entity is read as does not become part of another one.
example : unescape "&amp;lt;&am".toList = "&lt;&am".toList := by decide

/-- Escaping what was read of an inert text gives the text. -/
theorem escape_readAs {ps : List (Piece Char)} (hcut : Cut IsEntity text ps) (h : Inert text) :
    escape (ps.map readAs) = text := by
  induction hcut with
  | done => rfl
  | token hentity _ ih =>
    rw [List.map_cons, readAs, escape_cons, hentity.entity_eq, ih h.of_append]
  | @plain c cs ps hnone _ ih =>
    obtain ⟨hmarkup, hfront, hrest⟩ := inert_cons_iff.1 h
    -- An `&` that is kept would begin an entity, where the text would have been cut.
    have hamp : c ≠ '&' := by
      intro hc
      obtain ⟨m, a, hentity, hstarts⟩ := hfront hc
      exact hnone m a hentity hstarts
    rw [List.map_cons, readAs, escape_cons, entity_of_plain hmarkup hamp, ih hrest,
      List.singleton_append]

/-- The inert texts are the escaped ones. -/
theorem exists_escape_eq_iff : (∃ cs, escape cs = text) ↔ Inert text := by
  constructor
  · rintro ⟨cs, rfl⟩
    exact inert_escape cs
  · intro h
    obtain ⟨ps, hcut⟩ := exists_cut (fun m c => IsEntity.ne_nil) text
    exact ⟨ps.map readAs, escape_readAs hcut h⟩

/-- Different texts are escaped to different ones. -/
theorem escape_injective : Function.Injective escape :=
  Function.LeftInverse.injective unescape_escape

end MailTemplates.Text.Entities
