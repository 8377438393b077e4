import Mathlib.Computability.Language
import MailTemplates.Mail.Address
import MailTemplates.Proofs.FileTree.Unlinked
/-!
# The grammar of addresses

A text is an address if it can be cut at an `@` into a local part and a domain that follow the
grammar. No domain holds an `@`, so there is one way to cut it; and if the local part is unquoted,
there is only one `@`. The grammar is also given as one regular expression, whose repetitions and
alternatives may match in many ways: the texts it describes are the same.

The grammar is written as joined lists: words with dots between them, labels with a dot behind each.
The code splits at the dots and asks of the parts. Splitting and joining undo each other as long as
no part holds the separator, and with this each of the six checks becomes one line of the grammar.

The expression is a language over characters, built from the operations of Mathlib. A repetition of
it is a list of words that are written one after another (`mem_kstar_iff_flatMap`); so it, too,
comes down to lists, and is compared with the grammar part by part.

Main statements: `mem_pattern_iff` (the expression describes the grammar) and `valid_iff_splits`.
-/

namespace MailTemplates

namespace Text

variable {sep : List Char}

theorem intercalate_cons_eq (first : List Char) (rest : List (List Char)) :
    sep.intercalate (first :: rest) = first ++ rest.flatMap (sep ++ ·) := by
  induction rest generalizing first with
  | nil => rw [List.intercalate_singleton, List.flatMap_nil, List.append_nil]
  | cons next rest ih =>
    rw [List.intercalate_cons_cons, ih, List.flatMap_cons, List.append_assoc, List.append_assoc]

/-- One more part at the end stands behind one more separator. -/
theorem intercalate_concat (parts : List (List Char)) (last : List Char) :
    sep.intercalate (parts ++ [last]) = parts.flatMap (· ++ sep) ++ last := by
  induction parts with
  | nil => rw [List.nil_append, List.intercalate_singleton, List.flatMap_nil, List.nil_append]
  | cons part parts ih =>
    rw [List.flatMap_cons, List.append_assoc, ← ih, List.cons_append]
    have happend : sep.intercalate ([part] ++ (parts ++ [last])) =
        sep.intercalate [part] ++ sep ++ sep.intercalate (parts ++ [last]) :=
      intercalate_append (List.cons_ne_nil part []) (List.concat_ne_nil last parts)
    rwa [List.intercalate_singleton] at happend

/-- A character of joined parts is one of the separator or of a part. -/
theorem mem_of_mem_intercalate {c : Char} {parts : List (List Char)}
    (h : c ∈ sep.intercalate parts) : c ∈ sep ∨ ∃ part ∈ parts, c ∈ part := by
  cases parts with
  | nil => nomatch h
  | cons first rest =>
    rw [intercalate_cons_eq, List.mem_append, List.mem_flatMap] at h
    rcases h with hfirst | ⟨part, hpart, hc⟩
    · exact .inr ⟨first, List.mem_cons_self, hfirst⟩
    · rcases List.mem_append.1 hc with hsep | hc
      · exact .inl hsep
      · exact .inr ⟨part, List.mem_cons_of_mem first hpart, hc⟩

end Text

namespace Address

open Text (isBlank splitAt)

/-!
## The grammar

The rules of the grammar, one definition for each, on lists of characters.
-/

/-- A character of a word: no blank, and none with a meaning of its own. -/
def AtomChar (c : Char) : Prop :=
  isBlank c = false ∧
    c ∉ ['<', '>', '(', ')', '[', ']', '\\', '.', ',', ';', ':', '@', '"']

/-- One or more words, joined by single dots. -/
def Dotted (cs : List Char) : Prop :=
  ∃ words, words ≠ [] ∧ (∀ word ∈ words, word ≠ [] ∧ ∀ c ∈ word, AtomChar c) ∧
    cs = ['.'].intercalate words

/-- A text in double quotes, of one character or more, none of them a line feed. -/
def Quoted (cs : List Char) : Prop :=
  ∃ inner, inner ≠ [] ∧ '\n' ∉ inner ∧ cs = '"' :: (inner ++ ['"'])

/-- One to three digits. -/
def Group (cs : List Char) : Prop :=
  1 ≤ cs.length ∧ cs.length ≤ 3 ∧ ∀ c ∈ cs, c.isDigit = true

/-- Four groups of digits, joined by dots, in square brackets. -/
def Numeric (cs : List Char) : Prop :=
  ∃ a b c d, Group a ∧ Group b ∧ Group c ∧ Group d ∧
    cs = '[' :: (['.'].intercalate [a, b, c, d] ++ [']'])

/-- A character of a label: a letter, a digit or a hyphen. -/
def LabelChar (c : Char) : Prop := c.isAlpha = true ∨ c.isDigit = true ∨ c = '-'

/-- One or more labels, each with a dot behind it, and then two letters or more. -/
def Named (cs : List Char) : Prop :=
  ∃ labels top, labels ≠ [] ∧ (∀ label ∈ labels, label ≠ [] ∧ ∀ c ∈ label, LabelChar c) ∧
    2 ≤ top.length ∧ (∀ c ∈ top, c.isAlpha = true) ∧ cs = labels.flatMap (· ++ ['.']) ++ top

/-- The text can be cut at an `@` into this local part and this domain. -/
structure Splits (cs localPart domain : List Char) : Prop where
  eq : cs = localPart ++ '@' :: domain
  before : Dotted localPart ∨ Quoted localPart
  behind : Numeric domain ∨ Named domain

/-!
## What is checked

The checks of the code, one by one, against the rules.
-/

theorem isAtomChar_iff (c : Char) : isAtomChar c = true ↔ AtomChar c := by
  simp [isAtomChar, AtomChar]

/-- The code splits at the dots and asks for words, the grammar joins words with dots. -/
theorem isDotted_iff (cs : List Char) : isDotted cs = true ↔ Dotted cs := by
  have hall : isDotted cs = true ↔
      ∀ word ∈ splitAt '.' cs, word ≠ [] ∧ ∀ c ∈ word, AtomChar c := by
    simp [isDotted, isAtomChar_iff]
  rw [hall]
  exact Text.forall_mem_splitAt_iff fun word hword hmem => (hword.2 '.' hmem).2 (by decide)

/-- A quoted text is its characters between two quotes; what the code cuts off at either end are
these. -/
theorem isQuoted_iff (cs : List Char) : isQuoted cs = true ↔ Quoted cs := by
  -- Only a line feed is excluded from the inside.
  have hfeed : ∀ inner : List Char, inner.all (· != '\n') = true ↔ '\n' ∉ inner := by
    intro inner
    rw [List.all_eq_true]
    constructor
    · intro h hmem
      exact bne_iff_ne.1 (h '\n' hmem) rfl
    · intro h c hc
      exact bne_iff_ne.2 fun heq => h (heq ▸ hc)
  unfold isQuoted
  split
  · rename_i rest
    rw [Bool.and_eq_true, Bool.and_eq_true, beq_iff_eq, List.getLast?_eq_some_iff, hfeed]
    constructor
    · rintro ⟨⟨⟨inner, rfl⟩, hne⟩, hinner⟩
      rw [List.dropLast_concat] at hne hinner
      exact ⟨inner, by simpa using hne, hinner, rfl⟩
    · rintro ⟨inner, hne, hinner, heq⟩
      obtain rfl := (List.cons.inj heq).2
      rw [List.dropLast_concat]
      exact ⟨⟨⟨inner, rfl⟩, by simpa using hne⟩, hinner⟩
  · rename_i hnot
    exact ⟨nofun, fun ⟨inner, _, _, h⟩ => absurd h (hnot _)⟩

theorem isGroup_iff (cs : List Char) : isGroup cs = true ↔ Group cs := by
  rw [isGroup, Group, Nat.one_le_iff_ne_zero, Ne, List.length_eq_zero_iff]
  simp [and_assoc]

/-- A numeric domain is four groups in brackets with dots between them. -/
theorem isNumeric_iff (cs : List Char) : isNumeric cs = true ↔ Numeric cs := by
  unfold isNumeric
  split
  · rename_i rest
    rw [Bool.and_eq_true, Bool.and_eq_true, beq_iff_eq, beq_iff_eq, List.getLast?_eq_some_iff]
    constructor
    · rintro ⟨⟨⟨inner, rfl⟩, hfour⟩, hgroups⟩
      rw [List.dropLast_concat] at hfour hgroups
      -- The inside splits at its dots into four groups.
      obtain ⟨a, b, c, d, hparts⟩ := List.length_eq_four.1 hfour
      rw [hparts] at hgroups
      have hinner := (Text.splitAt_eq_iff.1 hparts).2.2
      simp only [List.all_cons, List.all_nil, Bool.and_true, Bool.and_eq_true, isGroup_iff]
        at hgroups
      obtain ⟨ha, hb, hc, hd⟩ := hgroups
      exact ⟨a, b, c, d, ha, hb, hc, hd, by rw [hinner]⟩
    · rintro ⟨a, b, c, d, ha, hb, hc, hd, heq⟩
      obtain rfl := (List.cons.inj heq).2
      -- No group holds a dot, so the inside splits into the four again.
      have hdot : ∀ part, Group part → '.' ∉ part :=
        fun part hpart hmem => absurd (hpart.2.2 '.' hmem) (by decide)
      have hparts : splitAt '.' (['.'].intercalate [a, b, c, d]) = [a, b, c, d] := by
        refine Text.splitAt_intercalate (List.cons_ne_nil a _) ?_
        simp [hdot a ha, hdot b hb, hdot c hc, hdot d hd]
      rw [List.dropLast_concat, hparts]
      refine ⟨⟨⟨_, rfl⟩, rfl⟩, ?_⟩
      simp [isGroup_iff, ha, hb, hc, hd]
  · rename_i hnot
    exact ⟨nofun, fun ⟨_, _, _, _, _, _, _, _, h⟩ => absurd h (hnot _)⟩

/-- A label has at least one character, and letters, digits and hyphens only. -/
theorem isLabel_iff (cs : List Char) :
    isLabel cs = true ↔ cs ≠ [] ∧ ∀ c ∈ cs, LabelChar c := by
  simp [isLabel, LabelChar, or_assoc]

/-- The last label has at least two characters, all of them letters. -/
theorem isTopLevel_iff (cs : List Char) :
    isTopLevel cs = true ↔ 2 ≤ cs.length ∧ ∀ c ∈ cs, c.isAlpha = true := by
  simp [isTopLevel]

/-- A named domain has at least two labels, of which the last is the top-level one. -/
theorem isNamed_iff (cs : List Char) : isNamed cs = true ↔ Named cs := by
  constructor
  · intro h
    unfold isNamed at h
    split at h
    · rename_i top before hparts
      -- The parts are looked at from behind: the last label comes first.
      rw [List.reverse_eq_cons_iff] at hparts
      have hcs := (Text.splitAt_eq_iff.1 hparts).2.2
      rw [Text.intercalate_concat] at hcs
      rw [Bool.and_eq_true, Bool.and_eq_true, isTopLevel_iff, List.all_eq_true] at h
      obtain ⟨⟨⟨hlength, hletters⟩, hne⟩, hlabels⟩ := h
      refine ⟨before.reverse, top, ?_, ?_, hlength, hletters, hcs⟩
      · simpa using hne
      · intro label hlabel
        exact (isLabel_iff label).1 (hlabels label (List.mem_reverse.1 hlabel))
    · nomatch h
  · rintro ⟨labels, top, hne, hlabels, hlength, hletters, rfl⟩
    have hdot : ∀ part ∈ labels ++ [top], '.' ∉ part := by
      intro part hpart hmem
      rcases List.mem_append.1 hpart with hlabel | htop
      · rcases (hlabels part hlabel).2 '.' hmem with h | h | h <;> exact absurd h (by decide)
      · obtain rfl := List.mem_singleton.1 htop
        exact absurd (hletters '.' hmem) (by decide)
    rw [← Text.intercalate_concat, isNamed,
      Text.splitAt_intercalate (List.concat_ne_nil top labels) hdot, List.reverse_concat,
      Bool.and_eq_true, Bool.and_eq_true, isTopLevel_iff, List.all_eq_true]
    refine ⟨⟨⟨hlength, hletters⟩, by simpa using hne⟩, fun label hlabel => ?_⟩
    exact (isLabel_iff label).2 (hlabels label (List.mem_reverse.1 hlabel))

/-!
## Where an address is cut

The code cuts at the last `@`. A domain has none, so this is the place where the grammar cuts as
well.
-/

/-- An unquoted local part consists of the characters of words, and of dots. -/
theorem Dotted.atomChar_or_dot {cs : List Char} (h : Dotted cs) {c : Char} (hc : c ∈ cs) :
    AtomChar c ∨ c = '.' := by
  obtain ⟨words, -, hwords, rfl⟩ := h
  rcases Text.mem_of_mem_intercalate hc with hdot | ⟨word, hword, hmem⟩
  · exact .inr (List.mem_singleton.1 hdot)
  · exact .inl ((hwords word hword).2 c hmem)

/-- A domain consists of letters, digits, hyphens, dots and square brackets. -/
theorem mem_of_domain {cs : List Char} (h : Numeric cs ∨ Named cs) {c : Char} (hc : c ∈ cs) :
    c.isAlpha = true ∨ c.isDigit = true ∨ c ∈ ['-', '.', '[', ']'] := by
  rcases h with ⟨a, b, d, e, ha, hb, hd, he, rfl⟩ | ⟨labels, top, -, hlabels, -, hletters, rfl⟩
  · -- A numeric domain has digits, dots and brackets.
    have hgroup : ∀ part ∈ [a, b, d, e], ∀ x ∈ part, x.isDigit = true := by
      rw [List.forall_mem_cons, List.forall_mem_cons, List.forall_mem_cons,
        List.forall_mem_singleton]
      exact ⟨ha.2.2, hb.2.2, hd.2.2, he.2.2⟩
    rw [List.mem_cons, List.mem_append, List.mem_singleton] at hc
    rcases hc with rfl | hinner | rfl
    · decide
    · rcases Text.mem_of_mem_intercalate hinner with hdot | ⟨part, hpart, hmem⟩
      · obtain rfl := List.mem_singleton.1 hdot
        decide
      · exact .inr (.inl (hgroup part hpart c hmem))
    · decide
  · -- A named one has what its labels have, dots, and letters in the end.
    have hdot : ∀ x ∈ ['.'], x.isAlpha = true ∨ x.isDigit = true ∨ x ∈ ['-', '.', '[', ']'] :=
      List.forall_mem_singleton.2 (by decide)
    rcases List.mem_append.1 hc with hbefore | htop
    · obtain ⟨label, hlabel, hc⟩ := List.mem_flatMap.1 hbefore
      rcases List.mem_append.1 hc with hmem | hend
      · rcases (hlabels label hlabel).2 c hmem with hletter | hdigit | rfl
        · exact .inl hletter
        · exact .inr (.inl hdigit)
        · decide
      · exact hdot c hend
    · exact .inl (hletters c htop)

/-- No unquoted local part holds an `@`. -/
theorem at_not_mem_of_dotted {cs : List Char} (h : Dotted cs) : '@' ∉ cs := by
  intro hmem
  rcases h.atomChar_or_dot hmem with hatom | hdot
  · exact hatom.2 (by decide)
  · exact absurd hdot (by decide)

namespace Splits

variable {cs localPart domain : List Char}

/-- No domain holds one. -/
theorem at_not_mem_domain (h : Splits cs localPart domain) : '@' ∉ domain :=
  fun hmem => absurd (mem_of_domain h.behind hmem) (by decide)

/-- So an address is cut at its last `@`. -/
theorem splitLastAt_eq (h : Splits cs localPart domain) :
    splitLastAt cs = some (localPart, domain) :=
  (splitLastAt_eq_some_iff cs localPart domain).2 ⟨h.eq, h.at_not_mem_domain⟩

/-- An unquoted local part leaves one `@` in the address. -/
theorem count_at (h : Splits cs localPart domain) (hdotted : Dotted localPart) :
    cs.count '@' = 1 := by
  rw [h.eq, List.count_append, List.count_cons_self,
    List.count_eq_zero_of_not_mem (at_not_mem_of_dotted hdotted),
    List.count_eq_zero_of_not_mem h.at_not_mem_domain]

end Splits

/-- The grammar leaves one way to cut a text. -/
theorem splits_unique {cs localPart domain localPart' domain' : List Char}
    (h : Splits cs localPart domain) (h' : Splits cs localPart' domain') :
    localPart = localPart' ∧ domain = domain' := by
  have heq := h.splitLastAt_eq.symm.trans h'.splitLastAt_eq
  rwa [Option.some.injEq, Prod.mk.injEq] at heq

/-- Where there is one `@`, there is one place to cut, also for texts that are no addresses. -/
theorem cut_unique {cs before behind before' behind' : List Char} (hone : cs.count '@' = 1)
    (h : cs = before ++ '@' :: behind) (h' : cs = before' ++ '@' :: behind') :
    before = before' ∧ behind = behind' := by
  -- With one `@` in the text there is none behind a cut, so every cut is the last one.
  have hlast : ∀ {front back : List Char}, cs = front ++ '@' :: back →
      splitLastAt cs = some (front, back) := by
    intro front back hcs
    rw [hcs, List.count_append, List.count_cons_self] at hone
    exact (splitLastAt_eq_some_iff cs front back).2
      ⟨hcs, List.count_eq_zero.1 (by omega)⟩
  have heq := (hlast h).symm.trans (hlast h')
  rwa [Option.some.injEq, Prod.mk.injEq] at heq

/-- The code cuts at the last `@` and checks both sides; so it accepts what can be cut in some way.
-/
theorem isValid_iff (cs : List Char) :
    isValid cs = true ↔ ∃ localPart domain, Splits cs localPart domain := by
  have hlocal : ∀ localPart, isLocal localPart = true ↔ Dotted localPart ∨ Quoted localPart := by
    intro localPart
    rw [isLocal, Bool.or_eq_true, isDotted_iff, isQuoted_iff]
  have hdomain : ∀ domain, isDomain domain = true ↔ Numeric domain ∨ Named domain := by
    intro domain
    rw [isDomain, Bool.or_eq_true, isNumeric_iff, isNamed_iff]
  rw [isValid]
  constructor
  · intro h
    split at h
    · rename_i localPart domain hcut
      rw [Bool.and_eq_true, hlocal, hdomain] at h
      exact ⟨localPart, domain, ((splitLastAt_eq_some_iff _ _ _).1 hcut).1, h.1, h.2⟩
    · nomatch h
  · rintro ⟨localPart, domain, h⟩
    rw [h.splitLastAt_eq]
    exact Bool.and_eq_true_iff.2 ⟨(hlocal _).2 h.before, (hdomain _).2 h.behind⟩

/-! ## As a regular expression -/

section Expression

open scoped Computability

/-- One character with a property. -/
def oneOf (p : Char → Prop) : Language Char := {cs | ∃ c, p c ∧ cs = [c]}

/-- One fixed character. -/
def only (c : Char) : Language Char := oneOf (· = c)

/-- One repetition or more. -/
def oneOrMore (l : Language Char) : Language Char := l * l∗

/-- Words joined by dots, as an expression. -/
def dottedPattern : Language Char :=
  oneOrMore (oneOf AtomChar) * (only '.' * oneOrMore (oneOf AtomChar))∗

/-- A text in double quotes, as an expression. -/
def quotedPattern : Language Char := only '"' * oneOrMore (oneOf (· ≠ '\n')) * only '"'

/-- One to three digits, as an expression. -/
def groupPattern : Language Char :=
  oneOf (·.isDigit = true) + oneOf (·.isDigit = true) ^ 2 + oneOf (·.isDigit = true) ^ 3

/-- Four groups of digits in square brackets, as an expression. -/
def numericPattern : Language Char :=
  only '[' * (groupPattern * only '.' * groupPattern * only '.' * groupPattern * only '.' *
    groupPattern) * only ']'

/-- Two letters or more, as an expression. -/
def topPattern : Language Char := oneOf (·.isAlpha = true) ^ 2 * (oneOf (·.isAlpha = true))∗

/-- Labels and then letters, as an expression. -/
def namedPattern : Language Char :=
  oneOrMore (oneOrMore (oneOf LabelChar) * only '.') * topPattern

/-- Addresses as an expression. -/
def pattern : Language Char :=
  (dottedPattern + quotedPattern) * only '@' * (numericPattern + namedPattern)

section Repetitions

variable {α : Type} {l : Language Char} {p : α → Prop} {write : α → List Char}

/-- A list of things that are each written somehow is the writing of a list. -/
theorem exists_map_of_forall_mem {ys : List (List Char)} (h : ∀ y ∈ ys, ∃ x, p x ∧ y = write x) :
    ∃ xs : List α, ys = xs.map write ∧ ∀ x ∈ xs, p x := by
  induction ys with
  | nil => exact ⟨[], rfl, fun _ h => nomatch h⟩
  | cons y ys ih =>
    rw [List.forall_mem_cons] at h
    obtain ⟨⟨x, hx, rfl⟩, hrest⟩ := h
    obtain ⟨xs, rfl, hxs⟩ := ih hrest
    exact ⟨x :: xs, rfl, List.forall_mem_cons.2 ⟨hx, hxs⟩⟩

/-- Repetitions of what is written for things, written one after another. -/
theorem mem_kstar_iff_flatMap (hl : ∀ w, w ∈ l ↔ ∃ x, p x ∧ w = write x) (w : List Char) :
    w ∈ l∗ ↔ ∃ xs : List α, (∀ x ∈ xs, p x) ∧ w = xs.flatMap write := by
  rw [Language.mem_kstar]
  constructor
  · rintro ⟨ys, rfl, hys⟩
    obtain ⟨xs, rfl, hxs⟩ := exists_map_of_forall_mem fun y hy => (hl y).1 (hys y hy)
    exact ⟨xs, hxs, rfl⟩
  · rintro ⟨xs, hxs, rfl⟩
    refine ⟨xs.map write, rfl, fun y hy => ?_⟩
    obtain ⟨x, hx, rfl⟩ := List.mem_map.1 hy
    exact (hl _).2 ⟨x, hxs x hx, rfl⟩

/-- A repetition that is not empty is a row of words, at least one. -/
theorem mem_oneOrMore_iff_flatMap (hl : ∀ w, w ∈ l ↔ ∃ x, p x ∧ w = write x) (w : List Char) :
    w ∈ oneOrMore l ↔ ∃ xs : List α, xs ≠ [] ∧ (∀ x ∈ xs, p x) ∧ w = xs.flatMap write := by
  rw [oneOrMore, Language.mem_mul]
  constructor
  · rintro ⟨first, hfirst, rest, hrest, rfl⟩
    obtain ⟨x, hx, rfl⟩ := (hl first).1 hfirst
    obtain ⟨xs, hxs, rfl⟩ := (mem_kstar_iff_flatMap hl rest).1 hrest
    exact ⟨x :: xs, List.cons_ne_nil x xs, List.forall_mem_cons.2 ⟨hx, hxs⟩, rfl⟩
  · rintro ⟨_ | ⟨x, xs⟩, hne, hxs, rfl⟩
    · exact absurd rfl hne
    · rw [List.forall_mem_cons] at hxs
      exact ⟨write x, (hl _).2 ⟨x, hxs.1, rfl⟩, _,
        (mem_kstar_iff_flatMap hl _).2 ⟨xs, hxs.2, rfl⟩, rfl⟩

/-- A power is a row of so many words. -/
theorem mem_pow_iff_flatMap (hl : ∀ w, w ∈ l ↔ ∃ x, p x ∧ w = write x) (n : Nat)
    (w : List Char) :
    w ∈ l ^ n ↔ ∃ xs : List α, xs.length = n ∧ (∀ x ∈ xs, p x) ∧ w = xs.flatMap write := by
  rw [Language.mem_pow]
  constructor
  · rintro ⟨ys, rfl, rfl, hys⟩
    obtain ⟨xs, rfl, hxs⟩ := exists_map_of_forall_mem fun y hy => (hl y).1 (hys y hy)
    exact ⟨xs, (List.length_map write).symm, hxs, rfl⟩
  · rintro ⟨xs, rfl, hxs, rfl⟩
    refine ⟨xs.map write, rfl, List.length_map write, fun y hy => ?_⟩
    obtain ⟨x, hx, rfl⟩ := List.mem_map.1 hy
    exact (hl _).2 ⟨x, hxs x hx, rfl⟩

end Repetitions

section Characters

variable {p : Char → Prop} {l m : Language Char}

/-- A class of characters has the words of one character. -/
theorem mem_oneOf_iff (w : List Char) : w ∈ oneOf p ↔ ∃ c, p c ∧ w = [c] := Iff.rfl

/-- The repetition of a class has the words of its characters. -/
theorem mem_kstar_oneOf_iff (w : List Char) : w ∈ (oneOf p)∗ ↔ ∀ c ∈ w, p c := by
  rw [mem_kstar_iff_flatMap mem_oneOf_iff]
  simp

theorem mem_oneOrMore_oneOf_iff (w : List Char) :
    w ∈ oneOrMore (oneOf p) ↔ w ≠ [] ∧ ∀ c ∈ w, p c := by
  rw [mem_oneOrMore_iff_flatMap mem_oneOf_iff]
  simp

theorem mem_pow_oneOf_iff (n : Nat) (w : List Char) :
    w ∈ oneOf p ^ n ↔ w.length = n ∧ ∀ c ∈ w, p c := by
  rw [mem_pow_iff_flatMap mem_oneOf_iff]
  simp

/-- A single character is one word. -/
theorem mem_only_iff {c : Char} (w : List Char) : w ∈ only c ↔ w = [c] := by
  rw [only, mem_oneOf_iff, exists_eq_left]

/-- A character in front of a language. -/
theorem mem_only_mul_iff {c : Char} (w : List Char) :
    w ∈ only c * l ↔ ∃ v, v ∈ l ∧ w = c :: v := by
  simp [Language.mem_mul, mem_only_iff, eq_comm]

theorem mem_mul_only_iff {c : Char} (w : List Char) :
    w ∈ l * only c ↔ ∃ v, v ∈ l ∧ w = v ++ [c] := by
  simp [Language.mem_mul, mem_only_iff, eq_comm]

/-- Two parts with a fixed character between them. -/
theorem mem_mul_only_mul_iff {c : Char} (w : List Char) :
    w ∈ l * only c * m ↔ ∃ u ∈ l, ∃ v ∈ m, w = u ++ c :: v := by
  rw [Language.mem_mul]
  constructor
  · rintro ⟨front, hfront, v, hv, rfl⟩
    obtain ⟨u, hu, rfl⟩ := (mem_mul_only_iff front).1 hfront
    exact ⟨u, hu, v, hv, (List.append_cons u c v).symm⟩
  · rintro ⟨u, hu, v, hv, rfl⟩
    exact ⟨u ++ [c], (mem_mul_only_iff _).2 ⟨u, hu, rfl⟩, v, hv, (List.append_cons u c v).symm⟩

/-- A part between two fixed characters. -/
theorem mem_only_mul_only_iff {a b : Char} (w : List Char) :
    w ∈ only a * l * only b ↔ ∃ v ∈ l, w = a :: (v ++ [b]) := by
  simp [mul_assoc, mem_mul_only_iff, mem_only_mul_iff]

end Characters

/-- The pattern of unquoted local parts has the words of the grammar. -/
theorem mem_dottedPattern_iff (w : List Char) : w ∈ dottedPattern ↔ Dotted w := by
  have hword : ∀ v, v ∈ only '.' * oneOrMore (oneOf AtomChar) ↔
      ∃ word, (word ≠ [] ∧ ∀ c ∈ word, AtomChar c) ∧ v = ['.'] ++ word := by
    simp [mem_only_mul_iff, mem_oneOrMore_oneOf_iff]
  rw [dottedPattern, Language.mem_mul]
  constructor
  · -- One word, and then words that each have a dot in front.
    rintro ⟨first, hfirst, rest, hrest, rfl⟩
    obtain ⟨words, hwords, rfl⟩ := (mem_kstar_iff_flatMap hword rest).1 hrest
    exact ⟨first :: words, List.cons_ne_nil first words,
      List.forall_mem_cons.2 ⟨(mem_oneOrMore_oneOf_iff first).1 hfirst, hwords⟩,
      (Text.intercalate_cons_eq first words).symm⟩
  · rintro ⟨_ | ⟨first, words⟩, hne, hwords, rfl⟩
    · exact absurd rfl hne
    · rw [List.forall_mem_cons] at hwords
      exact ⟨first, (mem_oneOrMore_oneOf_iff first).2 hwords.1, _,
        (mem_kstar_iff_flatMap hword _).2 ⟨words, hwords.2, rfl⟩,
        (Text.intercalate_cons_eq first words).symm⟩

/-- The pattern of quoted local parts has them, too. -/
theorem mem_quotedPattern_iff (w : List Char) : w ∈ quotedPattern ↔ Quoted w := by
  rw [quotedPattern, mem_only_mul_only_iff]
  constructor
  · rintro ⟨inner, hinner, rfl⟩
    obtain ⟨hne, hfeed⟩ := (mem_oneOrMore_oneOf_iff inner).1 hinner
    exact ⟨inner, hne, fun hmem => hfeed _ hmem rfl, rfl⟩
  · rintro ⟨inner, hne, hfeed, rfl⟩
    exact ⟨inner, (mem_oneOrMore_oneOf_iff inner).2 ⟨hne, fun c hc h => hfeed (h ▸ hc)⟩, rfl⟩

/-- A group is one up to three digits, which the pattern lists by their number. -/
theorem mem_groupPattern_iff (w : List Char) : w ∈ groupPattern ↔ Group w := by
  have hone : w ∈ oneOf (·.isDigit = true) ↔ w.length = 1 ∧ ∀ c ∈ w, c.isDigit = true := by
    rw [← mem_pow_oneOf_iff, pow_one]
  rw [groupPattern, Language.mem_add, Language.mem_add, hone, mem_pow_oneOf_iff,
    mem_pow_oneOf_iff, Group, ← or_and_right, ← or_and_right, ← and_assoc]
  refine and_congr_left fun _ => ?_
  omega

/-- A numeric domain is four groups; the pattern writes the first three with their dots. -/
theorem mem_numericPattern_iff (w : List Char) : w ∈ numericPattern ↔ Numeric w := by
  rw [numericPattern]
  simp only [mem_only_mul_only_iff, mem_mul_only_mul_iff, mem_groupPattern_iff]
  constructor
  · rintro ⟨inner, ⟨_, ⟨_, ⟨a, ha, b, hb, rfl⟩, c, hc, rfl⟩, d, hd, rfl⟩, rfl⟩
    exact ⟨a, b, c, d, ha, hb, hc, hd, by simp [List.intercalate_cons_cons]⟩
  · rintro ⟨a, b, c, d, ha, hb, hc, hd, rfl⟩
    exact ⟨_, ⟨_, ⟨_, ⟨a, ha, b, hb, rfl⟩, c, hc, rfl⟩, d, hd, rfl⟩,
      by simp [List.intercalate_cons_cons]⟩

/-- The last label is two letters and any more. -/
theorem mem_topPattern_iff (w : List Char) :
    w ∈ topPattern ↔ 2 ≤ w.length ∧ ∀ c ∈ w, c.isAlpha = true := by
  rw [topPattern, Language.mem_mul]
  constructor
  · rintro ⟨two, htwo, more, hmore, rfl⟩
    obtain ⟨hlength, hletters⟩ := (mem_pow_oneOf_iff 2 two).1 htwo
    refine ⟨by rw [List.length_append, hlength]; omega, ?_⟩
    exact List.forall_mem_append.2 ⟨hletters, (mem_kstar_oneOf_iff more).1 hmore⟩
  · rintro ⟨hlength, hletters⟩
    have htake : ∀ c ∈ w.take 2, c.isAlpha = true :=
      fun c hc => hletters c (List.mem_of_mem_take hc)
    have hdrop : ∀ c ∈ w.drop 2, c.isAlpha = true :=
      fun c hc => hletters c (List.mem_of_mem_drop hc)
    exact ⟨w.take 2, (mem_pow_oneOf_iff 2 _).2 ⟨List.length_take_of_le hlength, htake⟩,
      w.drop 2, (mem_kstar_oneOf_iff _).2 hdrop, List.take_append_drop 2 w⟩

/-- A named domain is labels with dots behind them, and the last one. -/
theorem mem_namedPattern_iff (w : List Char) : w ∈ namedPattern ↔ Named w := by
  have hlabel : ∀ v, v ∈ oneOrMore (oneOf LabelChar) * only '.' ↔
      ∃ label, (label ≠ [] ∧ ∀ c ∈ label, LabelChar c) ∧ v = label ++ ['.'] := by
    simp [mem_mul_only_iff, mem_oneOrMore_oneOf_iff]
  rw [namedPattern, Language.mem_mul]
  constructor
  · rintro ⟨front, hfront, top, htop, rfl⟩
    obtain ⟨labels, hne, hlabels, rfl⟩ := (mem_oneOrMore_iff_flatMap hlabel front).1 hfront
    obtain ⟨hlength, hletters⟩ := (mem_topPattern_iff top).1 htop
    exact ⟨labels, top, hne, hlabels, hlength, hletters, rfl⟩
  · rintro ⟨labels, top, hne, hlabels, hlength, hletters, rfl⟩
    exact ⟨_, (mem_oneOrMore_iff_flatMap hlabel _).2 ⟨labels, hne, hlabels, rfl⟩, top,
      (mem_topPattern_iff top).2 ⟨hlength, hletters⟩, rfl⟩

/-- The pattern as a whole has the words that can be cut into a local part and a domain. -/
theorem mem_pattern_iff (w : List Char) :
    w ∈ pattern ↔ ∃ localPart domain, Splits w localPart domain := by
  have hlocal : ∀ v, v ∈ dottedPattern + quotedPattern ↔ Dotted v ∨ Quoted v := by
    intro v
    rw [Language.mem_add, mem_dottedPattern_iff, mem_quotedPattern_iff]
  have hdomain : ∀ v, v ∈ numericPattern + namedPattern ↔ Numeric v ∨ Named v := by
    intro v
    rw [Language.mem_add, mem_numericPattern_iff, mem_namedPattern_iff]
  rw [pattern, mem_mul_only_mul_iff]
  constructor
  · rintro ⟨localPart, hbefore, domain, hbehind, heq⟩
    exact ⟨localPart, domain, heq, (hlocal localPart).1 hbefore, (hdomain domain).1 hbehind⟩
  · rintro ⟨localPart, domain, h⟩
    exact ⟨localPart, (hlocal localPart).2 h.before, domain, (hdomain domain).2 h.behind, h.eq⟩

end Expression

/-- The addresses are the texts that follow the grammar, and those that the expression describes.
The grammar cuts each in one way. One with an unquoted local part holds one `@`, so there is one
place to cut it at all. -/
theorem valid_iff_splits (s : String) :
    (valid s = true ↔ ∃ localPart domain, Splits s.toList localPart domain) ∧
    (valid s = true ↔ s.toList ∈ pattern) ∧
    (∀ localPart domain localPart' domain', Splits s.toList localPart domain →
      Splits s.toList localPart' domain' → localPart = localPart' ∧ domain = domain') ∧
    ∀ localPart domain, Splits s.toList localPart domain → Dotted localPart →
      s.toList.count '@' = 1 ∧
        ∀ before behind, s.toList = before ++ '@' :: behind →
          before = localPart ∧ behind = domain := by
  refine ⟨isValid_iff s.toList, (isValid_iff s.toList).trans (mem_pattern_iff s.toList).symm,
    fun _ _ _ _ => splits_unique, ?_⟩
  intro localPart domain hsplits hdotted
  have hone := hsplits.count_at hdotted
  exact ⟨hone, fun before behind hcut => cut_unique hone hcut hsplits.eq⟩

example : valid "\"a@b\"@mail.example.com" = true ∧ valid "a@b@example.com" = false := by
  decide

end Address

end MailTemplates
