import MailTemplates.Proofs.Fallible
import MailTemplates.Proofs.FileTree.Unlinked
import MailTemplates.Proofs.Text.Cutting
import MailTemplates.Translation.Placeholder
/-!
# Filling placeholders

Placeholders are described here without the scanning that finds them: what is written between their
brackets (`IsPlaceholder`), which keys are dotted (`Dotted`), and to which value a key leads
(`Reaches`). Each placeholder can be filled with one text or has one problem, and not both
(`expand_eq_ok_iff`, `exists_expand_eq_error_iff`). The pieces of a document are filled one by one,
so that a document is filled exactly if all its placeholders are, and a problem is that of the first
one that has any.

The order of the parts is the one in which the code looks at a document:

1. What a placeholder is. The recogniser is a scanner with an accumulator, so its two loops are
   first shown to find the first closing mark (`untilClose_eq_some_iff`, `untilBrace_eq_some_iff`);
   then it recognises exactly the placeholders, and the cut of a document is unique.
2. What a key leads to. Splitting at the dots and walking through the table is the relation
   `Reaches`.
3. What becomes of one placeholder. `Fills` and `Offends` have a rule for each outcome, and exclude
   each other.
4. What becomes of all. Success is success of each piece, and the failure is that of the first piece
   that has one, by the lemmas on `mapM`.

Main statement: `interpolate_fills`.
-/

namespace MailTemplates

open Text (Piece Cut Recognises pieces splitAt trim isWord isBlank)

namespace Placeholder

/-!
## What a placeholder looks like

There are four forms: a value as it is, an escaped value, a block, and a key in braces. The
recogniser tells them by their first characters.
-/

/-- A placeholder, with what stands between its brackets. The sign of a value is taken before
anything else, and the first closing bracket ends the placeholder. -/
inductive IsPlaceholder : List Char → Placeholder → Prop where
  | raw {key : List Char} (hclose : ¬['%', '>'] <:+: key) :
      IsPlaceholder ('<' :: '%' :: '=' :: (key ++ ['%', '>'])) (.value false (trim key))
  | escaped {key : List Char} (hclose : ¬['%', '>'] <:+: key) :
      IsPlaceholder ('<' :: '%' :: '-' :: (key ++ ['%', '>'])) (.value true (trim key))
  | block {body : List Char} (hclose : ¬['%', '>'] <:+: body) (hraw : body.head? ≠ some '=')
      (hescaped : body.head? ≠ some '-') : IsPlaceholder ('<' :: '%' :: (body ++ ['%', '>'])) .block
  | brace {key : List Char} (hclose : '}' ∉ key) :
      IsPlaceholder ('$' :: '{' :: (key ++ ['}'])) (.value false (trim key))

theorem untilClose_cons (before : List Char) (c : Char) (cs : List Char) :
    untilClose before (c :: cs) =
      if ['%', '>'].isPrefixOf (c :: cs) then some before.reverse
      else untilClose (c :: before) cs := by
  have hfront : (decide (c = '%') && cs.head? == some '>') = ['%', '>'].isPrefixOf (c :: cs) := by
    rw [Bool.eq_iff_iff]
    cases cs with
    | nil => simp [List.isPrefixOf]
    | cons d cs => simpa [List.isPrefixOf] using and_congr eq_comm eq_comm
  rw [untilClose, hfront]

/-- A block reaches to its first closing mark. The induction is on the text, with what has been read
so far. The accumulator holds what was read in front, the last character first. -/
theorem untilClose_eq_some_iff {before cs found : List Char} :
    untilClose before cs = some found ↔ ∃ body rest, found = before.reverse ++ body ∧
      cs = body ++ '%' :: '>' :: rest ∧ ¬['%', '>'] <:+: body := by
  induction cs generalizing before with
  | nil =>
    constructor
    · nofun
    · rintro ⟨body, rest, -, hcs, -⟩
      exact absurd hcs.symm (by simp)
  | cons c cs ih =>
    rw [untilClose_cons]
    by_cases hclose : ['%', '>'] <+: c :: cs
    · rw [if_pos (List.isPrefixOf_iff_prefix.2 hclose)]
      obtain ⟨rest, hrest⟩ := hclose
      rw [← hrest]
      constructor
      · rintro ⟨⟩
        exact ⟨[], rest, (List.append_nil _).symm, rfl, by simp⟩
      · rintro ⟨body, rest', rfl, hcs, hnone⟩
        -- A longer body would hold the bracket that is in front.
        rcases body with _ | ⟨d, _ | ⟨e, body⟩⟩
        · rw [List.append_nil]
        · nomatch hcs
        · cases hcs
          exact absurd (List.prefix_append ['%', '>'] body).isInfix hnone
    · rw [if_neg (mt List.isPrefixOf_iff_prefix.1 hclose), ih]
      constructor
      · rintro ⟨body, rest, rfl, rfl, hnone⟩
        refine ⟨c :: body, rest, by simp, rfl, ?_⟩
        rw [List.infix_cons_iff, not_or]
        exact ⟨fun h => hclose (h.trans (List.prefix_append (c :: body) _)), hnone⟩
      · rintro ⟨body, rest, rfl, hcs, hnone⟩
        rcases body with _ | ⟨d, body⟩
        · exact absurd ⟨rest, hcs.symm⟩ hclose
        · obtain ⟨rfl, rfl⟩ := List.cons.inj hcs
          rw [List.infix_cons_iff, not_or] at hnone
          exact ⟨body, rest, by simp, rfl, hnone.2⟩

/-- A text with a closing bracket is taken up to the first one. -/
theorem untilClose_append {body : List Char} (h : ¬['%', '>'] <:+: body) (rest : List Char) :
    untilClose [] (body ++ '%' :: '>' :: rest) = some body :=
  untilClose_eq_some_iff.2 ⟨body, rest, rfl, rfl, h⟩

theorem untilBrace_cons (c : Char) (cs : List Char) :
    untilBrace (c :: cs) = if c = '}' then some [] else (untilBrace cs).map (c :: ·) := by
  unfold untilBrace
  by_cases hc : c = '}'
  · subst hc
    rfl
  · rw [if_neg hc, List.takeWhile_cons_of_pos (by simp [hc])]
    dsimp only
    rw [List.length_cons, List.drop_succ_cons]
    split
    · rfl
    · rfl

/-- A key reaches to the first brace. -/
theorem untilBrace_eq_some_iff {cs key : List Char} :
    untilBrace cs = some key ↔ ∃ rest, cs = key ++ '}' :: rest ∧ '}' ∉ key := by
  induction cs generalizing key with
  | nil =>
    constructor
    · nofun
    · rintro ⟨rest, hcs, -⟩
      exact absurd hcs.symm (by simp)
  | cons c cs ih =>
    rw [untilBrace_cons]
    by_cases hc : c = '}'
    · subst hc
      rw [if_pos rfl]
      constructor
      · rintro ⟨⟩
        exact ⟨cs, rfl, List.not_mem_nil⟩
      · rintro ⟨rest, hcs, hkey⟩
        rcases key with _ | ⟨d, key⟩
        · rfl
        · obtain ⟨rfl, -⟩ := List.cons.inj hcs
          exact absurd List.mem_cons_self hkey
    · rw [if_neg hc, Option.map_eq_some_iff]
      constructor
      · rintro ⟨key, hkey, rfl⟩
        obtain ⟨rest, rfl, hnone⟩ := ih.1 hkey
        exact ⟨rest, rfl, List.not_mem_cons_of_ne_of_not_mem (Ne.symm hc) hnone⟩
      · rintro ⟨rest, hcs, hkey⟩
        rcases key with _ | ⟨d, key⟩
        · exact absurd (List.cons.inj hcs).1 hc
        · obtain ⟨rfl, rfl⟩ := List.cons.inj hcs
          exact ⟨key, ih.2 ⟨rest, rfl, fun h => hkey (List.mem_cons_of_mem _ h)⟩, rfl⟩

/-- Without a sign a placeholder is a block. -/
theorem recognise_unsigned {cs : List Char} (hraw : cs.head? ≠ some '=')
    (hescaped : cs.head? ≠ some '-') :
    recognise ('<' :: '%' :: cs) =
      (untilClose [] cs).map fun body => (.block, body.length + 3) := by
  rw [recognise]
  · rintro tail rfl
    exact hraw rfl
  · rintro tail rfl
    exact hescaped rfl

/-- The pattern recognises the placeholders, and no two of them begin at one place. Placeholders may
begin alike, with a sign or without one; the recogniser decides in a fixed order, and the
description has the same order in its conditions. -/
theorem recognises_placeholder : Recognises recognise IsPlaceholder where
  ne_nil := by
    rintro m p (_ | _ | _ | _)
    all_goals nofun
  sound := by
    intro cs p n h
    -- One case for each pattern of the recogniser. What comes with it is the first closing mark,
    -- and for a block without a sign that the patterns before have not applied.
    unfold recognise at h
    split at h
    · obtain ⟨key, hkey, hp⟩ := Option.map_eq_some_iff.1 h
      cases hp
      obtain ⟨_, rest, rfl, rfl, hclose⟩ := untilClose_eq_some_iff.1 hkey
      exact ⟨_, rest, by simp, .raw hclose⟩
    · obtain ⟨key, hkey, hp⟩ := Option.map_eq_some_iff.1 h
      cases hp
      obtain ⟨_, rest, rfl, rfl, hclose⟩ := untilClose_eq_some_iff.1 hkey
      exact ⟨_, rest, by simp, .escaped hclose⟩
    · next cs hraw hescaped =>
      obtain ⟨body, hbody, hp⟩ := Option.map_eq_some_iff.1 h
      cases hp
      obtain ⟨_, rest, rfl, rfl, hclose⟩ := untilClose_eq_some_iff.1 hbody
      refine ⟨_, rest, by simp, .block hclose ?_ ?_⟩
      · intro hsign
        obtain ⟨tail, rfl⟩ := List.head?_eq_some_iff.1 hsign
        exact hraw _ rfl
      · intro hsign
        obtain ⟨tail, rfl⟩ := List.head?_eq_some_iff.1 hsign
        exact hescaped _ rfl
    · obtain ⟨key, hkey, hp⟩ := Option.map_eq_some_iff.1 h
      cases hp
      obtain ⟨rest, rfl, hclose⟩ := untilBrace_eq_some_iff.1 hkey
      exact ⟨_, rest, by simp, .brace hclose⟩
    · nomatch h
  complete := by
    intro m p hmatch rest
    cases hmatch with
    | raw hclose =>
      simp [recognise, untilClose_append hclose rest]
    | escaped hclose =>
      simp [recognise, untilClose_append hclose rest]
    | @block body hclose hraw hescaped =>
      -- In front of the closing bracket there is no sign, nor is its first character one.
      have hhead : ∀ c, c ≠ '%' → body.head? ≠ some c →
          (body ++ '%' :: '>' :: rest).head? ≠ some c := by
        intro c hc hsign
        cases body with
        | nil => simpa using hc.symm
        | cons d body => exact hsign
      have hfound := recognise_unsigned (hhead _ (by decide) hraw) (hhead _ (by decide) hescaped)
      simp [hfound, untilClose_append hclose rest]
    | brace hclose =>
      have hkey := untilBrace_eq_some_iff.2 ⟨rest, rfl, hclose⟩
      simp [recognise, hkey]

/-!
## Keys and the values they lead to

A key is a row of words with dots between them, and each word is a member of the object that the
words before it lead to.
-/

/-- A key that is made of these words, joined by dots. -/
def Dotted (key : List Char) (parts : List (List Char)) : Prop :=
  parts ≠ [] ∧ (∀ part ∈ parts, part ≠ [] ∧ ∀ c ∈ part, isWord c = true ∨ c = '$') ∧
    key = ['.'].intercalate parts

/-- No part of a key holds a dot. -/
theorem dot_not_mem_of_word {part : List Char} (h : ∀ c ∈ part, isWord c = true ∨ c = '$') :
    '.' ∉ part := by
  intro hdot
  rcases h '.' hdot with hword | hdollar
  · exact absurd hword (by decide)
  · nomatch hdollar

/-- So a key is split into its parts. -/
theorem Dotted.splitAt_eq {key : List Char} {parts : List (List Char)} (h : Dotted key parts) :
    splitAt '.' key = parts := by
  obtain ⟨hne, hparts, rfl⟩ := h
  exact Text.splitAt_intercalate hne fun part hpart => dot_not_mem_of_word (hparts part hpart).2

/-- A key is accepted if it has parts. -/
theorem isKey_iff {key : List Char} : isKey key = true ↔ ∃ parts, Dotted key parts := by
  have hall : isKey key = true ↔
      ∀ part ∈ splitAt '.' key, part ≠ [] ∧ ∀ c ∈ part, isWord c = true ∨ c = '$' := by
    simp [isKey]
  rw [hall]
  exact Text.forall_mem_splitAt_iff fun part hpart => dot_not_mem_of_word hpart.2

/-- The value that keys lead to, one after another, each through an object. Only objects have
members, so a key that goes on behind a text leads nowhere. -/
inductive Reaches : Json → List String → Json → Prop where
  | here (v : Json) : Reaches v [] v
  | member {members : Members} {part : String} {parts : List String} {v w : Json}
      (hmember : members.get? part = some v) (hrest : Reaches v parts w) :
      Reaches (.object members) (part :: parts) w

/-- The walk through a table finds what its parts reach. -/
theorem walk_eq_some_iff {v w : Json} {parts : List String} :
    walk v parts = some w ↔ Reaches v parts w := by
  induction parts generalizing v with
  | nil =>
    constructor
    · rintro ⟨⟩
      exact .here _
    · rintro ⟨⟩
      rfl
  | cons part parts ih =>
    rw [walk]
    constructor
    · intro h
      split at h
      · nomatch h
      next u hmember =>
      cases v with
      | object members => exact .member hmember (ih.1 h)
      | _ => nomatch hmember
    · intro h
      cases h with
      | member hmember hrest =>
        rw [Json.get?, hmember]
        exact ih.2 hrest

/-- So does looking up a key. -/
theorem lookup_eq_some_iff {table : Members} {key : List Char} {parts : List (List Char)} {v : Json}
    (h : Dotted key parts) :
    lookup table key = some v ↔ Reaches (.object table) (parts.map String.ofList) v := by
  rw [lookup, h.splitAt_eq, walk_eq_some_iff]

/-- What is written for a value: a string as it is, nothing for `null`, JSON text for the rest. -/
inductive Shown : Json → List Char → Prop where
  | string (s : String) : Shown (.string s) s.toList
  | null : Shown .null []
  | other {v : Json} (hstring : ∀ s, v ≠ .string s) (hnull : v ≠ .null) : Shown v v.text

/-- A value is shown as its text, or as its JSON if it is no string. -/
theorem valueText_eq_iff {v : Json} {text : List Char} : valueText v = text ↔ Shown v text := by
  constructor
  · rintro rfl
    cases v with
    | string s => exact .string s
    | null => exact .null
    | _ => exact .other nofun nofun
  · intro h
    cases h with
    | string s => rfl
    | null => rfl
    | other hstring hnull =>
      cases v with
      | string s => exact absurd rfl (hstring s)
      | null => exact absurd rfl hnull
      | _ => rfl

/-!
## One placeholder

What becomes of a placeholder is said twice, once for each outcome, and shown to cover all cases
without overlap.
-/

/-- The text that takes the place of a placeholder. -/
inductive Fills (table : Members) : Placeholder → List Char → Prop where
  | raw {key text : List Char} {parts : List (List Char)} {v : Json} (hkey : Dotted key parts)
      (hvalue : Reaches (.object table) (parts.map String.ofList) v) (htext : Shown v text) :
      Fills table (.value false key) text
  | escaped {key text : List Char} {parts : List (List Char)} {v : Json} (hkey : Dotted key parts)
      (hvalue : Reaches (.object table) (parts.map String.ofList) v) (htext : Shown v text) :
      Fills table (.value true key) (Text.Entities.escape text)

/-- The reason why a placeholder, written like this in the document, cannot be filled. The reasons
are those of the messages: the key as it is written, or the words of it that lead nowhere. -/
inductive Offends (table : Members) (source : List Char) : Placeholder → String → Prop where
  | block :
      Offends table source .block ("unsupported evaluate block '" ++ String.ofList source ++ "'")
  | badKey {escaped : Bool} {key : List Char} (hkey : ∀ parts, ¬Dotted key parts) :
      Offends table source (.value escaped key)
        ("unsupported placeholder '" ++ String.ofList source ++ "'")
  | untranslated {escaped : Bool} {key : List Char} {parts : List (List Char)}
      (hkey : Dotted key parts)
      (hnone : ∀ v, ¬Reaches (.object table) (parts.map String.ofList) v) :
      Offends table source (.value escaped key) ("no translation for '" ++ String.ofList key ++ "'")

/-- A key without parts is refused. -/
theorem expand_of_not_dotted {table : Members} {source key : List Char} {escaped : Bool}
    (h : ∀ parts, ¬Dotted key parts) :
    expand table source (.value escaped key) = .error (.badKey (String.ofList source)) := by
  rw [expand, if_neg fun hkey => (isKey_iff.1 hkey).elim h]

/-- A key that reaches a value is replaced by it, escaped if it was asked to be. -/
theorem expand_of_reaches {table : Members} {source key : List Char} {escaped : Bool}
    {parts : List (List Char)} {v : Json} (h : Dotted key parts)
    (hvalue : Reaches (.object table) (parts.map String.ofList) v) :
    expand table source (.value escaped key) =
      .ok (if escaped then Text.Entities.escape (valueText v) else valueText v) := by
  rw [expand, if_pos (isKey_iff.2 ⟨parts, h⟩), (lookup_eq_some_iff h).2 hvalue]

/-- A key that reaches nothing has no translation. -/
theorem expand_of_not_reaches {table : Members} {source key : List Char} {escaped : Bool}
    {parts : List (List Char)} (h : Dotted key parts)
    (hnone : ∀ v, ¬Reaches (.object table) (parts.map String.ofList) v) :
    expand table source (.value escaped key) = .error (.untranslated (String.ofList key)) := by
  have hlookup : lookup table key = none := by
    rw [Option.eq_none_iff_forall_ne_some]
    exact fun v hv => hnone v ((lookup_eq_some_iff h).1 hv)
  rw [expand, if_pos (isKey_iff.2 ⟨parts, h⟩), hlookup]

/-- A placeholder is filled or has a problem. The cases are those of the key: dotted or not, and
leading to a value or not. -/
theorem fills_or_offends (table : Members) (source : List Char) (p : Placeholder) :
    (∃ text, expand table source p = .ok text ∧ Fills table p text) ∨
      ∃ problem, expand table source p = .error problem ∧
        Offends table source p problem.message := by
  cases p with
  | block => exact .inr ⟨_, rfl, .block⟩
  | value escaped key =>
    by_cases hkey : ∃ parts, Dotted key parts
    · obtain ⟨parts, hkey⟩ := hkey
      by_cases hvalue : ∃ v, Reaches (.object table) (parts.map String.ofList) v
      · obtain ⟨v, hvalue⟩ := hvalue
        refine .inl ⟨_, expand_of_reaches hkey hvalue, ?_⟩
        cases escaped with
        | false => exact .raw hkey hvalue (valueText_eq_iff.1 rfl)
        | true => exact .escaped hkey hvalue (valueText_eq_iff.1 rfl)
      · rw [not_exists] at hvalue
        exact .inr ⟨_, expand_of_not_reaches hkey hvalue, .untranslated hkey hvalue⟩
    · rw [not_exists] at hkey
      exact .inr ⟨_, expand_of_not_dotted hkey, .badKey hkey⟩

/-- A placeholder that can be filled is. -/
theorem expand_of_fills {table : Members} {source text : List Char} {p : Placeholder}
    (h : Fills table p text) : expand table source p = .ok text := by
  cases h with
  | raw hkey hvalue htext => rw [expand_of_reaches hkey hvalue, ← valueText_eq_iff.2 htext]; rfl
  | escaped hkey hvalue htext => rw [expand_of_reaches hkey hvalue, ← valueText_eq_iff.2 htext]; rfl

/-- And with nothing else. -/
theorem expand_eq_ok_iff {table : Members} {source text : List Char} {p : Placeholder} :
    expand table source p = .ok text ↔ Fills table p text := by
  constructor
  · intro h
    rcases fills_or_offends table source p with ⟨found, hfound, hfills⟩ | ⟨problem, hproblem, -⟩
    · rw [hfound] at h
      cases h
      exact hfills
    · rw [hproblem] at h
      nomatch h
  · exact expand_of_fills

/-- One that offends is refused for its reason. -/
theorem exists_expand_eq_error_iff {table : Members} {source : List Char} {p : Placeholder}
    {reason : String} :
    (∃ problem, expand table source p = .error problem ∧ problem.message = reason) ↔
      Offends table source p reason := by
  constructor
  · rintro ⟨problem, hproblem, rfl⟩
    rcases fills_or_offends table source p with ⟨text, htext, -⟩ | ⟨found, hfound, hoffends⟩
    · rw [htext] at hproblem
      nomatch hproblem
    · rw [hfound] at hproblem
      cases hproblem
      exact hoffends
  · rintro (_ | hkey | ⟨hkey, hnone⟩)
    · exact ⟨_, rfl, rfl⟩
    · exact ⟨_, expand_of_not_dotted hkey, rfl⟩
    · exact ⟨_, expand_of_not_reaches hkey hnone, rfl⟩

/-- Only letters, `$` and dots stand in a dotted key. -/
theorem Dotted.isWord_of_mem {key : List Char} {parts : List (List Char)} (h : Dotted key parts)
    {c : Char} (hc : c ∈ key) : isWord c = true ∨ c = '$' ∨ c = '.' := by
  obtain ⟨-, hparts, rfl⟩ := h
  induction parts with
  | nil => nomatch hc
  | cons part parts ih =>
    rw [List.forall_mem_cons] at hparts
    have hpart : c ∈ part → isWord c = true ∨ c = '$' ∨ c = '.' := fun hmem =>
      (hparts.1.2 c hmem).imp_right .inl
    cases parts with
    | nil =>
      rw [List.intercalate_singleton] at hc
      exact hpart hc
    | cons next parts =>
      rw [List.intercalate_cons_cons, List.mem_append, List.mem_append, List.mem_singleton] at hc
      rcases hc with (hmem | rfl) | hrest
      · exact hpart hmem
      · exact .inr (.inr rfl)
      · exact ih hparts.2 hrest

/-- A character is blank or is left by trimming. -/
theorem isBlank_or_mem_trim {cs : List Char} {c : Char} (h : c ∈ cs) :
    isBlank c = true ∨ c ∈ trim cs := by
  have hdrop : ∀ cs : List Char, c ∈ cs → isBlank c = true ∨ c ∈ cs.dropWhile isBlank := by
    intro cs hmem
    rw [← List.takeWhile_append_dropWhile (p := isBlank) (l := cs), List.mem_append] at hmem
    exact hmem.imp_left (List.all_eq_true.1 (List.all_takeWhile ..) c)
  rcases hdrop cs h with hblank | hstart
  · exact .inl hblank
  · rw [trim, Text.trimEnd, List.mem_reverse]
    exact hdrop _ (List.mem_reverse.2 hstart)

/-- A key has no brackets. -/
theorem Dotted.not_bracketed {written : List Char} {parts : List (List Char)}
    (h : Dotted (trim written) parts) : '[' ∉ written ∧ ']' ∉ written := by
  have hmem : ∀ c ∈ written, isBlank c = true ∨ isWord c = true ∨ c = '$' ∨ c = '.' := fun c hc =>
    (isBlank_or_mem_trim hc).imp_right h.isWord_of_mem
  exact ⟨fun hc => absurd (hmem _ hc) (by decide), fun hc => absurd (hmem _ hc) (by decide)⟩

/-- A placeholder that asks for a dotted key is written without brackets. -/
theorem IsPlaceholder.not_bracketed {m key : List Char} {escaped : Bool} {parts : List (List Char)}
    (h : IsPlaceholder m (.value escaped key)) (hkey : Dotted key parts) : '[' ∉ m ∧ ']' ∉ m := by
  cases h with
  | raw hclose => simpa using hkey.not_bracketed
  | escaped hclose => simpa using hkey.not_bracketed
  | brace hclose => simpa using hkey.not_bracketed

end Placeholder

/-!
## The whole document

A document is its pieces. Plain characters stay, and each placeholder is dealt with by itself; the
first that cannot be filled decides the failure.
-/

open Placeholder

/-- The document that comes of its pieces when every placeholder is filled. -/
inductive Filled (table : Members) : List (Piece Placeholder) → List Char → Prop where
  | done : Filled table [] []
  | plain {ps : List (Piece Placeholder)} {out : List Char} (c : Char)
      (hrest : Filled table ps out) : Filled table (.plain c :: ps) (c :: out)
  | token {m text out : List Char} {p : Placeholder} {ps : List (Piece Placeholder)}
      (hfills : Fills table p text) (hrest : Filled table ps out) :
      Filled table (.token m p :: ps) (text ++ out)

/-- Whether every placeholder among the pieces can be filled. -/
def Fillable (table : Members) (ps : List (Piece Placeholder)) : Prop :=
  ∀ m p, .token m p ∈ ps → ∃ text, Fills table p text

/-- The reason of the leftmost placeholder that cannot be filled. -/
def FirstOffends (table : Members) (ps : List (Piece Placeholder)) (reason : String) : Prop :=
  ∃ before m p after, ps = before ++ .token m p :: after ∧ Fillable table before ∧
    Offends table m p reason

/-- A source is filled piece by piece. -/
theorem interpolate_eq (table : Members) (source : List Char) :
    interpolate table source =
      ((pieces recognise source).mapM (expandPiece table)).map List.flatten := by
  unfold interpolate
  cases (pieces recognise source).mapM (expandPiece table) <;> rfl

/-- A text is filled if every piece is, and what these give is joined. -/
theorem filled_iff {table : Members} {ps : List (Piece Placeholder)} {out : List Char} :
    Filled table ps out ↔
      ∃ parts : List (List Char), ps.map (expandPiece table) = parts.map .ok ∧
        parts.flatten = out := by
  constructor
  · intro h
    induction h with
    | done => exact ⟨[], rfl, rfl⟩
    | plain c _ ih =>
      obtain ⟨parts, hparts, rfl⟩ := ih
      exact ⟨[c] :: parts, by rw [List.map_cons, hparts]; rfl, rfl⟩
    | token hfills _ ih =>
      obtain ⟨parts, hparts, rfl⟩ := ih
      exact ⟨_ :: parts, by rw [List.map_cons, expandPiece, expand_of_fills hfills, hparts]; rfl,
        rfl⟩
  · rintro ⟨parts, hparts, rfl⟩
    induction ps generalizing parts with
    | nil =>
      obtain rfl := List.map_eq_nil_iff.1 hparts.symm
      exact .done
    -- The front of the text comes from the first piece, the rest from the others.
    | cons p ps ih =>
      obtain ⟨text, parts, rfl, hp, hrest⟩ := List.map_eq_cons_iff.1 hparts.symm
      cases p with
      | plain c =>
        cases hp
        exact .plain c (ih parts hrest.symm)
      | token m p => exact .token (expand_eq_ok_iff.1 hp.symm) (ih parts hrest.symm)

/-- It can be filled if every piece can. -/
theorem fillable_iff {table : Members} {ps : List (Piece Placeholder)} :
    Fillable table ps ↔ ∀ p ∈ ps, ∃ text, expandPiece table p = .ok text := by
  constructor
  · rintro h (c | ⟨m, p⟩) hp
    · exact ⟨[c], rfl⟩
    · obtain ⟨text, htext⟩ := h m p hp
      exact ⟨text, expand_of_fills htext⟩
  · intro h m p hp
    obtain ⟨text, htext⟩ := h _ hp
    exact ⟨text, expand_eq_ok_iff.1 htext⟩

/-- So interpolation gives the filled text. -/
theorem interpolate_eq_ok_iff {table : Members} {source out : List Char} :
    interpolate table source = .ok out ↔ Filled table (pieces recognise source) out := by
  rw [interpolate_eq, map_eq_ok_iff, filled_iff]
  simp only [mapM_eq_ok_iff]

/-- And succeeds if there is one. -/
theorem exists_interpolate_eq_ok_iff {table : Members} {source : List Char} :
    (∃ out, interpolate table source = .ok out) ↔ Fillable table (pieces recognise source) := by
  rw [fillable_iff, ← exists_mapM_eq_ok_iff, interpolate_eq]
  constructor
  · rintro ⟨out, hout⟩
    obtain ⟨parts, hparts, -⟩ := map_eq_ok_iff.1 hout
    exact ⟨parts, hparts⟩
  · rintro ⟨parts, hparts⟩
    exact ⟨parts.flatten, map_eq_ok_iff.2 ⟨parts, hparts, rfl⟩⟩

/-- Only placeholders are refused. -/
theorem exists_expandPiece_eq_error_iff {table : Members} {piece : Piece Placeholder}
    {reason : String} :
    (∃ problem, expandPiece table piece = .error problem ∧ problem.message = reason) ↔
      ∃ m p, piece = .token m p ∧ Offends table m p reason := by
  cases piece with
  | plain c => exact ⟨nofun, nofun⟩
  | token m p =>
    constructor
    · intro h
      exact ⟨m, p, rfl, exists_expand_eq_error_iff.1 h⟩
    · rintro ⟨_, _, ⟨⟩, h⟩
      exact exists_expand_eq_error_iff.2 h

/-- The failure is that of the first placeholder that offends. All placeholders in front of it can
be filled. -/
theorem exists_interpolate_eq_error_iff {table : Members} {source : List Char} {reason : String} :
    (∃ problem, interpolate table source = .error problem ∧ problem.message = reason) ↔
      FirstOffends table (pieces recognise source) reason := by
  have hbefore : ∀ ps, (∀ p ∈ ps, errorOf? (expandPiece table p) = none) ↔ Fillable table ps := by
    intro ps
    simp only [fillable_iff, errorOf?_eq_none_iff]
  -- The error that is reported is that of the first piece that has one.
  simp only [interpolate_eq, map_eq_error_iff, mapM_eq_error_iff, List.findSome?_eq_some_iff,
    errorOf?_eq_some_iff, hbefore]
  constructor
  · rintro ⟨problem, ⟨before, piece, after, hps, hproblem, hfillable⟩, hreason⟩
    obtain ⟨m, p, rfl, hoffends⟩ := exists_expandPiece_eq_error_iff.1 ⟨problem, hproblem, hreason⟩
    exact ⟨before, m, p, after, hps, hfillable, hoffends⟩
  · rintro ⟨before, m, p, after, hps, hfillable, hoffends⟩
    obtain ⟨problem, hproblem, hreason⟩ :=
      exists_expandPiece_eq_error_iff.2 ⟨m, p, rfl, hoffends⟩
    exact ⟨problem, ⟨before, _, after, hps, hproblem, hfillable⟩, hreason⟩

/-- The pieces of a document are determined by what placeholders look like. If all of them can be
filled, the document is filled piece by piece, and no block and no key with brackets was among
them; else the reason is that of the leftmost one that cannot. -/
theorem interpolate_fills (table : Members) (source : List Char) :
    ∃ ps, (∀ qs, Cut IsPlaceholder source qs ↔ qs = ps) ∧
      ((∃ out, interpolate table source = .ok out) ↔ Fillable table ps) ∧
      (∀ out, interpolate table source = .ok out ↔ Filled table ps out) ∧
      (∀ reason, (∃ problem, interpolate table source = .error problem ∧
          problem.message = reason) ↔ FirstOffends table ps reason) ∧
      (∀ out, interpolate table source = .ok out → ∀ m p, .token m p ∈ ps →
        p ≠ .block ∧ '[' ∉ m ∧ ']' ∉ m) := by
  refine ⟨pieces recognise source, fun qs => recognises_placeholder.cut_iff.trans eq_comm,
    exists_interpolate_eq_ok_iff, fun out => interpolate_eq_ok_iff,
    fun reason => exists_interpolate_eq_error_iff, fun out hout m p hp => ?_⟩
  obtain ⟨text, hfills⟩ := exists_interpolate_eq_ok_iff.1 ⟨out, hout⟩ m p hp
  have hmatch := (recognises_placeholder.cut_pieces source).matches_of_mem hp
  cases hfills with
  | raw hkey => exact ⟨nofun, hmatch.not_bracketed hkey⟩
  | escaped hkey => exact ⟨nofun, hmatch.not_bracketed hkey⟩

-- What is inserted is not looked at again, and each kind of placeholder is filled in its way.
example : (interpolate [("a", .string "<$\x7ba\x7d>")] "<%- a %>$\x7ba\x7d".toList).toOption =
    some "&lt;$\x7ba\x7d&gt;<$\x7ba\x7d>".toList := by decide

end MailTemplates
