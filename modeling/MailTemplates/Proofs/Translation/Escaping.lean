import MailTemplates.Proofs.Text.Escaping
import MailTemplates.Proofs.Translation.Filling
/-!
# Escaped placeholders

What `<%- key %>` puts into a document is an escaped text, so it is inert, whatever the translation
says. It stands between what is put for the pieces in front of it and for those behind it, which are
not changed by it (`filled_append_iff`). All the markup of a document is therefore that of its text
and of the placeholders which do not escape: the document with its escaped placeholders taken out
has the same markup characters, in the same order (`Filled.filter_isMarkup`).

Main statement: `escaping_keeps_markup_out`.
-/

namespace MailTemplates

open Placeholder (IsPlaceholder Fills recognise recognises_placeholder)
open Text (Cut Piece pieces)
open Text.Entities (IsEntity Inert escape unescape isMarkup readAs)

variable {table : Members} {m text out : List Char} {p : Placeholder}

/-- The pieces that are not placeholders of the form `<%- … %>`. -/
def withoutEscaped (ps : List (Piece Placeholder)) : List (Piece Placeholder) :=
  ps.filter fun
    | .plain _ => true
    | .token m _ => !(['<', '%', '-'].isPrefixOf m)

/-!
## One placeholder

An escaping placeholder puts in a text without any markup, whatever the translation is; so the
markup of a filled document is that of the other pieces.
-/

/-- A placeholder with the hyphen takes an escaped value. -/
theorem Placeholder.IsPlaceholder.escaped_of_sign (h : IsPlaceholder m p)
    (hsign : ['<', '%', '-'] <+: m) : ∃ key, p = .value true key := by
  cases h with
  | raw => simp at hsign
  | escaped => exact ⟨_, rfl⟩
  | @block body hclose hraw hescaped =>
    cases body with
    | nil => simp at hsign
    | cons c body =>
      have hc : '-' = c := by simpa using hsign
      exact absurd (congrArg some hc.symm) hescaped
  | brace => simp at hsign

/-- What is filled in for it is inert. -/
theorem Placeholder.Fills.inert {key : List Char} (h : Fills table (.value true key) text) :
    Inert text := by
  cases h with
  | escaped => exact Text.Entities.inert_escape _

/-- A placeholder with the sign for escaping puts in a text without markup. -/
theorem inert_of_sign (hmatch : IsPlaceholder m p) (hsign : ['<', '%', '-'] <+: m)
    (hfills : Fills table p text) : Inert text := by
  obtain ⟨key, rfl⟩ := hmatch.escaped_of_sign hsign
  exact hfills.inert

/-! ## The whole document -/

/-- A text is filled part by part. -/
theorem filled_append_iff {ps qs : List (Piece Placeholder)} :
    Filled table (ps ++ qs) out ↔
      ∃ front behind, Filled table ps front ∧ Filled table qs behind ∧ out = front ++ behind := by
  constructor
  · intro h
    induction ps generalizing out with
    | nil => exact ⟨[], out, .done, h, rfl⟩
    | cons piece ps ih =>
      cases h with
      | plain c hrest =>
        obtain ⟨front, behind, hfront, hbehind, rfl⟩ := ih hrest
        exact ⟨c :: front, behind, .plain c hfront, hbehind, rfl⟩
      | token hfills hrest =>
        obtain ⟨front, behind, hfront, hbehind, rfl⟩ := ih hrest
        exact ⟨_ ++ front, behind, .token hfills hfront, hbehind, (List.append_assoc ..).symm⟩
  · rintro ⟨front, behind, hfront, hbehind, rfl⟩
    induction hfront with
    | done => exact hbehind
    | plain c _ ih => exact .plain c ih
    | token hfills _ ih =>
      rw [List.append_assoc]
      exact .token hfills ih

/-- What is filled in for a placeholder stands between what is filled in before it and behind it. -/
theorem Filled.around {before after : List (Piece Placeholder)}
    (h : Filled table (before ++ .token m p :: after) out) :
    ∃ front text behind, Filled table before front ∧ Fills table p text ∧
      Filled table after behind ∧ out = front ++ (text ++ behind) := by
  obtain ⟨front, rest, hfront, hrest, rfl⟩ := filled_append_iff.1 h
  cases hrest with
  | token hfills hbehind => exact ⟨front, _, _, hfront, hfills, hbehind, rfl⟩

/-- The markup characters of a document are those that are left without its escaped
placeholders. -/
theorem Filled.filter_isMarkup {ps : List (Piece Placeholder)} (h : Filled table ps out)
    (hmatches : ∀ m p, .token m p ∈ ps → IsPlaceholder m p) :
    ∃ bare, Filled table (withoutEscaped ps) bare ∧
      out.filter isMarkup = bare.filter isMarkup := by
  induction h with
  | done => exact ⟨[], .done, rfl⟩
  | plain c _ ih =>
    obtain ⟨bare, hbare, hmarkup⟩ := ih fun m p hmem => hmatches m p (List.mem_cons_of_mem _ hmem)
    exact ⟨c :: bare, .plain c hbare, by rw [List.filter_cons, hmarkup, List.filter_cons]⟩
  | @token m text out p ps hfills _ ih =>
    obtain ⟨bare, hbare, hmarkup⟩ := ih fun m p hmem => hmatches m p (List.mem_cons_of_mem _ hmem)
    by_cases hsign : ['<', '%', '-'] <+: m
    · have hinert : Inert text := inert_of_sign (hmatches m p List.mem_cons_self) hsign hfills
      have hdrop : withoutEscaped (.token m p :: ps) = withoutEscaped ps :=
        List.filter_cons_of_neg (by simp [List.isPrefixOf_iff_prefix.2 hsign])
      refine ⟨bare, hdrop ▸ hbare, ?_⟩
      rw [List.filter_append, hinert.filter_isMarkup, List.nil_append, hmarkup]
    · have hkeep : withoutEscaped (.token m p :: ps) = .token m p :: withoutEscaped ps :=
        List.filter_cons_of_pos (by simpa [← List.isPrefixOf_iff_prefix] using hsign)
      refine ⟨text ++ bare, hkeep ▸ .token hfills hbare, ?_⟩
      rw [List.filter_append, List.filter_append, hmarkup]

/-- Parts of a text are escaped apart from each other. The escaped texts are the inert ones, and
reading their entities back in one pass gives the text that was escaped. Each `<%- … %>` of a
document puts an inert text between what the pieces around it are filled with, and none of the
markup characters of the document come from it. -/
theorem escaping_keeps_markup_out :
    (∀ a b, escape (a ++ b) = escape a ++ escape b) ∧
      (∀ text, (∃ a, escape a = text) ↔ Inert text) ∧
      (∀ text a, unescape text = a ↔ ∃ ps, Cut IsEntity text ps ∧ ps.map readAs = a) ∧
      (∀ a, unescape (escape a) = a) ∧
      Function.Injective escape ∧
      ∀ table source, ∃ ps, (∀ qs, Cut IsPlaceholder source qs ↔ qs = ps) ∧
        ∀ out, interpolate table source = .ok out →
          (∀ before m p after, ps = before ++ .token m p :: after → ['<', '%', '-'] <+: m →
            ∃ front text behind, Filled table before front ∧ Fills table p text ∧
              Filled table after behind ∧ out = front ++ (text ++ behind) ∧ Inert text) ∧
          ∃ bare, Filled table (withoutEscaped ps) bare ∧
            out.filter isMarkup = bare.filter isMarkup := by
  refine ⟨Text.Entities.escape_append, fun text => Text.Entities.exists_escape_eq_iff,
    fun text a => Text.Entities.unescape_eq_iff, Text.Entities.unescape_escape,
    Text.Entities.escape_injective, fun table source => ?_⟩
  have hmatches : ∀ m p, .token m p ∈ pieces recognise source → IsPlaceholder m p :=
    fun m p hmem => (recognises_placeholder.cut_pieces source).matches_of_mem hmem
  refine ⟨pieces recognise source, fun qs => recognises_placeholder.cut_iff.trans eq_comm,
    fun out hout => ?_⟩
  have hfilled : Filled table (pieces recognise source) out := interpolate_eq_ok_iff.1 hout
  refine ⟨fun before m p after hps hsign => ?_, hfilled.filter_isMarkup hmatches⟩
  have hmatch : IsPlaceholder m p := hmatches m p (by simp [hps])
  obtain ⟨front, text, behind, hfront, hfills, hbehind, hparts⟩ := (hps ▸ hfilled).around
  exact ⟨front, text, behind, hfront, hfills, hbehind, hparts, inert_of_sign hmatch hsign hfills⟩

/-- A title with markup in its value: none of it is left in the document. -/
theorem escaping_keeps_title_quoted :
    let source := "<a title=\"<%- t %>\">".toList
    let table : Members := [("t", .string "\"><b>&lt;")]
    let out := "<a title=\"&quot;&gt;&lt;b&gt;&amp;lt;\">".toList
    interpolate table source = .ok out ∧
      unescape (escape "\"><b>&lt;".toList) = "\"><b>&lt;".toList ∧
      ∃ ps bare, Cut IsPlaceholder source ps ∧ Filled table (withoutEscaped ps) bare ∧
        out.filter isMarkup = bare.filter isMarkup := by
  intro source table out
  have hout : interpolate table source = .ok out := eq_ok_of_toOption (by decide)
  obtain ⟨-, -, -, hback, -, hdocument⟩ := escaping_keeps_markup_out
  obtain ⟨ps, hcut, hfilled⟩ := hdocument table source
  obtain ⟨-, bare, hbare, hmarkup⟩ := hfilled out hout
  exact ⟨hout, hback _, ps, bare, (hcut ps).2 rfl, hbare, hmarkup⟩

end MailTemplates
