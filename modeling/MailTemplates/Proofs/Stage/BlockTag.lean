import MailTemplates.Proofs.Handlebars.Mustaches
import MailTemplates.Stage.RawMarker
/-!
# What deferring takes for a block tag

Deferring does not read tags. It looks for two braces with a sign of a block behind them, or with
`else` before anything that continues no word, and for two braces behind the next characters that
are none (`IsMarked`). These texts, and no others, are what the recogniser of deferring finds
(`recognises_blockTag`).

The recogniser is written with lengths and with what is dropped, the description with what stands
where. They are brought together part by part: the tilde and the blanks in front
(`exists_append_lead`), the sign (`signLength_eq_some`), and the braces behind (`blockTag_eq`).
Whether there is a block is decided before the first closing brace (`startsBlock_append`), so the
text behind a tag has no part in it.
-/

namespace MailTemplates.RawMarker

open Handlebars (Mustache)
open Handlebars.Mustache (firstWord hasSign lead)
open Text (Recognises isBlank isWord)

/-- Whether a sign of a block comes first, or the word characters that come first are `else`. Both
are looked for behind what may stand between the braces and the sign. -/
def startsBlock (cs : List Char) : Bool := hasSign cs || firstWord cs == "else".toList

/-- The texts around which deferring puts markers. There is no closing brace before the last two,
and what is between need not be anything that a template engine would accept. -/
def IsMarked (m : List Char) : Prop :=
  ∃ inner, m = '{' :: '{' :: (inner ++ ['}', '}']) ∧ '}' ∉ inner ∧ startsBlock (lead inner) = true

/-- Whether a tag starts a block is decided before its first closing brace. -/
theorem startsBlock_append (xs rest : List Char) :
    startsBlock (xs ++ '}' :: rest) = startsBlock xs := by
  unfold startsBlock
  rw [Mustache.hasSign_append, Mustache.firstWord_append]

/-! ## The parts of a block tag -/

/-- What stops the taking is not taken. -/
theorem not_mem_takeWhile {p : Char → Bool} {c : Char} (hc : p c = false) (cs : List Char) :
    c ∉ cs.takeWhile p := fun hmem =>
  absurd (List.all_eq_true.1 (List.all_takeWhile ..) _ hmem) (Bool.eq_false_iff.1 hc)

/-- A text without a character is passed on the way to the next one. -/
theorem forall_bne_of_not_mem {c : Char} {cs : List Char} (h : c ∉ cs) :
    ∀ x ∈ cs, (x != c) = true := by
  intro x hx
  rw [bne_iff_ne]
  rintro rfl
  exact h hx

/-- What is passed in front of the sign is a tilde and blanks. -/
theorem exists_append_lead (cs : List Char) :
    let tilde := if cs.head? == some '~' then 1 else 0
    ∃ front, cs = front ++ lead cs ∧ '}' ∉ front ∧
      front.length = tilde + ((cs.drop tilde).takeWhile isBlank).length := by
  have hblanks : ∀ cs : List Char, '}' ∉ cs.takeWhile isBlank := not_mem_takeWhile (by decide)
  intro tilde
  cases cs with
  | nil => exact ⟨[], rfl, List.not_mem_nil, rfl⟩
  | cons c cs =>
    by_cases hc : c = '~'
    · subst hc
      refine ⟨'~' :: cs.takeWhile isBlank, ?_, ?_, ?_⟩
      · exact congrArg ('~' :: ·) List.takeWhile_append_dropWhile.symm
      · exact List.not_mem_cons_of_ne_of_not_mem (by decide) (hblanks cs)
      · exact Nat.add_comm _ 1
    · have htilde : tilde = 0 := if_neg (by simpa using hc)
      refine ⟨(c :: cs).takeWhile isBlank, ?_, hblanks _, ?_⟩
      · rw [lead, if_neg hc, List.takeWhile_append_dropWhile]
      · rw [htilde, Nat.zero_add, List.drop_zero]

/-- A sign is one of the three that begin a block tag. -/
theorem hasSign_iff {cs : List Char} :
    hasSign cs = true ↔ ∃ sign rest, cs = sign :: rest ∧ sign ∈ ['#', '/', '^'] := by
  cases cs with
  | nil => simp [hasSign, List.isPrefixOf]
  | cons c cs => simp [hasSign, List.isPrefixOf, or_assoc, eq_comm (b := c)]

/-- A word may go on behind `else`. -/
theorem firstWord_else (cs : List Char) :
    firstWord ("else".toList ++ cs) = "else".toList ++ firstWord cs :=
  List.takeWhile_append_of_pos (List.all_eq_true.1 (by decide))

/-- The recogniser of signs finds one where a block starts. -/
theorem isSome_signLength (cs : List Char) : (signLength cs).isSome = startsBlock cs := by
  unfold signLength
  split
  · rfl
  · rfl
  · rfl
  · next cs =>
    have hsign : hasSign ("else".toList ++ cs) = false := rfl
    have hword : startsBlock ("else".toList ++ cs) = (firstWord cs).isEmpty := by
      rw [startsBlock, hsign, firstWord_else, Bool.false_or, Bool.eq_iff_iff, beq_iff_eq,
        List.append_right_eq_self, List.isEmpty_iff]
    show _ = startsBlock ("else".toList ++ cs)
    rw [hword]
    cases cs with
    | nil => rfl
    | cons c cs => by_cases hc : isWord c = true <;> simp [firstWord, hc]
  · next hhash hslash hcaret helse =>
    -- None of the four patterns applies, so neither is there a sign, nor is the first word `else`.
    symm
    rw [Option.isSome_none, startsBlock, Bool.or_eq_false_iff, Bool.eq_false_iff, Ne, hasSign_iff,
      beq_eq_false_iff_ne]
    constructor
    · rintro ⟨sign, rest, rfl, hsign⟩
      simp only [List.mem_cons, List.not_mem_nil, or_false] at hsign
      rcases hsign with rfl | rfl | rfl
      · exact hhash rest rfl
      · exact hslash rest rfl
      · exact hcaret rest rfl
    · intro hword
      obtain ⟨rest, hrest⟩ := List.takeWhile_prefix (l := cs) isWord
      rw [show cs.takeWhile isWord = _ from hword] at hrest
      exact helse rest hrest.symm

/-- A sign is the front of a text, of its length, without a brace. -/
theorem signLength_eq_some {cs : List Char} {n : Nat} (h : signLength cs = some n) :
    ∃ sign rest, cs = sign ++ rest ∧ sign.length = n ∧ '}' ∉ sign := by
  unfold signLength at h
  split at h
  · cases h
    exact ⟨['#'], _, rfl, rfl, by decide⟩
  · cases h
    exact ⟨['/'], _, rfl, rfl, by decide⟩
  · cases h
    exact ⟨['^'], _, rfl, rfl, by decide⟩
  · next cs =>
    refine ⟨"else".toList, cs, rfl, ?_, by decide⟩
    split at h
    · split at h
      · nomatch h
      · cases h
        rfl
    · cases h
      rfl
  · nomatch h

/-- Where a block starts, the next closing brace decides. The text behind is cut at its first
closing brace, and this has to be followed by another one. -/
theorem blockTag_eq (cs : List Char) :
    blockTag ('{' :: '{' :: cs) = if startsBlock (lead cs) then
      match cs.dropWhile (· != '}') with
      | '}' :: '}' :: _ => some ((), (cs.takeWhile (· != '}')).length + 3)
      | _ => none
    else none := by
  obtain ⟨front, hfront, hbrace, hlength⟩ := exists_append_lead cs
  have hlead : cs.drop front.length = lead cs := by
    conv => lhs; rw [hfront]
    exact List.drop_left
  rw [blockTag]
  dsimp only
  rw [← hlength, hlead, ← isSome_signLength]
  cases hsign : signLength (lead cs) with
  | none => rfl
  | some n =>
    obtain ⟨sign, rest, hrest, rfl, hbrace'⟩ := signLength_eq_some hsign
    have hpassed : ∀ c ∈ front ++ sign, (c != '}') = true :=
      forall_bne_of_not_mem fun hmem => (List.mem_append.1 hmem).elim hbrace hbrace'
    have hcs : cs = (front ++ sign) ++ rest := by rw [List.append_assoc, ← hrest, ← hfront]
    have hdrop : cs.drop (front.length + sign.length) = rest := by
      rw [hcs, ← List.length_append, List.drop_left]
    have htake : cs.takeWhile (· != '}') = front ++ sign ++ rest.takeWhile (· != '}') := by
      rw [hcs, List.takeWhile_append_of_pos hpassed]
    have hinner : front.length + sign.length + (rest.takeWhile (· != '}')).length =
        (cs.takeWhile (· != '}')).length := by rw [htake, List.length_append, List.length_append]
    have hbehind : cs.drop (cs.takeWhile (· != '}')).length = cs.dropWhile (· != '}') := by
      conv => lhs; arg 2; rw [← List.takeWhile_append_dropWhile (p := (· != '}')) (l := cs)]
      exact List.drop_left
    rw [Option.isSome_some, if_pos rfl, ← hbehind, ← hinner]
    show (match cs.drop (front.length + sign.length +
        ((cs.drop (front.length + sign.length)).takeWhile (· != '}')).length) with
      | '}' :: '}' :: _ => some ((), front.length + sign.length +
        ((cs.drop (front.length + sign.length)).takeWhile (· != '}')).length + 3)
      | _ => none) = _
    rw [hdrop]

/-- A block tag reaches to the first two braces, and has no brace before them. -/
theorem blockTag_eq_some_iff {cs : List Char} {n : Nat} :
    blockTag ('{' :: '{' :: cs) = some ((), n) ↔ ∃ inner rest, cs = inner ++ '}' :: '}' :: rest ∧
      '}' ∉ inner ∧ startsBlock (lead inner) = true ∧ n = inner.length + 3 := by
  rw [blockTag_eq]
  constructor
  · intro h
    split at h
    · next hstarts =>
      split at h
      · next rest hrest =>
        cases h
        have hcs : cs = cs.takeWhile (· != '}') ++ '}' :: '}' :: rest := by
          rw [← hrest, List.takeWhile_append_dropWhile]
        refine ⟨_, rest, hcs, not_mem_takeWhile (by decide) cs, ?_, rfl⟩
        rw [hcs, Mustache.lead_append, startsBlock_append] at hstarts
        exact hstarts
      · nomatch h
    · nomatch h
  · rintro ⟨inner, rest, rfl, hbrace, hstarts, rfl⟩
    have hpassed := forall_bne_of_not_mem hbrace
    rw [Mustache.lead_append, startsBlock_append, if_pos hstarts,
      List.dropWhile_append_of_pos hpassed, List.takeWhile_append_of_pos hpassed]
    simp

/-- The pattern recognises the marked tags. So the text that is wrapped is determined by where it
begins. -/
theorem recognises_blockTag : Recognises blockTag fun m _ => IsMarked m where
  ne_nil := by
    rintro m _ ⟨inner, rfl, -, -⟩
    exact List.cons_ne_nil _ _
  sound := by
    intro cs _ n h
    unfold blockTag at h
    split at h
    · next cs =>
      obtain ⟨inner, rest, rfl, hbrace, hstarts, -⟩ := blockTag_eq_some_iff.1 h
      exact ⟨_, rest, by simp, inner, rfl, hbrace, hstarts⟩
    · nomatch h
  complete := by
    rintro m _ ⟨inner, rfl, hbrace, hstarts⟩ rest
    have hfound := blockTag_eq_some_iff.2 ⟨inner, rest, rfl, hbrace, hstarts, rfl⟩
    simpa using hfound

end MailTemplates.RawMarker
