import MailTemplates.Text.Piece
/-!
# Cutting a text

Cutting goes from left to right. Where a match of some kind starts it is cut out whole, and
otherwise one character is kept (`Cut`). There is a way to do this for every text (`exists_cut`),
and only one if no match begins another one (`Cut.unique`). A recogniser may know the matches of
some kind (`Recognises`): it finds those, and nothing else, at the front of a text. Then the one way
is that which `pieces` takes (`Recognises.cut_iff`).

`Cut` is the specification and `pieces` the program. A cut is unique although it is a relation,
because at each point of a text at most one rule applies: a match begins there, and then it is the
same match in every cut, or none does. The two are brought together by the equations for a match in
front (`Recognises.pieces_append`) and for any other first character (`Recognises.pieces_cons`), and
no proof outside of this module unfolds the pass.
-/

namespace MailTemplates.Text

/-!
## The front of a text

Two facts on taking and dropping characters, which all recognisers need.
-/

section Front

variable {p : Char → Bool} {c : Char}

/-- What is taken off the front of a text ends at a character that is not taken, so that it does not
matter what stands behind this. -/
theorem takeWhile_append_cons (hc : p c = false) (xs rest : List Char) :
    (xs ++ c :: rest).takeWhile p = xs.takeWhile p := by
  induction xs with
  | nil => exact List.takeWhile_cons_of_neg (by simp [hc])
  | cons x xs ih => rw [List.cons_append, List.takeWhile_cons, List.takeWhile_cons, ih]

/-- So is what is dropped. -/
theorem dropWhile_append_cons (hc : p c = false) (xs rest : List Char) :
    (xs ++ c :: rest).dropWhile p = xs.dropWhile p ++ c :: rest := by
  induction xs with
  | nil => exact List.dropWhile_cons_of_neg (by simp [hc])
  | cons x xs ih =>
    by_cases hx : p x = true
    · rw [List.cons_append, List.dropWhile_cons_of_pos hx, List.dropWhile_cons_of_pos hx, ih]
    · rw [List.cons_append, List.dropWhile_cons_of_neg hx, List.dropWhile_cons_of_neg hx]
      rfl

end Front

/-!
## Cuts

A recogniser is a function on the front of a text, and what it recognises a set of texts. The law
that ties them together (`Recognises`) is what each pattern of the library is proved to have.
-/

variable {α : Type} {r : Recogniser α} {Matches : List Char → α → Prop}

/-- Characters that are to be skipped are not looked at. -/
theorem piecesFrom_drop (r : Recogniser α) (cs : List Char) :
    ∀ n, piecesFrom r n cs = piecesFrom r 0 (cs.drop n) := by
  induction cs with
  | nil => intro n; cases n <;> rfl
  | cons c cs ih =>
    intro n
    cases n with
    | zero => rfl
    | succ n => exact ih n

/-- What is recognised at the front of a text are the matches of some kind. -/
structure Recognises (r : Recogniser α) (Matches : List Char → α → Prop) : Prop where
  ne_nil {m : List Char} {a : α} : Matches m a → m ≠ []
  sound {cs : List Char} {a : α} {n : Nat} : r cs = some (a, n) →
    ∃ m rest, cs = m ++ rest ∧ Matches m a
  complete {m : List Char} {a : α} : Matches m a → ∀ rest, r (m ++ rest) = some (a, m.length - 1)

/-- The leftmost matches that do not overlap, and the characters between them. -/
inductive Cut (Matches : List Char → α → Prop) : List Char → List (Piece α) → Prop where
  | done : Cut Matches [] []
  | token {m cs : List Char} {a : α} {ps : List (Piece α)} (hmatch : Matches m a)
      (hrest : Cut Matches cs ps) : Cut Matches (m ++ cs) (.token m a :: ps)
  | plain {c : Char} {cs : List Char} {ps : List (Piece α)}
      (hnone : ∀ m a, Matches m a → ¬m <+: c :: cs) (hrest : Cut Matches cs ps) :
      Cut Matches (c :: cs) (.plain c :: ps)

/-- Every token of a cut matches. -/
theorem Cut.matches_of_mem {cs m : List Char} {a : α} {ps : List (Piece α)} (h : Cut Matches cs ps)
    (hmem : .token m a ∈ ps) : Matches m a := by
  induction h with
  | done => nomatch hmem
  | token hmatch _ ih =>
    rcases List.mem_cons.1 hmem with hfirst | hrest
    · cases hfirst
      exact hmatch
    · exact ih hrest
  | plain _ _ ih =>
    rcases List.mem_cons.1 hmem with hfirst | hrest
    · nomatch hfirst
    · exact ih hrest

/-- And is a part of the text. -/
theorem Cut.infix_of_mem {cs m : List Char} {a : α} {ps : List (Piece α)} (h : Cut Matches cs ps)
    (hmem : .token m a ∈ ps) : m <:+: cs := by
  induction h with
  | done => nomatch hmem
  | token _ _ ih =>
    rcases List.mem_cons.1 hmem with hfirst | hrest
    · cases hfirst
      exact (List.prefix_append _ _).isInfix
    · exact (ih hrest).trans (List.suffix_append _ _).isInfix
  | plain _ _ ih =>
    rcases List.mem_cons.1 hmem with hfirst | hrest
    · nomatch hfirst
    · exact (ih hrest).trans (List.suffix_cons _ _).isInfix

/-- Whether no match begins another one, nor the same text with another value. -/
def PrefixFree (Matches : List Char → α → Prop) : Prop :=
  ∀ m a m' a', Matches m a → Matches m' a' → m <+: m' → m = m' ∧ a = a'

/-- Every text can be cut, if no match is empty. -/
theorem exists_cut (hne : ∀ m a, Matches m a → m ≠ []) (cs : List Char) :
    ∃ ps, Cut Matches cs ps := by
  induction hlength : cs.length using Nat.strongRecOn generalizing cs with
  | ind n ih =>
    cases cs with
    | nil => exact ⟨_, .done⟩
    | cons c cs =>
      by_cases hmatch : ∃ m a, Matches m a ∧ m <+: c :: cs
      · obtain ⟨m, a, hmatch, rest, hrest⟩ := hmatch
        have hshorter : rest.length < n := by
          have hm := List.length_pos_iff.2 (hne m a hmatch)
          rw [← hlength, ← hrest, List.length_append]
          omega
        obtain ⟨ps, hps⟩ := ih _ hshorter rest rfl
        rw [← hrest]
        exact ⟨_, .token hmatch hps⟩
      · obtain ⟨ps, hps⟩ := ih cs.length (by rw [← hlength, List.length_cons]; omega) cs rfl
        exact ⟨_, .plain (fun m a hm hprefix => hmatch ⟨m, a, hm, hprefix⟩) hps⟩

/-- What starts at one place is a match and the beginning of another only if they are the same, so
a text is cut in one way. -/
theorem Cut.unique (hfree : PrefixFree Matches) (hne : ∀ m a, Matches m a → m ≠ [])
    {cs : List Char} {ps qs : List (Piece α)} (h : Cut Matches cs ps) (h' : Cut Matches cs qs) :
    ps = qs := by
  induction h generalizing qs with
  | done =>
    generalize hcs : ([] : List Char) = cs at h'
    cases h' with
    | done => rfl
    | token hmatch _ => exact absurd (List.append_eq_nil_iff.1 hcs.symm).1 (hne _ _ hmatch)
    | plain _ _ => nomatch hcs
  | @token m cs a ps hmatch hrest ih =>
    generalize htext : m ++ cs = text at h'
    cases h' with
    | done => exact absurd (List.append_eq_nil_iff.1 htext).1 (hne _ _ hmatch)
    | @token m' cs' a' qs hmatch' hrest' =>
      -- Of two matches at one place one begins the other, so they are the same.
      have hsame : m = m' ∧ a = a' := by
        rcases List.prefix_or_prefix_of_prefix (List.prefix_append m cs)
          (htext ▸ List.prefix_append m' cs') with hprefix | hprefix
        · exact hfree _ _ _ _ hmatch hmatch' hprefix
        · exact (hfree _ _ _ _ hmatch' hmatch hprefix).imp Eq.symm Eq.symm
      obtain ⟨rfl, rfl⟩ := hsame
      rw [List.append_cancel_left htext] at ih
      rw [ih hrest']
    | plain hnone _ => exact absurd ⟨cs, htext⟩ (hnone _ _ hmatch)
  | plain hnone _ ih =>
    generalize htext : _ :: _ = text at h'
    cases h' with
    | done => nomatch htext
    | token hmatch' _ => exact absurd ⟨_, htext.symm⟩ (hnone _ _ hmatch')
    | plain _ hrest' =>
      obtain ⟨rfl, rfl⟩ := List.cons.inj htext
      rw [ih hrest']

/-- The pieces of a text, read one after another, are the text. -/
theorem Cut.flatMap_source {cs : List Char} {ps : List (Piece α)} (h : Cut Matches cs ps) :
    ps.flatMap Piece.source = cs := by
  induction h with
  | done => rfl
  | token _ _ ih => rw [List.flatMap_cons, ih]; rfl
  | plain _ _ ih => rw [List.flatMap_cons, ih]; rfl

namespace Recognises

/-- A match at the front is the first piece. -/
theorem pieces_append (h : Recognises r Matches) {m : List Char} {a : α} (hmatch : Matches m a)
    (cs : List Char) : pieces r (m ++ cs) = .token m a :: pieces r cs := by
  obtain ⟨c, tail, rfl⟩ := List.exists_cons_of_ne_nil (h.ne_nil hmatch)
  have hfound : r (c :: (tail ++ cs)) = some (a, tail.length) := h.complete hmatch cs
  rw [pieces_eq, pieces_eq, List.cons_append, piecesFrom, hfound]
  dsimp only
  rw [List.take_left, piecesFrom_drop, List.drop_left]

/-- If there is none, the first character is. -/
theorem pieces_cons (h : Recognises r Matches) {c : Char} {cs : List Char}
    (hnone : ∀ m a, Matches m a → ¬m <+: c :: cs) :
    pieces r (c :: cs) = .plain c :: pieces r cs := by
  have hmissing : r (c :: cs) = none := by
    cases hfound : r (c :: cs) with
    | none => rfl
    | some found =>
      obtain ⟨m, rest, hcs, hmatch⟩ := h.sound hfound
      exact absurd ⟨rest, hcs.symm⟩ (hnone m _ hmatch)
  rw [pieces_eq, pieces_eq, piecesFrom, hmissing]

/-- So a cut is what the pass gives. -/
theorem pieces_of_cut (h : Recognises r Matches) {cs : List Char} {ps : List (Piece α)}
    (hcut : Cut Matches cs ps) : pieces r cs = ps := by
  induction hcut with
  | done => rfl
  | token hmatch _ ih => rw [h.pieces_append hmatch, ih]
  | plain hnone _ ih => rw [h.pieces_cons hnone, ih]

/-- And the pass gives a cut. -/
theorem cut_pieces (h : Recognises r Matches) (cs : List Char) : Cut Matches cs (pieces r cs) := by
  obtain ⟨ps, hcut⟩ := exists_cut (fun m a => h.ne_nil) cs
  rwa [h.pieces_of_cut hcut]

/-- A text is cut in one way. -/
theorem cut_iff (h : Recognises r Matches) {cs : List Char} {ps : List (Piece α)} :
    Cut Matches cs ps ↔ pieces r cs = ps := by
  refine ⟨h.pieces_of_cut, ?_⟩
  rintro rfl
  exact h.cut_pieces cs

/-- Cutting a text says whether there is a match anywhere in it. -/
theorem forall_not_infix_iff (h : Recognises r Matches) {cs : List Char} :
    (∀ m a, Matches m a → ¬m <:+: cs) ↔ ∀ p ∈ pieces r cs, ∃ c, p = .plain c := by
  have hcut : Cut Matches cs (pieces r cs) := h.cut_pieces cs
  constructor
  · rintro hfree (c | ⟨m, a⟩) hp
    · exact ⟨c, rfl⟩
    · exact absurd (hcut.infix_of_mem hp) (hfree m a (hcut.matches_of_mem hp))
  · intro hplain m a hmatch hinfix
    generalize pieces r cs = ps at hcut hplain
    induction hcut with
    | done => exact h.ne_nil hmatch (List.infix_nil.1 hinfix)
    | token _ _ _ =>
      obtain ⟨c, hc⟩ := hplain _ List.mem_cons_self
      nomatch hc
    | plain hnone _ ih =>
      rcases List.infix_cons_iff.1 hinfix with hprefix | hrest
      · exact hnone m a hmatch hprefix
      · exact ih hrest fun p hp => hplain p (List.mem_cons_of_mem _ hp)

end Recognises

end MailTemplates.Text
