import MailTemplates.Proofs.Text.Cutting
/-!
# Erasing a word

Erasing cuts a text at the leftmost occurrences of a word and drops them. Of the cutting only three
equations are left: a text that starts with the word loses it, any other text keeps its first
character, and nothing is left of nothing. Everything else follows from them by induction on the
length of the text.

A character that does not occur in the word behind its front cannot be the inside of an occurrence
that starts before it. So the two sides of such a character are erased apart from each other
(`eraseAll_append_cons`). A text that does not hold the word stays as it is
(`eraseAll_of_not_infix`), and no other does (`eraseAll_eq_self_iff`). What is left of a text are
the parts between the occurrences (`Parted.eraseAll_eq`), read as one; none of them holds the word.

The condition that the word has its front nowhere else is one that the markers meet, which begin
with a `<`. It makes occurrences independent of each other: none can start inside another one.
Without it the lemmas on parts would be false, as the parts on the two sides of an erased word could
hold a part of a word each.
-/

namespace MailTemplates.Text

/-!
## The three equations

From here on erasing is never unfolded again.
-/

/-- A character at which the word does not begin stays. -/
theorem eraseAll_cons_of_not_start {w cs : List Char} {c : Char} (h : ¬w <+: c :: cs) :
    eraseAll w (c :: cs) = c :: eraseAll w cs := by
  have hnone : word w (c :: cs) = none := by
    cases w with
    | nil => rfl
    | cons a tail =>
      rw [← List.isPrefixOf_iff_prefix] at h
      simp [word, h]
  simp [eraseAll, replaceAll, pieces_eq, piecesFrom, hnone]

/-- The word at the front goes, and the pass continues behind it. -/
theorem eraseAll_word_append {w : List Char} (hw : w ≠ []) (cs : List Char) :
    eraseAll w (w ++ cs) = eraseAll w cs := by
  cases w with
  | nil => exact absurd rfl hw
  | cons a tail =>
    have hsome : word (a :: tail) (a :: (tail ++ cs)) = some ((), tail.length) := by
      have hstarts : (a :: tail).isPrefixOf (a :: (tail ++ cs)) = true :=
        List.isPrefixOf_iff_prefix.2 ⟨cs, rfl⟩
      simp [word, hstarts]
    simp only [eraseAll, replaceAll, pieces_eq, List.cons_append, piecesFrom, hsome,
      List.flatMap_cons, List.nil_append]
    rw [piecesFrom_drop, List.drop_left]

/-! ## Characters that end every occurrence -/

/-- A word does not reach over a character that it has not. -/
theorem prefix_append_cons_iff {c : Char} {w : List Char} (hc : c ∉ w) (xs ys : List Char) :
    w <+: xs ++ c :: ys ↔ w <+: xs := by
  constructor
  · intro h
    have hxs : xs ++ [c] <+: xs ++ c :: ys := ⟨ys, by simp⟩
    rcases List.prefix_or_prefix_of_prefix h hxs with hw | hw
    · rcases List.prefix_concat_iff.1 hw with rfl | hw
      · exact absurd (by simp) hc
      · exact hw
    · exact absurd (hw.subset (by simp)) hc
  · intro h
    exact h.trans (List.prefix_append ..)

/-- On the two sides of a character that the word has at most in front, erasing is done apart. -/
theorem eraseAll_append_cons {w : List Char} {c : Char} (hw : w ≠ []) (hc : c ∉ w.tail) :
    ∀ xs ys : List Char, eraseAll w (xs ++ c :: ys) = eraseAll w xs ++ eraseAll w (c :: ys)
  | [], _ => rfl
  | x :: xs, ys => by
    by_cases h : w <+: x :: xs
    · -- The word is in front: it is erased from both sides, and what is left is shorter.
      obtain ⟨rest, hrest⟩ := h
      have hshort : rest.length ≤ xs.length := by
        have hlength := congrArg List.length hrest
        have hword := List.length_pos_iff.2 hw
        rw [List.length_append, List.length_cons] at hlength
        omega
      rw [← hrest, List.append_assoc, eraseAll_word_append hw, eraseAll_word_append hw,
        eraseAll_append_cons hw hc rest ys]
    · -- The word is not in front, nor can it get there by reaching over `c`.
      have hlong : ¬w <+: x :: (xs ++ c :: ys) := by
        rw [← List.cons_head_tail hw, List.cons_prefix_cons, prefix_append_cons_iff hc,
          ← List.cons_prefix_cons, List.cons_head_tail hw]
        exact h
      rw [List.cons_append, eraseAll_cons_of_not_start hlong, eraseAll_cons_of_not_start h,
        eraseAll_append_cons hw hc xs ys, List.cons_append]
termination_by xs => xs.length
decreasing_by all_goals simp only [List.length_cons]; omega

/-- A text without the front of the word stays, whatever is behind it. -/
theorem eraseAll_append_of_head_not_mem {w us : List Char} (hw : w ≠ []) (h : w.head hw ∉ us)
    (ys : List Char) : eraseAll w (us ++ ys) = us ++ eraseAll w ys := by
  induction us with
  | nil => rfl
  | cons u us ih =>
    have hfront : ¬w <+: u :: (us ++ ys) := by
      intro hstarts
      rw [← List.cons_head_tail hw, List.cons_prefix_cons] at hstarts
      exact h (by simp [hstarts.1])
    rw [List.cons_append, eraseAll_cons_of_not_start hfront,
      ih fun hmem => h (List.mem_cons_of_mem _ hmem), List.cons_append]

/-- A word that has its front nowhere else is erased wherever it stands. -/
theorem eraseAll_append_word {w : List Char} (hw : w ≠ []) (hfront : w.head hw ∉ w.tail)
    (xs ys : List Char) : eraseAll w (xs ++ (w ++ ys)) = eraseAll w xs ++ eraseAll w ys := by
  have hcons : w ++ ys = w.head hw :: (w.tail ++ ys) := by
    rw [← List.cons_append, List.cons_head_tail]
  rw [hcons, eraseAll_append_cons hw hfront, ← hcons, eraseAll_word_append hw]

/-- A character that the word does not have stays, and what is around it is erased apart. -/
theorem eraseAll_append_of_not_mem {w : List Char} {c : Char} (hw : w ≠ []) (hc : c ∉ w)
    (xs ys : List Char) : eraseAll w (xs ++ c :: ys) = eraseAll w xs ++ c :: eraseAll w ys := by
  have hfront : ¬w <+: c :: ys := by
    intro h
    rw [← List.cons_head_tail hw, List.cons_prefix_cons] at h
    exact hc (h.1 ▸ List.head_mem hw)
  rw [eraseAll_append_cons hw (fun h => hc (List.mem_of_mem_tail h)),
    eraseAll_cons_of_not_start hfront]

/-!
## Texts without the word

If no occurrence begins anywhere, every character is kept.
-/

/-- A text without the word stays as it is. -/
theorem eraseAll_of_not_infix {w cs : List Char} (h : ¬w <:+: cs) : eraseAll w cs = cs := by
  induction cs with
  | nil => rfl
  | cons c cs ih =>
    rw [List.infix_cons_iff, not_or] at h
    rw [eraseAll_cons_of_not_start h.1, ih h.2]

/-!
## The parts between the occurrences

The parts of a text are found by its leftmost occurrences. What is left of it are the parts, joined
without anything between them, and a new occurrence may come about at such a joint.
-/

/-- A text as parts with a word between each two, none of which holds the word. -/
structure Parted (w cs : List Char) (parts : List (List Char)) : Prop where
  ne_nil : parts ≠ []
  joined : w.intercalate parts = cs
  free : ∀ part ∈ parts, ¬w <:+: part

/-- A text without the word is one part. -/
theorem Parted.single {w cs : List Char} (h : ¬w <:+: cs) : Parted w cs [cs] where
  ne_nil := List.cons_ne_nil _ _
  joined := List.intercalate_singleton
  free := List.forall_mem_singleton.2 h

/-- Behind an occurrence in front another part begins. -/
theorem Parted.word_append {w cs : List Char} {parts : List (List Char)} (hw : w ≠ [])
    (h : Parted w cs parts) : Parted w (w ++ cs) ([] :: parts) where
  ne_nil := List.cons_ne_nil _ _
  joined := by
    obtain ⟨part, parts, rfl⟩ := List.exists_cons_of_ne_nil h.ne_nil
    rw [List.intercalate_cons_cons, h.joined, List.nil_append]
  free := List.forall_mem_cons.2 ⟨mt List.infix_nil.1 hw, h.free⟩

/-- The first part is the front of the text. -/
theorem Parted.first_prefix {w cs part : List Char} {parts : List (List Char)}
    (h : Parted w cs (part :: parts)) : part <+: cs := by
  rw [← h.joined]
  cases parts with
  | nil =>
    exact ⟨[], by rw [List.append_nil, List.intercalate_singleton]⟩
  | cons other parts =>
    rw [List.intercalate_cons_cons, List.append_assoc]
    exact List.prefix_append _ _

/-- Every part is a part of the text. -/
theorem Parted.infix_of_mem {w cs part : List Char} {parts : List (List Char)}
    (h : Parted w cs parts) (hmem : part ∈ parts) : part <:+: cs := by
  obtain ⟨-, rfl, hfree⟩ := h
  clear hfree
  induction parts with
  | nil => nomatch hmem
  | cons first parts ih =>
    cases parts with
    | nil =>
      obtain rfl := List.mem_singleton.1 hmem
      exact ⟨[], [], by rw [List.append_nil, List.nil_append, List.intercalate_singleton]⟩
    | cons other parts =>
      rw [List.intercalate_cons_cons, List.append_assoc]
      rcases List.mem_cons.1 hmem with rfl | hlater
      · exact (List.prefix_append _ _).isInfix
      · have hrest := (ih hlater).trans (List.suffix_append w _).isInfix
        exact hrest.trans (List.suffix_append first _).isInfix

/-- A character that begins no occurrence belongs to the first part. -/
theorem Parted.cons {w cs part : List Char} {c : Char} {parts : List (List Char)}
    (hstart : ¬w <+: c :: cs) (h : Parted w cs (part :: parts)) :
    Parted w (c :: cs) ((c :: part) :: parts) where
  ne_nil := List.cons_ne_nil _ _
  joined := by
    rw [← h.joined]
    cases parts with
    | nil => rw [List.intercalate_singleton, List.intercalate_singleton]
    | cons other parts =>
      rw [List.intercalate_cons_cons, List.intercalate_cons_cons, List.cons_append,
        List.cons_append]
  free := by
    have hfree := List.forall_mem_cons.1 h.free
    refine List.forall_mem_cons.2 ⟨fun hinfix => ?_, hfree.2⟩
    rcases List.infix_cons_iff.1 hinfix with hbegin | hlater
    · exact hstart (hbegin.trans (List.cons_prefix_cons.2 ⟨rfl, h.first_prefix⟩))
    · exact hfree.1 hlater

/-- Every text has parts. The induction is on its length. -/
theorem exists_parted {w : List Char} (hw : w ≠ []) (cs : List Char) :
    ∃ parts, Parted w cs parts := by
  induction hlength : cs.length using Nat.strongRecOn generalizing cs with
  | ind n ih =>
    cases cs with
    | nil => exact ⟨[[]], .single (mt List.infix_nil.1 hw)⟩
    | cons c cs =>
      by_cases hstart : w <+: c :: cs
      · obtain ⟨rest, hrest⟩ := hstart
        have hshorter : rest.length < n := by
          have hword := List.length_pos_iff.2 hw
          rw [← hlength, ← hrest, List.length_append]
          omega
        obtain ⟨parts, hparts⟩ := ih _ hshorter rest rfl
        rw [← hrest]
        exact ⟨[] :: parts, hparts.word_append hw⟩
      · obtain ⟨parts, hparts⟩ := ih cs.length (by rw [← hlength, List.length_cons]; omega) cs rfl
        obtain ⟨part, parts, rfl⟩ := List.exists_cons_of_ne_nil hparts.ne_nil
        exact ⟨(c :: part) :: parts, hparts.cons hstart⟩

/-- Erasing a word that has its front nowhere else leaves the parts. -/
theorem Parted.eraseAll_eq {w cs : List Char} {parts : List (List Char)} (hw : w ≠ [])
    (hfront : w.head hw ∉ w.tail) (h : Parted w cs parts) : eraseAll w cs = parts.flatten := by
  obtain ⟨hne, rfl, hfree⟩ := h
  induction parts with
  | nil => exact absurd rfl hne
  | cons part parts ih =>
    rw [List.forall_mem_cons] at hfree
    cases parts with
    | nil =>
      rw [List.intercalate_singleton, eraseAll_of_not_infix hfree.1, List.flatten_cons,
        List.flatten_nil, List.append_nil]
    | cons other parts =>
      rw [List.intercalate_cons_cons, List.append_assoc, eraseAll_append_word hw hfront,
        eraseAll_of_not_infix hfree.1, ih (List.cons_ne_nil _ _) hfree.2]
      rfl

/-- Parts joined by a word have the parts among their characters. -/
theorem flatten_sublist_intercalate (w : List Char) :
    ∀ parts : List (List Char), parts.flatten.Sublist (w.intercalate parts)
  | [] => .slnil
  | [part] => by
    have hsingle : w.intercalate [part] = [part].flatten := by simp
    exact hsingle ▸ .refl _
  | part :: other :: parts => by
    rw [List.intercalate_cons_cons, List.append_assoc, List.flatten_cons]
    exact ((flatten_sublist_intercalate w (other :: parts)).trans
      (List.sublist_append_right w _)).append_left part

/-- Erasing keeps the order of what it leaves. -/
theorem eraseAll_sublist {w : List Char} (hw : w ≠ []) (hfront : w.head hw ∉ w.tail)
    (cs : List Char) : (eraseAll w cs).Sublist cs := by
  obtain ⟨parts, hparts⟩ := exists_parted hw cs
  have hsublist := flatten_sublist_intercalate w parts
  rw [hparts.joined] at hsublist
  rw [hparts.eraseAll_eq hw hfront]
  exact hsublist

/-- Erasing leaves a text alone exactly if the word is not in it. -/
theorem eraseAll_eq_self_iff {w cs : List Char} (hw : w ≠ []) (hfront : w.head hw ∉ w.tail) :
    eraseAll w cs = cs ↔ ¬w <:+: cs := by
  refine ⟨?_, eraseAll_of_not_infix⟩
  rintro hself ⟨front, behind, rfl⟩
  have hword := List.length_pos_iff.2 hw
  have hleft := (eraseAll_sublist hw hfront front).length_le
  have hright := (eraseAll_sublist hw hfront behind).length_le
  have hlength := congrArg List.length hself
  rw [List.append_assoc, eraseAll_append_word hw hfront] at hlength
  simp only [List.length_append] at hlength
  omega

end MailTemplates.Text
