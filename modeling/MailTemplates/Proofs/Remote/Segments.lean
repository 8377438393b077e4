import MailTemplates.Proofs.FileTree.Unlinked
import MailTemplates.Proofs.Remote.Encoding
import MailTemplates.Remote.Url
/-!
# Segments of a path

What is read of a path has no slash in a segment (`Url.holdsFrom_walkSegments`). So a name that
stands between others in a path is one segment exactly if there is none in it, nothing of it is left
out, and it is not made of dots: a name that loses characters is written in fewer
(`Percent.length_encode_lt`), and dots leave fewer segments.

The statement is an equivalence, and its easy direction is a computation. For the other one the path
that is read is compared with the one that was meant. The segments of this are two names and the
encoded id between them; reading has at most added segments, encoded what was not encoded, and gone
up for dots. An id with a slash in it would have a slash in its encoded form as well, which no
segment has (`unbroken_of_walkSegments`). Characters that are left out make the text shorter than
its encoding (`Percent.length_encode_lt`). And dots leave fewer segments than there should be
(`walkSegments_dots_ne`).

Main statement: `Url.walkSegments_folder_iff`.
-/

namespace MailTemplates.Remote

open Percent (encode)
open Text (splitAt)

namespace Url

/-!
## Segments

Reading a path only ever encodes, adds empty segments and goes up. So whatever holds of encoded
segments and of the empty one holds of everything that has been read.
-/

/-- Whether all segments from a number on have a property. -/
def HoldsFrom (P : List Char → Prop) (n : Nat) (items : List (List Char)) : Prop :=
  ∀ i item, n ≤ i → items[i]? = some item → P item

/-- What holds of the segments from some point on still does if the others that are added have it.
-/
theorem HoldsFrom.append {P : List Char → Prop} {n : Nat} {items front more : List (List Char)}
    (h : HoldsFrom P n items) (hfront : front <+: items) (hmore : ∀ item ∈ more, P item) :
    HoldsFrom P n (front ++ more) := by
  intro i item hi hitem
  by_cases hlt : i < front.length
  · rw [List.getElem?_append_left hlt] at hitem
    obtain ⟨rest, rfl⟩ := hfront
    exact h i item hi (by rw [List.getElem?_append_left hlt, hitem])
  · rw [List.getElem?_append_right (Nat.le_of_not_lt hlt)] at hitem
    exact hmore item (List.mem_of_getElem? hitem)

/-- Going up leaves the front of a path. -/
theorem isPrefix_above (before : List (List Char)) : above before <+: before := by
  unfold above
  split
  · split
    · exact List.prefix_rfl
    · exact List.dropLast_prefix before
  · exact List.nil_prefix

/-- What is read behind some segments are encoded segments, and empty ones. -/
theorem holdsFrom_walkSegments {P : List Char → Prop} {n : Nat} (hempty : P [])
    {segments before : List (List Char)} (hsegments : ∀ s ∈ segments, P (encode isPathEncoded s))
    (hbefore : HoldsFrom P n before) : HoldsFrom P n (walkSegments false before segments) := by
  induction segments generalizing before with
  | nil => exact hbefore
  | cons segment rest ih =>
    rw [List.forall_mem_cons] at hsegments
    have hlast : ∀ item ∈ (if rest.isEmpty then [[]] else [] : List (List Char)), P item := by
      intro item hitem
      split at hitem
      · rwa [List.mem_singleton.1 hitem]
      · nomatch hitem
    rw [walkSegments]
    apply ih hsegments.2
    rw [Bool.false_and, Bool.false_and, if_neg Bool.false_ne_true]
    split
    · exact hbefore.append (isPrefix_above before) hlast
    · split
      · exact hbefore.append List.prefix_rfl hlast
      · exact hbefore.append List.prefix_rfl (List.forall_mem_singleton.2 hsegments.1)

/-- Whether a segment does not stand for a directory. -/
def IsNamed (segment : List Char) : Prop :=
  isSingleDot segment = false ∧ isDoubleDot segment = false

instance (segment : List Char) : Decidable (IsNamed segment) :=
  inferInstanceAs (Decidable (_ ∧ _))

/-- A named segment is added, encoded. -/
theorem walkSegments_cons {segment : List Char} (h : IsNamed segment)
    (before rest : List (List Char)) :
    walkSegments false before (segment :: rest) =
      walkSegments false (before ++ [encode isPathEncoded segment]) rest := by
  rw [walkSegments, h.1, h.2, Bool.false_and, Bool.false_and, if_neg Bool.false_ne_true,
    if_neg Bool.false_ne_true, if_neg Bool.false_ne_true]

/-- So are several of them. -/
theorem walkSegments_named {segments : List (List Char)} (h : ∀ s ∈ segments, IsNamed s)
    (before : List (List Char)) :
    walkSegments false before segments = before ++ segments.map (encode isPathEncoded) := by
  induction segments generalizing before with
  | nil => exact (List.append_nil before).symm
  | cons segment rest ih =>
    rw [List.forall_mem_cons] at h
    rw [walkSegments_cons h.1, ih h.2, List.map_cons, List.append_assoc, List.singleton_append]

/-!
## A name between two others

The name is what is put into a path by the client; the folder in front of it and the names behind it
are fixed words.
-/

/-- Whether a character ends a segment of a URL of the web. -/
def EndsSegment (c : Char) : Prop := c = '/' ∨ c = '\\'

instance (c : Char) : Decidable (EndsSegment c) := inferInstanceAs (Decidable (_ ∨ _))

/-- Whether a text is not cut into several segments. -/
def Unbroken (cs : List Char) : Prop := ∀ c ∈ cs, ¬EndsSegment c

instance (cs : List Char) : Decidable (Unbroken cs) :=
  List.decidableBAll (fun c => ¬EndsSegment c) cs

/-- Encoding neither hides a slash nor adds one. -/
theorem unbroken_encode_iff {cs : List Char} :
    Unbroken (encode isPathEncoded cs) ↔ Unbroken cs := by
  have hmem : ∀ c, EndsSegment c → (c ∈ encode isPathEncoded cs ↔ c ∈ cs) := by
    rintro c (rfl | rfl)
    · exact Percent.mem_encode_iff (by decide) (by decide) (by decide)
    · exact Percent.mem_encode_iff (by decide) (by decide) (by decide)
  constructor
  · intro h c hc hends
    exact h c ((hmem c hends).2 hc) hends
  · intro h c hc hends
    exact h c ((hmem c hends).1 hc) hends

/-- A segment in one piece has no backslash to be turned. -/
theorem slashed_of_unbroken {cs : List Char} (h : Unbroken cs) : slashed true cs = cs := by
  unfold slashed
  conv_rhs => rw [← List.map_id cs]
  apply List.map_congr_left
  intro c hc
  have hslash : isSlash true c = false := by
    rw [isSlash, Bool.true_and, Bool.or_eq_false_iff, beq_eq_false_iff_ne, beq_eq_false_iff_ne]
    exact not_or.1 (h c hc)
  rw [if_neg (by rw [hslash]; exact Bool.false_ne_true)]
  rfl

/-- It is one segment. -/
theorem splitAt_of_unbroken {cs : List Char} (h : Unbroken cs) :
    splitAt '/' (slashed true cs) = [cs] := by
  rw [slashed_of_unbroken h]
  exact Text.splitAt_of_not_mem fun hmem => h _ hmem (.inl rfl)

/-- And every segment of a split path is in one piece. -/
theorem unbroken_of_mem_splitAt {cs part : List Char} (h : part ∈ splitAt '/' (slashed true cs)) :
    Unbroken part := by
  rintro c hc (rfl | rfl)
  · exact Text.not_mem_of_mem_splitAt h hc
  · obtain ⟨d, -, hd⟩ := List.mem_map.1 (Text.mem_of_mem_splitAt h hc)
    split at hd
    · nomatch hd
    · next hslash =>
      subst hd
      exact hslash (by decide)

/-- The folder of the templates. -/
def folder : List Char := "templates".toList

theorem named_folder : IsNamed folder := by decide

theorem unbroken_folder : Unbroken folder := by decide

theorem encode_folder : encode isPathEncoded folder = folder := by decide

/-- A directory above leads out of the folder. -/
theorem above_folder (front : List (List Char)) : above (front ++ [folder]) = front := by
  have hdrive : startsWithDrive folder = false := by decide
  rw [above, List.getLast?_concat]
  dsimp only
  rw [hdrive, if_neg Bool.false_ne_true, List.dropLast_concat]

/-- Two dots take the folder away. -/
theorem walkSegments_doubleDot {kept : List Char} (h : isDoubleDot kept = true)
    (front more : List (List Char)) :
    walkSegments false (front ++ [folder]) (kept :: more) =
      walkSegments false (front ++ if more.isEmpty then [[]] else []) more := by
  rw [walkSegments, h, if_pos rfl, above_folder]

/-- One dot adds nothing, apart from a slash at the end. -/
theorem walkSegments_singleDot {kept : List Char} (hdouble : isDoubleDot kept = false)
    (h : isSingleDot kept = true) (before more : List (List Char)) :
    walkSegments false before (kept :: more) =
      walkSegments false (before ++ if more.isEmpty then [[]] else []) more := by
  rw [walkSegments, hdouble, h, if_neg Bool.false_ne_true, if_pos rfl]

/-- Dots at the end leave one empty segment, and others none. -/
theorem length_empties_le (more : List (List Char)) :
    (if more.isEmpty then [[]] else [] : List (List Char)).length ≤ 1 := by
  split
  · exact Nat.le_refl 1
  · exact Nat.zero_le 1

/-- Dots behind the folder are no segment. -/
theorem walkSegments_dots_ne {front more : List (List Char)} {kept name : List Char}
    (hkept : kept.Sublist name) (hnamed : ∀ s ∈ more, IsNamed s) (hdots : ¬IsNamed kept) :
    walkSegments false (front ++ [folder]) (kept :: more) ≠
      front ++ (folder :: name :: more).map (encode isPathEncoded) := by
  intro h
  have hlength := congrArg List.length h
  have hempties := length_empties_le more
  cases hdouble : isDoubleDot kept with
  | true =>
    -- The folder is gone, with at most one empty segment instead.
    rw [walkSegments_doubleDot hdouble, walkSegments_named hnamed] at hlength
    simp only [List.length_append, List.length_map, List.length_cons] at hlength
    omega
  | false =>
    have hsingle : isSingleDot kept = true := by
      rw [← Bool.not_eq_false]
      exact fun hfalse => hdots ⟨hfalse, hdouble⟩
    rw [walkSegments_singleDot hdouble hsingle, walkSegments_named hnamed] at h hlength
    cases more with
    | nil =>
      -- There is an empty segment in place of the dot, and only nothing is encoded to nothing.
      have hname : encode isPathEncoded name = [] := by
        rw [List.append_assoc, List.append_assoc, List.append_cancel_left_eq] at h
        exact (List.cons.inj (List.cons.inj h).2).1.symm
      obtain rfl := Percent.encode_eq_nil_iff.1 hname
      obtain rfl := List.sublist_nil.1 hkept
      nomatch hsingle
    | cons next rest =>
      have hnone : (if (next :: rest).isEmpty then [[]] else [] : List (List Char)) = [] := rfl
      rw [hnone] at hlength
      simp only [List.length_append, List.length_map, List.length_cons, List.length_nil] at hlength
      omega

/-- A name that comes out behind the folder was not cut: whatever is read there was not. -/
theorem unbroken_of_walkSegments {front more : List (List Char)} {kept name : List Char}
    (hmore : ∀ s ∈ more, Unbroken s)
    (h : walkSegments false front (folder :: (splitAt '/' (slashed true kept) ++ more)) =
      front ++ (folder :: name :: more).map (encode isPathEncoded)) : Unbroken name := by
  have hholds : HoldsFrom Unbroken front.length
      (walkSegments false front (folder :: (splitAt '/' (slashed true kept) ++ more))) := by
    have hempty : Unbroken [] := List.forall_mem_nil _
    apply holdsFrom_walkSegments hempty
    · intro s hs
      rw [unbroken_encode_iff]
      rcases List.mem_cons.1 hs with rfl | hs
      · exact unbroken_folder
      · rcases List.mem_append.1 hs with hs | hs
        · exact unbroken_of_mem_splitAt hs
        · exact hmore s hs
    · intro i item hi hitem
      rw [List.getElem?_eq_none hi] at hitem
      nomatch hitem
  have hsecond : (front ++ (folder :: name :: more).map (encode isPathEncoded))[
      front.length + 1]? = some (encode isPathEncoded name) := by
    rw [List.getElem?_append_right (by omega), Nat.add_sub_cancel_left]
    rfl
  exact unbroken_encode_iff.1 (hholds _ _ (by omega) (h ▸ hsecond))

/-- What is left of a name is read between the folder and other names as the name itself only if it
is the name, nothing in it ends a segment, and it is not made of dots. -/
theorem walkSegments_folder_iff {front more : List (List Char)} {kept name : List Char}
    (hkept : kept.Sublist name) (hnamed : ∀ s ∈ more, IsNamed s) (hmore : ∀ s ∈ more, Unbroken s) :
    walkSegments false front (folder :: (splitAt '/' (slashed true kept) ++ more)) =
        front ++ (folder :: name :: more).map (encode isPathEncoded) ↔
      kept = name ∧ Unbroken name ∧ IsNamed name := by
  constructor
  · intro h
    -- What comes out has the name as one segment, so nothing in it was read as the end of one.
    have hunbroken : Unbroken name := unbroken_of_walkSegments hmore h
    have hkeptUnbroken : Unbroken kept := fun c hc => hunbroken c (hkept.subset hc)
    rw [splitAt_of_unbroken hkeptUnbroken, walkSegments_cons named_folder, encode_folder,
      List.singleton_append] at h
    by_cases hdots : IsNamed kept
    · rw [walkSegments_cons hdots, walkSegments_named hnamed, List.map_cons, List.map_cons,
        encode_folder, List.append_assoc, List.append_assoc, List.append_cancel_left_eq,
        List.singleton_append, List.singleton_append, List.cons.injEq, List.cons.injEq] at h
      have heq : kept = name := by
        -- What has lost characters is shorter when it is encoded.
        by_contra hne
        have hless : (encode isPathEncoded kept).length < (encode isPathEncoded name).length :=
          Percent.length_encode_lt hkept hne
        rw [h.2.1] at hless
        exact absurd hless (Nat.lt_irrefl _)
      exact ⟨heq, hunbroken, heq ▸ hdots⟩
    · exact absurd h (walkSegments_dots_ne hkept hnamed hdots)
  · rintro ⟨rfl, hunbroken, hname⟩
    rw [splitAt_of_unbroken hunbroken, List.singleton_append]
    apply walkSegments_named
    exact List.forall_mem_cons.2 ⟨named_folder, List.forall_mem_cons.2 ⟨hname, hnamed⟩⟩

end Url

end MailTemplates.Remote
