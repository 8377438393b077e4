import MailTemplates.Proofs.Stage.Marking
import MailTemplates.Proofs.Stage.Splicing
/-!
# Markers that stripping makes

Stripping goes over a text twice, and each time it takes away what it finds in the text as it is. No
part between two markers holds one itself. But when the marker between them is gone the end of one
part and the beginning of the next may be a marker together (`Joined`). Of the second pass nobody
erases what comes about, and of the first pass only the markers that close are erased: an opening
one never overlaps with those, so it stays (`infix_eraseAll_closing`). A text without markers is the
only kind that stripping leaves alone (`strip_eq_self_iff`), so a marker that is left is what a
second run takes away (`strip_joins_marker`).

Main statement: `run_strip_leaves_only_joined`.
-/

namespace MailTemplates.RawMarker

open Include (Spans infix_or_spans)
open Text (Parted eraseAll eraseAll_append_cons eraseAll_append_of_head_not_mem
  eraseAll_cons_of_not_start eraseAll_eq_self_iff eraseAll_sublist exists_parted)

/-! ## Texts that stripping leaves alone -/

/-- A text stays as it is if it has no marker. -/
theorem strip_eq_self_iff {cs : List Char} : strip cs = cs ↔ Unmarked cs := by
  refine ⟨fun h => ?_, strip_of_unmarked⟩
  have hclosing : (strip cs).Sublist (eraseAll opening cs) :=
    eraseAll_sublist (by decide) (by decide) _
  rw [h] at hclosing
  -- Each pass only takes away, so neither has.
  have hopening : eraseAll opening cs = cs :=
    (eraseAll_sublist (by decide) (by decide) cs).antisymm hclosing
  unfold strip at h
  rw [hopening] at h
  exact ⟨(eraseAll_eq_self_iff (by decide) (by decide)).1 hopening,
    (eraseAll_eq_self_iff (by decide) (by decide)).1 h⟩

/-!
## Markers across parts

After the opening markers are gone, the parts around them stand next to each other, and a marker may
have come about between them. The same happens once more with the closing ones.
-/

/-- Whether a text stands in the parts, read one after another, and begins in one and ends in a
later one. -/
def Joined (parts : List (List Char)) (m : List Char) : Prop :=
  ∃ front behind, parts.flatten = front ++ (m ++ behind) ∧ Spans parts front m

variable {parts : List (List Char)} {m : List Char}

/-- What is joined of parts is in their sum. -/
theorem Joined.infix_flatten (h : Joined parts m) : m <:+: parts.flatten := by
  obtain ⟨front, behind, hflatten, -⟩ := h
  exact ⟨front, behind, by rw [hflatten, List.append_assoc]⟩

/-- What is in a sum is in a part, or is joined of several. -/
theorem infix_flatten_iff (hm : m ≠ []) :
    m <:+: parts.flatten ↔ (∃ part ∈ parts, m <:+: part) ∨ Joined parts m := by
  constructor
  · rintro ⟨front, behind, hflatten⟩
    rw [List.append_assoc] at hflatten
    rcases infix_or_spans hm hflatten.symm with hpart | hspans
    · exact .inl hpart
    · exact .inr ⟨front, behind, hflatten.symm, hspans⟩
  · rintro (⟨part, hpart, hmarker⟩ | hjoined)
    · exact hmarker.trans (List.infix_of_mem_flatten hpart)
    · exact hjoined.infix_flatten

/-- If no part has it, it is joined. -/
theorem infix_flatten_iff_joined (hm : m ≠ []) (hfree : ∀ part ∈ parts, ¬m <:+: part) :
    m <:+: parts.flatten ↔ Joined parts m := by
  rw [infix_flatten_iff hm, or_iff_right]
  rintro ⟨part, hpart, hmarker⟩
  exact hfree part hpart hmarker

/-- Erasing the markers that close keeps every marker that opens. -/
theorem infix_eraseAll_closing {cs : List Char} (h : opening <:+: cs) :
    opening <:+: eraseAll closing cs := by
  obtain ⟨front, behind, rfl⟩ := h
  have hstart : ¬closing <+: '<' :: ("mj-raw>".toList ++ behind) := by
    rintro ⟨rest, hrest⟩
    exact absurd (List.cons.inj (List.cons.inj hrest).2).1 (by decide)
  have hkept : eraseAll closing (front ++ opening ++ behind) =
      eraseAll closing front ++ (opening ++ eraseAll closing behind) := by
    calc eraseAll closing (front ++ opening ++ behind)
        = eraseAll closing (front ++ '<' :: ("mj-raw>".toList ++ behind)) := by
          rw [List.append_assoc]
          rfl
      _ = eraseAll closing front ++ eraseAll closing ('<' :: ("mj-raw>".toList ++ behind)) :=
          eraseAll_append_cons (by decide) (by decide) _ _
      _ = eraseAll closing front ++ (opening ++ eraseAll closing behind) := by
          rw [eraseAll_cons_of_not_start hstart,
            eraseAll_append_of_head_not_mem (by decide) (by decide)]
          rfl
  rw [hkept]
  exact ⟨eraseAll closing front, eraseAll closing behind, by rw [List.append_assoc]⟩

/-- Whether a text ends in the beginning of a marker. -/
def BeginsMarker (cs : List Char) : Prop :=
  ∃ head tail rest, cs = head ++ tail ∧ tail ≠ [] ∧ rest ≠ [] ∧
    (tail ++ rest = opening ∨ tail ++ rest = closing)

/-- A marker that is joined begins at the end of some part. -/
theorem Joined.exists_beginsMarker (h : Joined parts m) (hm : m = opening ∨ m = closing) :
    ∃ part ∈ parts.dropLast, BeginsMarker part := by
  obtain ⟨front, behind, hflatten, hspans⟩ := h
  obtain ⟨head, tail, rest, hmem, rfl, htail, hrest⟩ := hspans.exists_mem_dropLast hflatten
  exact ⟨head ++ tail, hmem, head, tail, rest, rfl, htail, hrest, hm⟩

section Passes

variable {cs : List Char} {first second : List (List Char)}

/-- Stripping takes the parts between the opening markers, and of these the parts between the
closing ones. -/
theorem strip_eq_flatten (hfirst : Parted opening cs first)
    (hsecond : Parted closing first.flatten second) : strip cs = second.flatten := by
  unfold strip
  rw [hfirst.eraseAll_eq (by decide) (by decide), hsecond.eraseAll_eq (by decide) (by decide)]

/-- A closing marker that is left was joined by the second pass. -/
theorem closing_infix_strip_iff (hfirst : Parted opening cs first)
    (hsecond : Parted closing first.flatten second) :
    closing <:+: strip cs ↔ Joined second closing := by
  rw [strip_eq_flatten hfirst hsecond]
  exact infix_flatten_iff_joined (by decide) hsecond.free

/-- An opening marker that is left was joined by the first pass or by the second one. -/
theorem opening_infix_strip_iff (hfirst : Parted opening cs first)
    (hsecond : Parted closing first.flatten second) :
    opening <:+: strip cs ↔ Joined first opening ∨ Joined second opening := by
  have hjoined := infix_flatten_iff_joined (by decide) hfirst.free
  constructor
  · intro hleft
    rw [strip_eq_flatten hfirst hsecond, infix_flatten_iff (by decide)] at hleft
    refine hleft.imp_left ?_
    rintro ⟨part, hpart, hmarker⟩
    exact hjoined.1 (hmarker.trans (hsecond.infix_of_mem hpart))
  · rintro (hjoin | hjoin)
    · have herased : strip cs = eraseAll closing first.flatten := by
        rw [strip, hfirst.eraseAll_eq (by decide) (by decide)]
      rw [herased]
      exact infix_eraseAll_closing (hjoined.2 hjoin)
    · rw [strip_eq_flatten hfirst hsecond]
      exact hjoin.infix_flatten

end Passes

/-- Stripping leaves the parts between the markers, read as one: first those between the opening
ones, then those between the closing ones in what that has left. No part holds the marker that it
was parted at, so a marker that is left begins in one part and ends in a later one. That is the only
way for one to be left, and there is none if no part in front of another one ends in the beginning
of a marker. Stripping once more changes nothing exactly if none is left. -/
theorem run_strip_leaves_only_joined (tree : FileTree) (project : Project) (template : Template)
    (source : String) :
    ∃ out, stripStage.run tree project template source = .ok out ∧
      (∃ first second, Parted opening source.toList first ∧
        Parted closing first.flatten second) ∧
      (∀ first second, Parted opening source.toList first → Parted closing first.flatten second →
        out.toList = second.flatten ∧
        (opening <:+: out.toList ↔ Joined first opening ∨ Joined second opening) ∧
        (closing <:+: out.toList ↔ Joined second closing) ∧
        ((∀ part ∈ first.dropLast ++ second.dropLast, ¬BeginsMarker part) →
          Unmarked out.toList)) ∧
      (stripStage.run tree project template out = .ok out ↔ Unmarked out.toList) := by
  refine ⟨String.ofList (strip source.toList), rfl, ?_, fun first second hfirst hsecond => ?_, ?_⟩
  · obtain ⟨first, hfirst⟩ := exists_parted (w := opening) (by decide) source.toList
    obtain ⟨second, hsecond⟩ := exists_parted (w := closing) (by decide) first.flatten
    exact ⟨first, second, hfirst, hsecond⟩
  · rw [String.toList_ofList]
    have hopening := opening_infix_strip_iff hfirst hsecond
    have hclosing := closing_infix_strip_iff hfirst hsecond
    refine ⟨strip_eq_flatten hfirst hsecond, hopening, hclosing, fun hnone => ?_⟩
    -- A marker that is joined from parts is begun by the last of the first parts; if none begins
    -- one, there is none.
    have hsplit : ∀ {parts : List (List Char)} {m : List Char}, m = opening ∨ m = closing →
        parts.dropLast ⊆ first.dropLast ++ second.dropLast → ¬Joined parts m := by
      intro parts m hm hsubset hjoined
      obtain ⟨part, hpart, hbegins⟩ := hjoined.exists_beginsMarker hm
      exact hnone part (hsubset hpart) hbegins
    constructor
    · rw [hopening, not_or]
      exact ⟨hsplit (.inl rfl) (List.subset_append_left _ _),
        hsplit (.inl rfl) (List.subset_append_right _ _)⟩
    · rw [hclosing]
      exact hsplit (.inr rfl) (List.subset_append_right _ _)
  · have hagain : stripStage.run tree project template (String.ofList (strip source.toList)) =
        .ok (String.ofList (strip (String.ofList (strip source.toList)).toList)) := rfl
    rw [hagain, Except.ok.injEq, String.toList_ofList, String.ofList_inj, strip_eq_self_iff]

/-- A marker in the middle of another one is taken away, and what is around it becomes a marker. It
is left, and stripping once more takes it away as well. -/
theorem strip_joins_marker :
    let project : Project := ⟨.prod, ⟨"/p"⟩, ⟨none, none, []⟩, none, [], []⟩
    let note : Template := ⟨"n", "note", "note", none, none, []⟩
    let run := stripStage.run .empty project note
    run "<mj-<mj-raw>raw>" = .ok "<mj-raw>" ∧ run "</mj-</mj-raw>raw>" = .ok "</mj-raw>" ∧
      ¬Unmarked "<mj-raw>".toList ∧ run "<mj-raw>" = .ok "" := by
  intro project note run
  refine ⟨congrArg Except.ok (by decide +kernel), congrArg Except.ok (by decide +kernel), ?_,
    congrArg Except.ok (by decide +kernel)⟩
  exact fun hunmarked => hunmarked.1 (by decide +kernel)

end MailTemplates.RawMarker
