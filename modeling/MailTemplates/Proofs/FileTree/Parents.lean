import MailTemplates.Proofs.FileTree.Paths
import MailTemplates.Proofs.FileTree.Walking
/-!
# The directory of a file

The parent of a path is what stands before one of its slashes, apart from a parent that is the root
or nothing at all (`exists_eq_append_of_parent`). So whoever walks to a file comes through its
parent, and that is a directory (`directory_of_file`).

The text of a path is its parts with slashes between them, so it can be put together again from what
cutting it gave (`Text.intercalate_splitAt`). The parent drops parts from the end only: the idle
ones, the last one that is not idle, and the idle ones in front of that. So what is left is the
front of the parts, and its text the front of the text. The two exceptions are the parents that have
no part left.

The steps of a path are then those of its parent and at least one more, and `follow_append` cuts the
way to the file where the parent ends. As there is a step to be taken from there, there is a
directory (`node?_of_follow_cons`).
-/

namespace MailTemplates

namespace Text

/-- Two rows of parts, joined, have one separator between them. -/
theorem intercalate_append {sep : List Char} {xs ys : List (List Char)} (hxs : xs ≠ [])
    (hys : ys ≠ []) :
    sep.intercalate (xs ++ ys) = sep.intercalate xs ++ sep ++ sep.intercalate ys := by
  obtain ⟨y, ys, rfl⟩ := List.exists_cons_of_ne_nil hys
  induction xs with
  | nil => exact absurd rfl hxs
  | cons x xs ih =>
    cases xs with
    | nil => simp [List.intercalate_cons_cons]
    | cons z zs =>
      rw [List.cons_append, List.cons_append, List.intercalate_cons_cons,
        List.intercalate_cons_cons, ← List.cons_append, ih (List.cons_ne_nil z zs)]
      simp only [List.append_assoc]

/-- Joining the parts of a text gives the text. -/
theorem intercalate_splitAt (sep : Char) (cs : List Char) :
    [sep].intercalate (splitAt sep cs) = cs := by
  induction cs with
  | nil => rfl
  | cons c cs ih =>
    by_cases h : c = sep
    · subst h
      obtain ⟨part, parts, hparts⟩ := List.exists_cons_of_ne_nil (splitAt_ne_nil c cs)
      rw [splitAt_cons_self]
      rw [hparts] at ih ⊢
      rw [List.intercalate_cons_cons, ih]
      rfl
    · obtain ⟨part, parts, hcs, hcons⟩ := splitAt_cons_of_ne h cs
      rw [hcs] at ih
      rw [hcons]
      cases parts with
      | nil => simpa using ih
      | cons next parts =>
        rw [List.intercalate_cons_cons] at ih ⊢
        rw [← ih]
        simp

end Text

namespace Path

/-- What is dropped at the end of a path is idle. -/
theorem eq_dropIdleEnd_append (parts : List (List Char)) :
    ∃ tail, parts = dropIdleEnd parts ++ tail ∧ ∀ part ∈ tail, idle part = true := by
  refine ⟨(parts.reverse.takeWhile idle).reverse, ?_, ?_⟩
  · have h := congrArg List.reverse
      (List.takeWhile_append_dropWhile (p := idle) (l := parts.reverse))
    rw [List.reverse_append, List.reverse_reverse] at h
    exact h.symm
  · intro part hpart
    exact List.all_eq_true.1 (List.all_takeWhile ..) part (List.mem_reverse.1 hpart)

/-- The parent of a path is the root, nothing, or what stands before a slash of the path. -/
theorem exists_eq_append_of_parent {p dir : Path} (h : p.parent = some dir) :
    dir.text = "" ∨ dir.text = "/" ∨
      ∃ rest, p.text.toList = dir.text.toList ++ '/' :: rest := by
  unfold parent at h
  split at h
  · nomatch h
  next parts hparts =>
  cases h
  obtain ⟨tail, hwritten, -⟩ := eq_dropIdleEnd_append p.written
  obtain ⟨idles, hinit, -⟩ := eq_dropIdleEnd_append (dropIdleEnd p.written).dropLast
  -- Behind the parent there are idle parts, the last part that is not, and idle parts again.
  obtain ⟨rest, hrest, hsplit⟩ : ∃ rest, rest ≠ [] ∧
      p.written = dropIdleEnd (dropIdleEnd p.written).dropLast ++ rest := by
    refine ⟨idles ++ [(dropIdleEnd p.written).getLast hparts] ++ tail, by simp, ?_⟩
    rw [List.append_assoc, ← List.append_assoc, ← List.append_assoc, ← hinit,
      List.dropLast_concat_getLast, ← hwritten]
  have htext : p.text.toList =
      (if p.isAbsolute then ['/'] else []) ++ ['/'].intercalate p.written := by
    rw [written_eq, Text.intercalate_splitAt]
    cases habsolute : p.isAbsolute with
    | true => exact toList_of_isAbsolute habsolute
    | false => exact toList_of_not_isAbsolute habsolute
  unfold ofWritten
  by_cases hnil : dropIdleEnd (dropIdleEnd p.written).dropLast = []
  · -- Nothing but idle parts is in front of the last one.
    rw [hnil]
    cases p.isAbsolute with
    | true => exact .inr (.inl rfl)
    | false => exact .inl rfl
  · refine .inr (.inr ⟨['/'].intercalate rest, ?_⟩)
    rw [hsplit, Text.intercalate_append hnil hrest] at htext
    rw [htext, String.toList_ofList]
    simp only [List.append_assoc, List.cons_append, List.nil_append]

/-- A path without a parent goes nowhere. -/
theorem steps_of_parent_eq_none {p : Path} (h : p.parent = none) :
    ∀ step ∈ p.steps, step = .stay := by
  unfold parent at h
  split at h
  · next hparts =>
    obtain ⟨tail, hwritten, hidle⟩ := eq_dropIdleEnd_append p.written
    rw [hparts, List.nil_append] at hwritten
    intro step hstep
    rw [steps_eq, hwritten] at hstep
    obtain ⟨part, hpart, rfl⟩ := List.mem_map.1 hstep
    rw [stepOf, hidle part hpart, if_pos rfl]
  · exact absurd h (Option.some_ne_none _)

end Path

namespace FileTree

/-- A path to a file has a parent, and that leads to a directory if it is written at all. -/
theorem directory_of_file {t : FileTree} {p : Path} {place : Place} {content : ByteArray}
    {executable : Bool} (hresolve : t.resolve p = .ok place)
    (hfile : t.node? place = some (.file content executable)) :
    ∃ dir, p.parent = some dir ∧
      (dir.text = "" ∨ ∃ here, t.resolve dir = .ok here ∧ t.node? here = some .directory) := by
  obtain ⟨hnul, -, hfollow⟩ := target_eq_ok_iff.1 (resolve_eq_ok_iff.1 hresolve)
  cases hparent : p.parent with
  | none =>
    -- Such a path leads nowhere but to the root.
    rw [List.eq_replicate_of_mem (Path.steps_of_parent_eq_none hparent), follow_succ,
      walk_stays rfl] at hfollow
    cases hfollow
    nomatch hfile
  | some dir =>
    refine ⟨dir, rfl, ?_⟩
    rcases Path.exists_eq_append_of_parent hparent with hempty | hroot | ⟨rest, htext⟩
    · exact .inl hempty
    · right
      obtain ⟨text⟩ := dir
      cases hroot
      exact ⟨[], resolve_root t, rfl⟩
    · by_cases hempty : dir.text = ""
      · exact .inl hempty
      right
      have hsteps : p.steps = dir.steps ++ (Text.splitAt '/' rest).map Path.stepOf := by
        rw [Path.steps_eq, Path.written_of_append hempty htext, List.map_append, ← Path.steps_eq]
      rw [hsteps] at hfollow
      rcases follow_append hfollow with ⟨here, left, hhere, hmore⟩ | ⟨_, _, -, hvacant⟩
      · obtain ⟨part, parts, hparts⟩ := List.exists_cons_of_ne_nil (Text.splitAt_ne_nil '/' rest)
        rw [hparts] at hmore
        refine ⟨here, ?_, node?_of_follow_cons hmore⟩
        rw [resolve_eq_ok_iff, target_eq_ok_iff]
        refine ⟨?_, hempty, hhere⟩
        unfold Path.hasNul at hnul ⊢
        rw [htext, List.any_append, Bool.or_eq_false_iff] at hnul
        exact hnul.1
      · nomatch hvacant

end FileTree

end MailTemplates
