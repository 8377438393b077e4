import MailTemplates.Proofs.FileTree.Directories
import MailTemplates.Proofs.FileTree.Moving
/-!
# Opening what is there

The canonical path of something that exists names it again (`FileTree.resolve_path`). So what such a
path leads to is a file or a directory, and only little can be wrong with reading it as text: the
path is not one that can be opened, there is a directory, or the bytes are no text
(`FileTree.Unreadable`).

The reasons are told in the order in which they are looked for, so that each of them excludes the
ones behind it (`Unreadable`). That there are no others is shown by reading through the canonical
path again: it resolves to the place it was made from, there is a node, and that is no link
(`Reached.exists_node`).

Main statement: `FileTree.readText_canonical_eq_error_iff`.
-/

namespace MailTemplates.FileTree

variable {t : FileTree}

/-! ## The canonical path -/

/-- At a place that is reached there is a node, and no link. -/
theorem Reached.exists_node {place : Place} (h : t.Reached place) :
    ∃ node, t.node? place = some node ∧ ∀ target, node ≠ .link target := by
  rcases List.eq_nil_or_concat place with rfl | ⟨above, name, hplace⟩
  · exact ⟨.directory, rfl, nofun⟩
  rw [List.concat_eq_append] at hplace
  subst hplace
  have habove : t.Reached above := h.of_prefix (List.prefix_append above [name])
  unfold Reached at h habove
  rw [List.map_append, walk_append, habove] at h
  change t.walk above [.into name] = _ at h
  by_cases hdirectory : t.node? above = some .directory
  · rw [walk_into hdirectory] at h
    split at h
    · nomatch h
    · split at h
      · nomatch h
      · nomatch h
      next node hlink hnode =>
      exact ⟨node, hnode, fun target heq => hlink target (heq ▸ rfl)⟩
  · rw [walk_cons_of_not_directory hdirectory] at h
    nomatch h

/-- The path of a place that is reached names it, if no name in it has a character that no path may
have. -/
theorem resolve_path {place : Place} (hplace : t.Reached place) (hproper : place.Proper)
    (hnul : place.path.hasNul = false) : t.resolve place.path = .ok place := by
  have hne : place.path.text ≠ "" := by
    intro hempty
    have hlist := congrArg String.toList hempty
    rw [Path.toList_path] at hlist
    nomatch hlist
  have hfollow : t.follow (maxLinks + 1) [] place.path.steps = .ok (.existing place) := by
    rw [follow_succ]
    by_cases hroot : place = []
    · subst hroot
      have hsteps : (Place.path []).steps = .replicate 1 .stay := by decide +kernel
      rw [hsteps, walk_stays rfl]
    · have hsteps : place.path.steps = place.map .into := by
        rw [Path.steps_eq, Path.written_path hroot hproper, List.map_map]
        exact List.map_congr_left fun name hname => (hproper name hname).2
      rw [hsteps, hplace]
  rw [resolve_eq_ok_iff, target_eq_ok_iff]
  exact ⟨hnul, hne, hfollow⟩

/-!
## What can be wrong with it

The causes are tried in the order of the code, and each of them is given as a condition on the tree.
-/

/-- Why the text of something that exists cannot be read. -/
inductive Unreadable (t : FileTree) (file : Path) : FileProblem → Prop where
  | tooLong (hlong : Path.maxBytes < file.text.utf8ByteSize) : Unreadable t file .nameTooLong
  | nul (hshort : file.text.utf8ByteSize ≤ Path.maxBytes) (hnul : file.hasNul = true) :
      Unreadable t file .nulInName
  | directory (hdirectory : t.lookup file = .ok .directory) : Unreadable t file .isDirectory
  | notText {content : ByteArray} {executable : Bool}
      (hfile : t.lookup file = .ok (.file content executable))
      (hcontent : String.fromUTF8? content = none) : Unreadable t file .notText

theorem readText_of_error {file : Path} {problem : FileProblem}
    (h : t.lookup file = .error problem) : t.readText file = .error problem := by
  unfold readText readBytes
  rw [h]
  rfl

theorem readText_of_directory {file : Path} (h : t.lookup file = .ok .directory) :
    t.readText file = .error .isDirectory := by
  unfold readText readBytes
  rw [h]
  rfl

/-- A file is read if its bytes are text. -/
theorem readText_of_file {file : Path} {content : ByteArray} {executable : Bool}
    (h : t.lookup file = .ok (.file content executable)) :
    t.readText file =
      match String.fromUTF8? content with
      | some text => .ok text
      | none => .error .notText := by
  have hbytes : t.readBytes file = .ok content := by
    unfold readBytes
    rw [h]
    rfl
  unfold readText
  rw [hbytes]
  rfl

theorem lookup_of_tooLong {file : Path} (h : Path.maxBytes < file.text.utf8ByteSize) :
    t.lookup file = .error .nameTooLong := by
  unfold lookup locate
  rw [if_pos h]
  rfl

theorem lookup_of_nul {file : Path} (hshort : file.text.utf8ByteSize ≤ Path.maxBytes)
    (h : file.hasNul = true) : t.lookup file = .error .nulInName := by
  unfold lookup locate resolve target
  rw [if_neg (Nat.not_lt_of_le hshort), if_pos h]
  rfl

/-- A path for which reading has a reason to fail fails for this reason. -/
theorem Unreadable.readText_eq {file : Path} {problem : FileProblem}
    (h : t.Unreadable file problem) : t.readText file = .error problem := by
  cases h with
  | tooLong hlong => exact readText_of_error (lookup_of_tooLong hlong)
  | nul hshort hnul => exact readText_of_error (lookup_of_nul hshort hnul)
  | directory hdirectory => exact readText_of_directory hdirectory
  | notText hfile hcontent => rw [readText_of_file hfile, hcontent]

/-- What exists is found again by its canonical path, if that can be opened. -/
theorem lookup_canonical {p file : Path} (hfile : t.canonical p = .ok file)
    (hshort : file.text.utf8ByteSize ≤ Path.maxBytes) (hnul : file.hasNul = false) :
    ∃ node, t.lookup file = .ok node ∧ ∀ target, node ≠ .link target := by
  obtain ⟨place, hplace, rfl⟩ := map_eq_ok_iff.1 hfile
  have hreached := reached_of_resolve hplace
  obtain ⟨node, hnode, hlink⟩ := hreached.exists_node
  have hresolve := resolve_path hreached (proper_of_resolve hplace) hnul
  refine ⟨node, bind_eq_ok_iff.2 ⟨place, ?_, ?_⟩, hlink⟩
  · unfold locate
    rw [if_neg (Nat.not_lt_of_le hshort), hresolve]
  · rw [hnode]
    rfl

/-- What exists is not read as text for one of four reasons. -/
theorem readText_canonical_eq_error_iff {p file : Path} {problem : FileProblem}
    (hfile : t.canonical p = .ok file) :
    t.readText file = .error problem ↔ t.Unreadable file problem := by
  refine ⟨fun hread => ?_, Unreadable.readText_eq⟩
  have hreason : ∀ {other}, t.Unreadable file other → t.Unreadable file problem := by
    intro other hother
    rwa [Except.error.inj (hread.symm.trans hother.readText_eq)]
  by_cases hlong : Path.maxBytes < file.text.utf8ByteSize
  · exact hreason (.tooLong hlong)
  have hshort := Nat.le_of_not_lt hlong
  cases hnul : file.hasNul with
  | true => exact hreason (.nul hshort hnul)
  | false =>
    obtain ⟨node, hlookup, hlink⟩ := lookup_canonical hfile hshort hnul
    cases node with
    | link target => exact absurd rfl (hlink target)
    | directory => exact hreason (.directory hlookup)
    | file content executable =>
      cases htext : String.fromUTF8? content with
      | none => exact hreason (.notText hlookup htext)
      | some text =>
        rw [readText_of_file hlookup, htext] at hread
        nomatch hread

theorem exists_lookup_of_isFile {file : Path} (h : t.isFile file = true) :
    ∃ content executable, t.lookup file = .ok (.file content executable) := by
  unfold isFile at h
  split at h
  · next content executable hlookup => exact ⟨content, executable, hlookup⟩
  · nomatch h

end MailTemplates.FileTree
