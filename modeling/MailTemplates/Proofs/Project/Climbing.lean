import MailTemplates.Proofs.FileTree.Moving
import MailTemplates.Project.Cascade
/-!
# The directories on the way up

Going up from a directory of a project one comes through its parent, the parent of that, and so on,
and stops at the root (`Path.Climbs`). The search for a file goes this way from where its directory
is once all links have been followed, or from the directory as it is written if it does not exist.

Main statement: `Project.climbs_searchPath`.
-/

namespace MailTemplates

namespace Path

/-- The directories from one up to and including the root, each the parent of the one in front of
it; there are none if the first is not in the root. -/
inductive Climbs (root : Path) : Path → List Path → Prop where
  | outside {directory : Path} (h : directory.startsWith root = false) : Climbs root directory []
  | root {directory : Path} (h : directory.startsWith root = true)
      (hparts : directory.parts = root.parts) : Climbs root directory [directory]
  | up {directory above : Path} {higher : List Path}
      (hparent : directory.parent = some above) (habove : above.startsWith root = true)
      (hhigher : Climbs root above higher) : Climbs root directory (directory :: higher)

/-- A path starts with a root if its parts do and both are absolute, or neither is. -/
theorem startsWith_iff {p root : Path} :
    p.startsWith root = true ↔ p.isAbsolute = root.isAbsolute ∧ root.parts <+: p.parts := by
  unfold startsWith
  rw [Bool.and_eq_true, beq_iff_eq, List.isPrefixOf_iff_prefix]

/-- The first of the ancestors is the path itself. -/
theorem exists_ancestorsFrom_eq_cons (n : Nat) (p : Path) :
    ∃ higher, p.ancestorsFrom n = p :: higher := by
  cases n with
  | zero => exact ⟨[], rfl⟩
  | succ n =>
    unfold ancestorsFrom
    cases p.parent with
    | none => exact ⟨[], rfl⟩
    | some above => exact ⟨_, rfl⟩

section Root

variable {root p : Path}

/-- Inside the root the way up goes on. -/
theorem takeWhile_inside (h : p.startsWith root = true) (higher : List Path) :
    (p :: higher).takeWhile (fun d => d.startsWith root) =
      p :: higher.takeWhile fun d => d.startsWith root :=
  List.takeWhile_cons_of_pos h

/-- Outside it has ended. -/
theorem takeWhile_outside (h : p.startsWith root = false) (n : Nat) :
    (p.ancestorsFrom n).takeWhile (fun d => d.startsWith root) = [] := by
  obtain ⟨higher, hhigher⟩ := exists_ancestorsFrom_eq_cons n p
  rw [hhigher, List.takeWhile_cons_of_neg (by simp [h])]

/-- A path without parts is inside the root only if that has none. -/
theorem parts_eq_of_no_parts (h : p.startsWith root = true) (hp : p.parts = []) :
    p.parts = root.parts := by
  have hprefix := (startsWith_iff.1 h).2
  rw [hp, List.prefix_nil] at hprefix
  rw [hp, hprefix]

/-- Going up for as long as one is in the root ends at the root. -/
theorem climbs_ancestorsFrom {n : Nat} (hn : p.parts.length ≤ n) (h : p.startsWith root = true) :
    Climbs root p ((p.ancestorsFrom n).takeWhile fun d => d.startsWith root) := by
  -- Each step up takes one part away, so a path has no more ancestors than parts.
  induction n generalizing p with
  | zero =>
    rw [ancestorsFrom, takeWhile_inside h]
    exact .root h (parts_eq_of_no_parts h (List.eq_nil_of_length_eq_zero (Nat.le_zero.1 hn)))
  | succ n ih =>
    cases hparent : p.parent with
    | none =>
      rw [ancestorsFrom, hparent]
      dsimp only
      rw [takeWhile_inside h]
      exact .root h (parts_eq_of_no_parts h (parts_eq_nil_of_parent_eq_none hparent))
    | some above =>
      rw [ancestorsFrom, hparent]
      dsimp only
      rw [takeWhile_inside h]
      obtain ⟨last, hlast⟩ := parts_of_parent hparent
      obtain ⟨hkind, hprefix⟩ := startsWith_iff.1 h
      rw [hlast, List.prefix_concat_iff] at hprefix
      rcases hprefix with hroot | hbelow
      · -- The root has one part more than its parent, which is outside then.
        have houtside : above.startsWith root = false := by
          rw [Bool.eq_false_iff, ne_eq, startsWith_iff, hroot]
          rintro ⟨-, hlong⟩
          have hlength := hlong.length_le
          rw [List.length_append, List.length_singleton] at hlength
          omega
        rw [takeWhile_outside houtside]
        exact .root h (hlast.trans hroot.symm)
      · have hinside : above.startsWith root = true :=
          startsWith_iff.2 ⟨(isAbsolute_of_parent hparent).trans hkind, hbelow⟩
        rw [hlast, List.length_append, List.length_singleton] at hn
        exact .up hparent hinside (ih (by omega) hinside)

/-- The ancestors inside a root are the way up to it. -/
theorem climbs_ancestors (root p : Path) :
    Climbs root p (p.ancestors.takeWhile fun d => d.startsWith root) := by
  cases h : p.startsWith root with
  | true => exact climbs_ancestorsFrom (List.length_filter_le _ _) h
  | false =>
    rw [ancestors, takeWhile_outside h]
    exact .outside h

end Root

end Path

/-- The directories of a search lead from the one that it begins with, all links followed if it
exists, up to and including the root; there are none if it begins outside the root. -/
theorem Project.climbs_searchPath (project : Project) (tree : FileTree) (directory : Path) :
    ∃ start,
      (tree.canonical directory = .ok start ∨
        (∃ problem, tree.canonical directory = .error problem) ∧ start = directory) ∧
      project.root.Climbs start (project.searchPath tree directory) := by
  unfold searchPath
  cases hstart : tree.canonical directory with
  | ok start => exact ⟨start, .inl rfl, Path.climbs_ancestors project.root start⟩
  | error problem => exact ⟨_, .inr ⟨⟨problem, rfl⟩, rfl⟩, Path.climbs_ancestors project.root _⟩

end MailTemplates
