import MailTemplates.Proofs.FileTree.Directories
/-!
# A file with another content

Two trees in which one file has different contents (`Revised`) have the same paths: a walk ends at
the same place in both, or fails in both for the same reason (`Revised.walk_eq`). So they agree on
which paths name files and directories, and a path that does not name that file reads the same
(`Revised.readText_eq`). Writing a file or making directories succeeds in both or fails in both, and
leaves such trees again (`Revised.writeText_cases`, `Revised.makeDirectories_agree`).

The proof goes through the operations on a tree in the order in which they are made of each other:
nodes, walks, links, places, what is found at a place, and what is put there. Up to the place of a
path both trees give the same, so each equation only rewrites with the one before. It is reading
that first looks at a content, and that is where the condition on the path comes in.

For operations that change the tree an equation would say too little, since the results differ
again. There the statement has two cases, a reason in both trees or a result in both, and `Agree` is
its form for operations that leave a tree behind even when they fail.
-/

namespace MailTemplates.FileTree

/-- Whether two trees are the same but for the content of the file at a place. Whether the file can
be executed is the same in both. -/
structure Revised (first second : FileTree) (q : Place) : Prop where
  elsewhere (place : Place) (h : place ≠ q) : first.node? place = second.node? place
  there : ∃ old new executable, first.node? q = some (.file old executable) ∧
    second.node? q = some (.file new executable)

/-- How a file is written: the check of the length, the target, and what is there. The last cases
are those of a missing name with more of the path behind it. -/
theorem write_eq (t : FileTree) (p : Path) (content : ByteArray) :
    t.write p content =
      if Path.maxBytes < p.text.utf8ByteSize then .error .nameTooLong
      else
        match t.target p with
        | .error problem => .error problem
        | .ok (.existing place) =>
          match t.node? place with
          | some (.file _ executable) => .ok (t.put place (.file content executable))
          | _ => .error .isDirectory
        | .ok (.vacant place []) => .ok (t.put place (.file content false))
        | .ok (.vacant _ (.stay :: rest)) =>
          .error (if rest.all (· == .stay) then .isDirectory else .notFound)
        | .ok (.vacant _ _) => .error .notFound := by
  unfold write
  split
  · rfl
  · cases t.target p with
    | error problem => rfl
    | ok target =>
      cases target with
      | existing place => rfl
      | vacant place rest =>
        cases rest with
        | nil => rfl
        | cons step rest => cases step <;> rfl

/-- Whether two runs come to the same result, and to trees that differ in the content of a file. -/
def Agree {α : Type} (q : Place) (run other : FileTree × α) : Prop :=
  run.2 = other.2 ∧ run.1.Revised other.1 q

/-- Runs that agree give one result, on trees that differ in one file. -/
theorem Agree.exists_eq {α : Type} {q : Place} {run other : FileTree × α} (h : Agree q run other) :
    ∃ tree tree' result, run = (tree, result) ∧ other = (tree', result) ∧ tree.Revised tree' q :=
  ⟨run.1, other.1, run.2, rfl, Prod.ext rfl h.1.symm, h.2⟩

namespace Revised

variable {first second : FileTree} {q : Place} (h : first.Revised second q)
include h

/-- Trees that differ in one file have the same node everywhere, or two files. All later case
distinctions come down to this one. -/
theorem node?_cases (place : Place) :
    first.node? place = second.node? place ∨ ∃ old new executable,
      first.node? place = some (.file old executable) ∧
        second.node? place = some (.file new executable) := by
  by_cases hplace : place = q
  · subst hplace
    exact .inr h.there
  · exact .inl (h.elsewhere place hplace)

theorem directory_iff (place : Place) :
    first.node? place = some .directory ↔ second.node? place = some .directory := by
  rcases h.node?_cases place with hsame | ⟨old, new, executable, hfirst, hsecond⟩
  · rw [hsame]
  · rw [hfirst, hsecond]
    exact ⟨nofun, nofun⟩

theorem isSome_node?_eq (place : Place) :
    (first.node? place).isSome = (second.node? place).isSome := by
  rcases h.node?_cases place with hsame | ⟨old, new, executable, hfirst, hsecond⟩
  · rw [hsame]
  · rw [hfirst, hsecond]
    rfl

/-!
## Walks

What a walk asks of a node is the same in both trees.
-/

/-- They have the same ways, as the content of a file is of no account for these. A walk asks of a
node only whether it is a directory or a link, and where the link leads. -/
theorem walk_eq (here : Place) (steps : List Step) :
    first.walk here steps = second.walk here steps := by
  induction steps generalizing here with
  | nil => rfl
  | cons step rest ih =>
    by_cases hfirst : first.node? here = some .directory
    · have hsecond := (h.directory_iff here).1 hfirst
      cases step with
      | stay => rw [walk_stay hfirst, walk_stay hsecond, ih]
      | up => rw [walk_up hfirst, walk_up hsecond, ih]
      | into name =>
        rw [walk_into hfirst, walk_into hsecond]
        split
        · rfl
        · rcases h.node?_cases (here ++ [name]) with hsame | ⟨old, new, executable, hold, hnew⟩
          · rw [hsame, ih]
          · rw [hold, hnew]
            exact ih _
    · have hsecond := mt (h.directory_iff here).2 hfirst
      rw [walk_cons_of_not_directory hfirst, walk_cons_of_not_directory hsecond]

/-- The same holds behind links. -/
theorem follow_eq (links : Nat) (here : Place) (steps : List Step) :
    first.follow links here steps = second.follow links here steps := by
  induction links generalizing here steps with
  | zero => rfl
  | succ links ih =>
    rw [follow_succ, follow_succ, h.walk_eq]
    cases second.walk here steps with
    | atLink directory target rest => exact ih _ _
    | _ => rfl

theorem target_eq (p : Path) : first.target p = second.target p := by
  unfold target
  rw [h.follow_eq]

theorem resolve_eq (p : Path) : first.resolve p = second.resolve p := by
  unfold resolve
  rw [h.target_eq]

theorem canonical_eq (p : Path) : first.canonical p = second.canonical p := by
  unfold canonical
  rw [h.resolve_eq]

theorem locate_eq (p : Path) : first.locate p = second.locate p := by
  unfold locate
  rw [h.resolve_eq]

/-!
## Looking

What is found at the end of a path is the same as well, or a file in both.
-/

/-- Elsewhere they have the same nodes. -/
theorem lookup_eq {p : Path} (hp : first.resolve p ≠ .ok q) : first.lookup p = second.lookup p := by
  unfold lookup locate
  rw [← h.resolve_eq]
  split
  · rfl
  · cases hplace : first.resolve p with
    | error problem => rfl
    | ok place =>
      have hne : place ≠ q := by
        rintro rfl
        exact hp hplace
      dsimp only [bind, Except.bind]
      rw [h.elsewhere place hne]

/-- A path names the same in both trees, or a file in both. In both cases the answer to what kind of
thing it is, is the same. -/
theorem lookup_cases (p : Path) :
    first.lookup p = second.lookup p ∨ ∃ old new executable,
      first.lookup p = .ok (.file old executable) ∧
        second.lookup p = .ok (.file new executable) := by
  unfold lookup
  rw [h.locate_eq]
  cases second.locate p with
  | error problem => exact .inl rfl
  | ok place =>
    dsimp only [bind, Except.bind]
    rcases h.node?_cases place with hsame | ⟨old, new, executable, hfirst, hsecond⟩
    · rw [hsame]
      exact .inl rfl
    · rw [hfirst, hsecond]
      exact .inr ⟨old, new, executable, rfl, rfl⟩

theorem isFile_eq (p : Path) : first.isFile p = second.isFile p := by
  unfold isFile
  rcases h.lookup_cases p with hsame | ⟨old, new, executable, hfirst, hsecond⟩
  · rw [hsame]
  · rw [hfirst, hsecond]

theorem isDirectory_eq (p : Path) : first.isDirectory p = second.isDirectory p := by
  unfold isDirectory
  rcases h.lookup_cases p with hsame | ⟨old, new, executable, hfirst, hsecond⟩
  · rw [hsame]
  · rw [hfirst, hsecond]

theorem pathExists_eq (p : Path) : first.pathExists p = second.pathExists p := by
  unfold pathExists
  rcases h.lookup_cases p with hsame | ⟨old, new, executable, hfirst, hsecond⟩
  · rw [hsame]
  · rw [hfirst, hsecond]
    rfl

/-- A path that does not name the file reads the same in both trees. -/
theorem readText_eq {p : Path} (hp : first.resolve p ≠ .ok q) :
    first.readText p = second.readText p := by
  unfold readText readBytes
  rw [h.lookup_eq hp]

/-! ## Writing -/

omit h in
/-- Trees in which two contents have been put into one place. -/
theorem of_put (tree : FileTree) {place : Place} (hplace : place ≠ []) (old new : ByteArray)
    (executable : Bool) :
    (tree.put place (.file old executable)).Revised (tree.put place (.file new executable))
      place where
  elsewhere other hother := by
    rw [node?_put tree hplace, node?_put tree hplace, if_neg hother.symm, if_neg hother.symm]
  there := by
    refine ⟨old, new, executable, ?_, ?_⟩
    · rw [node?_put tree hplace, if_pos rfl]
    · rw [node?_put tree hplace, if_pos rfl]

/-- Whatever is put elsewhere, they still differ in this file only. -/
theorem put {place : Place} (hplace : place ≠ []) (hne : place ≠ q) (node : Node) :
    (first.put place node).Revised (second.put place node) q where
  elsewhere other hother := by
    rw [node?_put first hplace, node?_put second hplace, h.elsewhere other hother]
  there := by
    rw [node?_put first hplace, node?_put second hplace, if_neg hne, if_neg hne]
    exact h.there

/-- A file that is put may be this one; then they are the same. -/
theorem put_file {place : Place} (hplace : place ≠ []) (content : ByteArray) (executable : Bool) :
    (first.put place (.file content executable)).Revised
      (second.put place (.file content executable)) q := by
  by_cases hq : place = q
  · subst hq
    refine ⟨fun other hother => ?_, content, content, executable, ?_, ?_⟩
    · rw [node?_put first hplace, node?_put second hplace, h.elsewhere other hother]
    · rw [node?_put first hplace, if_pos rfl]
    · rw [node?_put second hplace, if_pos rfl]
  · exact h.put hplace hq _

/-- Writing fails in both trees for the same reason, or succeeds in both. If the file that is
written is the one that differs, the two trees are the same afterwards; this counts as differing in
one file as well. -/
theorem writeText_cases (p : Path) (content : String) :
    (∃ problem, first.writeText p content = .error problem ∧
        second.writeText p content = .error problem) ∨
      ∃ after after', first.writeText p content = .ok after ∧
        second.writeText p content = .ok after' ∧ after.Revised after' q := by
  unfold writeText
  rw [write_eq, write_eq, h.target_eq]
  split
  · exact .inl ⟨_, rfl, rfl⟩
  split
  · exact .inl ⟨_, rfl, rfl⟩
  · next place _ =>
    -- There is something: the same in both, or the file in which they differ.
    rcases h.node?_cases place with hsame | ⟨old, new, executable, hfirst, hsecond⟩
    · rw [hsame]
      cases hnode : second.node? place with
      | none => exact .inl ⟨_, rfl, rfl⟩
      | some node =>
        cases node with
        | file old executable =>
          have hplace := ne_nil_of_writable (.inr ⟨old, executable, hnode⟩)
          exact .inr ⟨_, _, rfl, rfl, h.put_file hplace _ _⟩
        | _ => exact .inl ⟨_, rfl, rfl⟩
    · -- The file that differs is written, and then it is the same in both.
      have hplace := ne_nil_of_writable (.inr ⟨old, executable, hfirst⟩)
      rw [hfirst, hsecond]
      exact .inr ⟨_, _, rfl, rfl, h.put_file hplace _ _⟩
  · next place hvacant =>
    have hnone : second.node? place = none :=
      node?_of_follow_vacant (target_eq_ok_iff.1 hvacant).2.2
    exact .inr ⟨_, _, rfl, rfl, h.put_file (ne_nil_of_writable (.inl hnone)) _ _⟩
  · exact .inl ⟨_, rfl, rfl⟩
  · exact .inl ⟨_, rfl, rfl⟩

/-- Making a directory fails in both for the same reason, or succeeds in both. -/
theorem makeIn_cases (place : Place) (last : Option Step) :
    (∃ problem, first.makeIn place last = .error problem ∧
        second.makeIn place last = .error problem) ∨
      ∃ after after', first.makeIn place last = .ok after ∧
        second.makeIn place last = .ok after' ∧ after.Revised after' q := by
  unfold makeIn
  by_cases hdirectory : first.node? place = some .directory
  · have hsecond := (h.directory_iff place).1 hdirectory
    rw [if_neg (not_not_intro hdirectory), if_neg (not_not_intro hsecond)]
    split
    · next name =>
      rw [← h.isSome_node?_eq]
      split
      · exact .inl ⟨_, rfl, rfl⟩
      split
      · exact .inl ⟨_, rfl, rfl⟩
      next hnone =>
      refine .inr ⟨_, _, rfl, rfl, h.put (by simp) ?_ _⟩
      -- There is a file at `q`, so that is not where the directory is made.
      rintro rfl
      obtain ⟨old, new, executable, hfile, -⟩ := h.there
      exact hnone (by rw [hfile]; rfl)
    · exact .inl ⟨_, rfl, rfl⟩
  · rw [if_pos hdirectory, if_pos (mt (h.directory_iff place).2 hdirectory)]
    exact .inl ⟨_, rfl, rfl⟩

/-- So it does along a path. The checks and the way are the same in both trees, so the two runs part
at the last step at the earliest, and there `makeIn_cases` applies. -/
theorem makeDirectory_cases (p : Path) :
    (∃ problem, first.makeDirectory p = .error problem ∧
        second.makeDirectory p = .error problem) ∨
      ∃ after after', first.makeDirectory p = .ok after ∧
        second.makeDirectory p = .ok after' ∧ after.Revised after' q := by
  rw [makeDirectory_eq, makeDirectory_eq, h.follow_eq]
  split
  · exact .inl ⟨_, rfl, rfl⟩
  split
  · exact .inl ⟨_, rfl, rfl⟩
  split
  · exact .inl ⟨_, rfl, rfl⟩
  split
  · exact .inl ⟨_, rfl, rfl⟩
  · exact .inl ⟨_, rfl, rfl⟩
  · exact h.makeIn_cases _ _

omit h in
/-- And with all directories above. The induction is on the number of parents that are left. -/
theorem makeDirectoriesFrom_agree (depth : Nat) (p : Path) {first second : FileTree}
    (h : first.Revised second q) :
    Agree q (makeDirectoriesFrom depth first p) (makeDirectoriesFrom depth second p) := by
  induction depth generalizing first second p with
  | zero => exact ⟨rfl, h⟩
  | succ depth ih =>
    unfold makeDirectoriesFrom
    rcases h.makeDirectory_cases p with ⟨problem, hfirst, hsecond⟩ | ⟨after, after', hfirst,
      hsecond, hafter⟩
    · rw [hfirst, hsecond]
      cases problem with
      -- The parent is made first, and then the directory is tried once more.
      | notFound =>
        cases p.parent with
        | none => exact ⟨rfl, h⟩
        | some above =>
          obtain ⟨reached, reached', result, hrun, hrun', habove⟩ := (ih above h).exists_eq
          dsimp only
          rw [hrun, hrun']
          cases result with
          | error problem => exact ⟨rfl, habove⟩
          | ok made =>
            dsimp only
            rcases habove.makeDirectory_cases p with ⟨problem, hlast, hlast'⟩ | ⟨after, after',
              hlast, hlast', hafter⟩
            · rw [hlast, hlast', habove.isDirectory_eq]
              exact ⟨rfl, habove⟩
            · rw [hlast, hlast']
              exact ⟨rfl, hafter⟩
      | _ => exact ⟨by rw [h.isDirectory_eq], h⟩
    · rw [hfirst, hsecond]
      exact ⟨rfl, hafter⟩

/-- Making directories gives the same in both trees. -/
theorem makeDirectories_agree (p : Path) :
    Agree q (first.makeDirectories p) (second.makeDirectories p) :=
  makeDirectoriesFrom_agree _ p h

end Revised

end MailTemplates.FileTree
