import MailTemplates.FileTree.Write
import MailTemplates.Proofs.Fallible
import MailTemplates.Proofs.FileTree.Walking
/-!
# What writing files changes

Writing puts a file at one place, where there was nothing or a file before. Directories and links
stay as they are, so every walk goes the way it went before, except that one that ended at a name
that was not there may find a file there now (`target_of_growsTo`). In particular a path that named
something still names it.

Of many files that are written one after another, each is the file that its path names in the end
(`resolve_of_writeAll`), no other place has changed (`node?_of_writeAll`), and its content is what
was written, unless a later path names the same place (`readText_of_writeAll`).

What writing does to the nodes is stated once (`GrowsTo`), as a relation that composes: so one file
and many are dealt with by the same lemmas. A walk in the tree that has grown goes as before, or it
goes on where it had ended at a missing name; behind a file there is no way on, so what comes then
is known from the steps that are left (`endAt`).

For many files the induction is on the list. What a path has come to name is kept by all later ones,
since a place that is named once is never given up (`resolve_of_growsTo`); and a content is kept by
those that name another place.
-/

namespace MailTemplates.FileTree

/-- What may be at a place for a file to be written there: nothing, or a file. -/
def Writable (node : Option Node) : Prop :=
  node = none ∨ ∃ content executable, node = some (.file content executable)

/-- Whether a tree can come from another one by writing files. -/
def GrowsTo (before after : FileTree) : Prop :=
  ∀ q, after.node? q = before.node? q ∨ Writable (before.node? q) ∧
    ∃ content executable, after.node? q = some (.file content executable)

theorem GrowsTo.refl (t : FileTree) : t.GrowsTo t := fun _ => .inl rfl

/-- Files may be written one after the other. -/
theorem GrowsTo.trans {s t u : FileTree} (hst : s.GrowsTo t) (htu : t.GrowsTo u) :
    s.GrowsTo u := by
  intro q
  rcases htu q with hu | ⟨ht, hu⟩
  · rcases hst q with hs | ⟨hs, hfile⟩
    · exact .inl (hu.trans hs)
    · exact .inr ⟨hs, hu ▸ hfile⟩
  · rcases hst q with hs | ⟨hs, -⟩
    · exact .inr ⟨hs ▸ ht, hu⟩
    · exact .inr ⟨hs, hu⟩

/-- The root is a directory, so no file is written there. -/
theorem ne_nil_of_writable {t : FileTree} {place : Place} (h : Writable (t.node? place)) :
    place ≠ [] := by
  rintro rfl
  rcases h with h | ⟨content, executable, h⟩ <;> nomatch h

/-- A file that is put where there is none, or a file, is all that changes. -/
theorem growsTo_put {t : FileTree} {place : Place} (h : Writable (t.node? place))
    (content : ByteArray) (executable : Bool) :
    t.GrowsTo (t.put place (.file content executable)) := by
  intro q
  rw [node?_put t (ne_nil_of_writable h)]
  by_cases hq : place = q
  · subst hq
    exact .inr ⟨h, content, executable, if_pos rfl⟩
  · exact .inl (if_neg hq)

/-!
## Walks in a tree that has grown

A new file is met only by a walk that had ended where it is now.
-/

section Walks

variable {before after : FileTree}

/-- A walk goes as before, or goes on where it ended at a name that was not there. -/
theorem walk_of_growsTo (h : before.GrowsTo after) (here : Place) (steps : List Step) :
    after.walk here steps = before.walk here steps ∨
      ∃ place rest, before.walk here steps = .vacant place rest ∧
        (∃ content executable, after.node? place = some (.file content executable)) ∧
        after.walk here steps = after.walk place rest := by
  induction steps generalizing here with
  | nil => exact .inl rfl
  | cons step rest ih =>
    by_cases hdirectory : before.node? here = some .directory
    · -- No file can be written over a directory.
      have hsame : after.node? here = some .directory := by
        rcases h here with hsame | ⟨hwritable, -⟩
        · rw [hsame, hdirectory]
        · rw [hdirectory] at hwritable
          rcases hwritable with hw | ⟨_, _, hw⟩ <;> nomatch hw
      cases step with
      | stay =>
        rw [walk_stay hdirectory, walk_stay hsame]
        exact ih here
      | up =>
        rw [walk_up hdirectory, walk_up hsame]
        exact ih here.dropLast
      | into name =>
        rw [walk_into hdirectory, walk_into hsame]
        split
        · exact .inl rfl
        · rcases h (here ++ [name]) with hnext | ⟨hwritable, content, executable, hnext⟩
          · rw [hnext]
            split
            · exact .inl rfl
            · exact .inl rfl
            · exact ih _
          · -- A file was written here: over an old one, or where the walk ended before.
            rw [hnext]
            rcases hwritable with hnone | ⟨old, x, hfile⟩
            · rw [hnone]
              exact .inr ⟨here ++ [name], rest, rfl, ⟨content, executable, hnext⟩, rfl⟩
            · rw [hfile]
              exact ih _
    · have hsame : after.node? here ≠ some .directory := by
        rcases h here with hsame | ⟨-, content, executable, hfile⟩
        · rwa [hsame]
        · rw [hfile]
          nofun
      rw [walk_cons_of_not_directory hdirectory, walk_cons_of_not_directory hsame]
      exact .inl rfl

/-- What follows from a file: nothing, or a problem if there are more steps. -/
def endAt (place : Place) : List Step → Except FileProblem Target
  | [] => .ok (.existing place)
  | _ :: _ => .error .notDirectory

/-- Following a path gives what it gave before, unless it ended where a file is now. -/
theorem follow_of_growsTo (h : before.GrowsTo after) (links : Nat) (here : Place)
    (steps : List Step) :
    after.follow links here steps = before.follow links here steps ∨
      ∃ place rest, before.follow links here steps = .ok (.vacant place rest) ∧
        (∃ content executable, after.node? place = some (.file content executable)) ∧
        after.follow links here steps = endAt place rest := by
  induction links generalizing here steps with
  | zero => exact .inl rfl
  | succ links ih =>
    simp only [follow_succ]
    rcases walk_of_growsTo h here steps with hsame | ⟨place, rest, hvacant, hfile, hwalk⟩
    · rw [hsame]
      cases before.walk here steps with
      | arrived place => exact .inl rfl
      | vacant place rest => exact .inl rfl
      | failed problem => exact .inl rfl
      | atLink directory target rest => exact ih _ _
    · -- The walk goes on from a file, so it is at its end or fails.
      refine .inr ⟨place, rest, by rw [hvacant], hfile, ?_⟩
      rw [hwalk]
      cases rest with
      | nil => rfl
      | cons step rest =>
        obtain ⟨content, executable, hnode⟩ := hfile
        rw [walk_cons_of_not_directory (by rw [hnode]; nofun)]
        rfl

/-- So a path leads where it led before, unless a file is there now. -/
theorem target_of_growsTo (h : before.GrowsTo after) (p : Path) :
    after.target p = before.target p ∨
      ∃ place rest, before.target p = .ok (.vacant place rest) ∧
        (∃ content executable, after.node? place = some (.file content executable)) ∧
        after.target p = endAt place rest := by
  unfold FileTree.target
  split
  · exact .inl rfl
  · split
    · exact .inl rfl
    · exact follow_of_growsTo h _ _ _

/-- A path that resolves to a place still does. -/
theorem resolve_of_growsTo (h : before.GrowsTo after) {p : Path} {place : Place}
    (hp : before.resolve p = .ok place) : after.resolve p = .ok place := by
  rw [resolve_eq_ok_iff] at hp ⊢
  rcases target_of_growsTo h p with hsame | ⟨q, rest, hvacant, -, -⟩
  · rw [hsame, hp]
  · rw [hp] at hvacant
    nomatch hvacant

/-- A path that names a place where nothing was written named it before. -/
theorem resolve_of_node?_eq (h : before.GrowsTo after) {p : Path} {place : Place}
    (hp : after.resolve p = .ok place) (hsame : after.node? place = before.node? place) :
    before.resolve p = .ok place := by
  rw [resolve_eq_ok_iff] at hp ⊢
  rcases target_of_growsTo h p with
    htarget | ⟨q, rest, hvacant, ⟨content, executable, hfile⟩, htarget⟩
  · rw [← htarget, hp]
  · rw [hp] at htarget
    cases rest with
    | nil =>
      cases htarget
      have hnone := node?_of_follow_vacant (target_eq_ok_iff.1 hvacant).2.2
      rw [hsame, hnone] at hfile
      nomatch hfile
    | cons step rest => nomatch htarget

end Walks

/-!
## Writing one file

A file is written to the place that its path leads to, or to a new place if only the last name is
missing.
-/

section Write

variable {t after : FileTree} {p : Path} {content : String}

theorem node?_put_self {place : Place} (h : Writable (t.node? place)) (node : Node) :
    (t.put place node).node? place = some node := by
  rw [node?_put t (ne_nil_of_writable h), if_pos rfl]

/-- A name that was not there names the file that was put in its place. -/
theorem resolve_put_of_vacant {place : Place} (h : t.target p = .ok (.vacant place []))
    (bytes : ByteArray) (executable : Bool) :
    (t.put place (.file bytes executable)).resolve p = .ok place := by
  have hnone : t.node? place = none := node?_of_follow_vacant (target_eq_ok_iff.1 h).2.2
  have hfile := node?_put_self (.inl hnone) (.file bytes executable)
  rw [resolve_eq_ok_iff]
  rcases target_of_growsTo (growsTo_put (.inl hnone) bytes executable) p with
    hsame | ⟨q, rest, hvacant, -, htarget⟩
  · have hstill := node?_of_follow_vacant (target_eq_ok_iff.1 (hsame.trans h)).2.2
    rw [hfile] at hstill
    nomatch hstill
  · rw [h] at hvacant
    cases hvacant
    exact htarget

/-- Writing puts a file at one place, and then the path names that place. -/
theorem writeText_eq_put (h : t.writeText p content = .ok after) :
    ∃ place executable, Writable (t.node? place) ∧
      after = t.put place (.file content.toUTF8 executable) ∧ after.resolve p = .ok place := by
  unfold writeText write at h
  split at h
  · nomatch h
  · cases htarget : t.target p with
    | error problem =>
      rw [htarget] at h
      nomatch h
    | ok target =>
      rw [htarget] at h
      cases target with
      -- What is there has to be a file, and stays as executable as it was.
      | existing place =>
        simp only [bind, Except.bind] at h
        split at h
        · next old executable hfile =>
          cases h
          have hwritable : Writable (t.node? place) := .inr ⟨old, executable, hfile⟩
          exact ⟨place, executable, hwritable, rfl,
            resolve_of_growsTo (growsTo_put hwritable _ _) (resolve_eq_ok_iff.2 htarget)⟩
        · nomatch h
      -- Only the last name may be missing.
      | vacant place rest =>
        cases rest with
        | nil =>
          cases h
          have hnone : t.node? place = none :=
            node?_of_follow_vacant (target_eq_ok_iff.1 htarget).2.2
          exact ⟨place, false, .inl hnone, rfl, resolve_put_of_vacant htarget _ _⟩
        | cons step rest =>
          cases step <;> nomatch h

/-- Writing a text writes one file. -/
theorem growsTo_of_writeText (h : t.writeText p content = .ok after) : t.GrowsTo after := by
  obtain ⟨place, executable, hwritable, rfl, -⟩ := writeText_eq_put h
  exact growsTo_put hwritable _ _

/-- Writing changes nothing but the file that the path names. -/
theorem node?_of_writeText (h : t.writeText p content = .ok after) (q : Place) :
    after.node? q = t.node? q ∨ after.resolve p = .ok q := by
  obtain ⟨place, executable, hwritable, rfl, hresolve⟩ := writeText_eq_put h
  rw [node?_put t (ne_nil_of_writable hwritable)]
  by_cases hq : place = q
  · subst hq
    exact .inr hresolve
  · exact .inl (if_neg hq)

/-- A path that is written to is not too long. -/
theorem length_of_writeText (h : t.writeText p content = .ok after) :
    p.text.utf8ByteSize ≤ Path.maxBytes := by
  unfold writeText write at h
  split at h
  · nomatch h
  · next hlong => exact Nat.le_of_not_lt hlong

theorem fromUTF8?_toUTF8 (s : String) : String.fromUTF8? s.toUTF8 = some s := by
  have hvalid : s.toUTF8.IsValidUTF8 := s.isValidUTF8
  unfold String.fromUTF8?
  rw [dif_pos hvalid]
  rfl

/-- A file with the bytes of a text is read as this text. -/
theorem readText_eq_of_file {place : Place} {executable : Bool} (hresolve : t.resolve p = .ok place)
    (hlength : p.text.utf8ByteSize ≤ Path.maxBytes)
    (hfile : t.node? place = some (.file content.toUTF8 executable)) :
    t.readText p = .ok content := by
  have hlookup : t.lookup p = .ok (.file content.toUTF8 executable) := by
    unfold lookup locate
    rw [if_neg (Nat.not_lt_of_le hlength), hresolve]
    simp only [bind, Except.bind, hfile]
    rfl
  unfold readText readBytes
  rw [hlookup]
  simp only [bind, Except.bind, pure, Except.pure, fromUTF8?_toUTF8]

end Write

/-!
## Writing many files

The list is gone through from the front. What holds of the place of an earlier path goes on to hold,
unless a later path leads there too.
-/

/-- Writes texts to paths, one after another. -/
def writeAll (t : FileTree) (writes : List (Path × String)) : Except FileProblem FileTree :=
  writes.foldlM (fun t write => t.writeText write.1 write.2) t

section WriteAll

variable {t after : FileTree}

/-- Texts are written one after the other, and each has to succeed. -/
theorem writeAll_cons_eq_ok_iff {write : Path × String} {writes : List (Path × String)} :
    t.writeAll (write :: writes) = .ok after ↔
      ∃ next, t.writeText write.1 write.2 = .ok next ∧ next.writeAll writes = .ok after := by
  unfold writeAll
  rw [List.foldlM_cons]
  cases t.writeText write.1 write.2 with
  | error problem => exact ⟨nofun, fun ⟨_, h, _⟩ => nomatch h⟩
  | ok next =>
    constructor
    · intro h
      exact ⟨next, rfl, h⟩
    · rintro ⟨_, ⟨⟩, h⟩
      exact h

/-- So are two lists of them. -/
theorem writeAll_append_eq_ok_iff {first second : List (Path × String)} :
    t.writeAll (first ++ second) = .ok after ↔
      ∃ next, t.writeAll first = .ok next ∧ next.writeAll second = .ok after := by
  unfold writeAll
  rw [List.foldlM_append]
  cases first.foldlM (fun t write => t.writeText write.1 write.2) t with
  | error problem => exact ⟨nofun, fun ⟨_, h, _⟩ => nomatch h⟩
  | ok next =>
    constructor
    · intro h
      exact ⟨next, rfl, h⟩
    · rintro ⟨_, ⟨⟩, h⟩
      exact h

/-- Writing texts writes files only. -/
theorem growsTo_of_writeAll {writes : List (Path × String)} (h : t.writeAll writes = .ok after) :
    t.GrowsTo after := by
  induction writes generalizing t with
  | nil =>
    cases h
    exact .refl _
  | cons write writes ih =>
    obtain ⟨next, hwrite, hrest⟩ := writeAll_cons_eq_ok_iff.1 h
    exact (growsTo_of_writeText hwrite).trans (ih hrest)

/-- Every path names a place in the end. -/
theorem resolve_of_writeAll {writes : List (Path × String)} (h : t.writeAll writes = .ok after)
    {write : Path × String} (hmem : write ∈ writes) :
    ∃ place, after.resolve write.1 = .ok place := by
  obtain ⟨first, second, rfl⟩ := List.append_of_mem hmem
  obtain ⟨before, -, hrest⟩ := writeAll_append_eq_ok_iff.1 h
  obtain ⟨next, hwrite, hsecond⟩ := writeAll_cons_eq_ok_iff.1 hrest
  obtain ⟨place, executable, -, -, hresolve⟩ := writeText_eq_put hwrite
  exact ⟨place, resolve_of_growsTo (growsTo_of_writeAll hsecond) hresolve⟩

/-- Nothing has changed but the files that the paths name in the end. -/
theorem node?_of_writeAll {writes : List (Path × String)} (h : t.writeAll writes = .ok after)
    (q : Place) :
    after.node? q = t.node? q ∨ ∃ write ∈ writes, after.resolve write.1 = .ok q := by
  induction writes generalizing t with
  | nil =>
    cases h
    exact .inl rfl
  | cons write writes ih =>
    obtain ⟨next, hwrite, hrest⟩ := writeAll_cons_eq_ok_iff.1 h
    rcases ih hrest with hsame | ⟨later, hmem, hlater⟩
    · rcases node?_of_writeText hwrite q with hfirst | hresolve
      · exact .inl (hsame.trans hfirst)
      · exact .inr ⟨write, List.mem_cons_self,
          resolve_of_growsTo (growsTo_of_writeAll hrest) hresolve⟩
    · exact .inr ⟨later, List.mem_cons_of_mem _ hmem, hlater⟩

/-- A file has the content that was written to its path last. -/
theorem readText_of_writeAll {first second : List (Path × String)} {p : Path} {content : String}
    (h : t.writeAll (first ++ (p, content) :: second) = .ok after)
    (hlast : ∀ write ∈ second, after.resolve write.1 ≠ after.resolve p) :
    after.readText p = .ok content := by
  obtain ⟨before, -, hrest⟩ := writeAll_append_eq_ok_iff.1 h
  obtain ⟨next, hwrite, hsecond⟩ := writeAll_cons_eq_ok_iff.1 hrest
  obtain ⟨place, executable, hwritable, hput, hresolve⟩ := writeText_eq_put hwrite
  have hafter : after.resolve p = .ok place :=
    resolve_of_growsTo (growsTo_of_writeAll hsecond) hresolve
  have hfile : next.node? place = some (.file content.toUTF8 executable) := by
    rw [hput]
    exact node?_put_self hwritable _
  have hkept : after.node? place = some (.file content.toUTF8 executable) := by
    rcases node?_of_writeAll hsecond place with hsame | ⟨later, hmem, hlater⟩
    · exact hsame.trans hfile
    · exact absurd (hlater.trans hafter.symm) (hlast later hmem)
  exact readText_eq_of_file hafter (length_of_writeText hwrite) hkept

end WriteAll

end MailTemplates.FileTree
