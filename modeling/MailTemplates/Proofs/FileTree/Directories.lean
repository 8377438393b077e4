import MailTemplates.Proofs.FileTree.Paths
import MailTemplates.Proofs.FileTree.Writing
/-!
# What making directories changes

Making a directory puts one at a place where nothing was, and then the path names it
(`makeDirectory_eq_put`). Making all that are missing on a path does so once for each, from the top
down, and nothing else changes (`gainsDirectories_makeDirectories`). In a directory that exists only
one is made (`node?_of_makeDirectories_join`).

Neither this nor writing files takes anything away, so a path that named something still names it
(`resolve_of_persists`).

Three facts carry this:

1. A walk that arrives goes on arriving (`walk_of_persists`), since what decides how it goes on is
   the kind of each node, and only the content of a file may change.
2. Of one directory that is made everything is known (`makeDirectory_eq_put`): the way to the
   directory above persists, and the last step then finds what was put there.
3. What is gained step by step is gained altogether (`GainsDirectories.trans`), as a path that named
   a directory when it was made still names it. So the recursion over the parents is an induction
   with these two and nothing else.
-/

namespace MailTemplates.FileTree

/-!
## Trees from which nothing is taken

The first of two relations between a tree and what becomes of it. It is about all nodes, and so it
composes.
-/

/-- Whether all that is in a tree is in another one too, where a file may have another content.
Directories and links stay what they are. This is what writing files and making directories have in
common, and all that is needed for paths to keep their meaning. -/
def Persists (before after : FileTree) : Prop :=
  ∀ q node, before.node? q = some node → after.node? q = some node ∨
    (∃ content executable, node = .file content executable) ∧
      ∃ content executable, after.node? q = some (.file content executable)

/-- A tree that files are written to keeps its directories and the files that it has. -/
theorem persists_of_growsTo {before after : FileTree} (h : before.GrowsTo after) :
    before.Persists after := by
  intro q node hnode
  rcases h q with hsame | ⟨hwritable, hfile⟩
  · exact .inl (hsame.trans hnode)
  · rw [hnode] at hwritable
    rcases hwritable with hnone | ⟨content, executable, hold⟩
    · nomatch hnone
    · exact .inr ⟨⟨content, executable, Option.some.inj hold⟩, hfile⟩

/-- What persists twice persists. -/
theorem Persists.trans {s t u : FileTree} (hst : s.Persists t) (htu : t.Persists u) :
    s.Persists u := by
  intro q node hnode
  rcases hst q node hnode with ht | ⟨hfile, content, executable, ht⟩
  · exact htu q node ht
  · rcases htu q _ ht with hu | ⟨-, hu⟩
    · exact .inr ⟨hfile, content, executable, hu⟩
    · exact .inr ⟨hfile, hu⟩

section Persists

variable {before after : FileTree} (h : before.Persists after)
include h

/-- A directory stays one. -/
theorem directory_of_persists {q : Place} (hq : before.node? q = some .directory) :
    after.node? q = some .directory := by
  rcases h q _ hq with hsame | ⟨⟨_, _, hfile⟩, -⟩
  · exact hsame
  · cases hfile

/-- A walk goes as before, unless it ended before its last step. A walk that ended at a missing name
or failed is the only one that may do otherwise, since something may be there by now. The induction
is on the steps. -/
theorem walk_of_persists (here : Place) (steps : List Step) :
    after.walk here steps = before.walk here steps ∨
      (∃ place rest, before.walk here steps = .vacant place rest) ∨
      ∃ problem, before.walk here steps = .failed problem := by
  induction steps generalizing here with
  | nil => exact .inl rfl
  | cons step rest ih =>
    by_cases hdirectory : before.node? here = some .directory
    · have hstill := directory_of_persists h hdirectory
      cases step with
      | stay =>
        rw [walk_stay hdirectory, walk_stay hstill]
        exact ih here
      | up =>
        rw [walk_up hdirectory, walk_up hstill]
        exact ih here.dropLast
      | into name =>
        rw [walk_into hdirectory, walk_into hstill]
        split
        · exact .inl rfl
        · cases hnext : before.node? (here ++ [name]) with
          | none => exact .inr (.inl ⟨_, _, rfl⟩)
          | some node =>
            -- What kind of node is here decides how the walk goes on, and the kind is kept.
            rcases h _ node hnext with hsame | ⟨⟨_, _, rfl⟩, _, _, hfile⟩
            · rw [hsame]
              cases node with
              | link target => exact .inl rfl
              | file content executable => exact ih _
              | directory => exact ih _
            · rw [hfile]
              exact ih _
    · rw [walk_cons_of_not_directory hdirectory]
      exact .inr (.inr ⟨_, rfl⟩)

/-- What a path leads to is led to later, too. The induction is on the number of links. -/
theorem follow_of_persists {links : Nat} {here place : Place} {steps : List Step}
    (hfollow : before.follow links here steps = .ok (.existing place)) :
    after.follow links here steps = .ok (.existing place) := by
  induction links generalizing here steps with
  | zero => nomatch hfollow
  | succ links ih =>
    rw [follow_succ] at hfollow ⊢
    rcases walk_of_persists h here steps with hsame | ⟨_, _, hvacant⟩ | ⟨_, hfailed⟩
    · rw [hsame]
      cases hwalk : before.walk here steps with
      | atLink directory target rest =>
        rw [hwalk] at hfollow
        exact ih hfollow
      | _ =>
        rw [hwalk] at hfollow
        exact hfollow
    · rw [hvacant] at hfollow
      nomatch hfollow
    · rw [hfailed] at hfollow
      nomatch hfollow

/-- A path that resolves to a place does so later. So a path that was used once may be used again
after any number of writes. -/
theorem resolve_of_persists {p : Path} {place : Place} (hp : before.resolve p = .ok place) :
    after.resolve p = .ok place := by
  rw [resolve_eq_ok_iff, target_eq_ok_iff] at hp ⊢
  exact ⟨hp.1, hp.2.1, follow_of_persists h hp.2.2⟩

end Persists

/-- A path is a file if it is short enough and resolves to one. The length is checked on the path as
it is written, before anything is looked up. -/
theorem isFile_eq_true_iff {t : FileTree} {p : Path} :
    t.isFile p = true ↔ p.text.utf8ByteSize ≤ Path.maxBytes ∧ ∃ place content executable,
      t.resolve p = .ok place ∧ t.node? place = some (.file content executable) := by
  unfold isFile lookup locate
  by_cases hlong : Path.maxBytes < p.text.utf8ByteSize
  · rw [if_pos hlong]
    exact ⟨nofun, fun h => absurd hlong (Nat.not_lt_of_le h.1)⟩
  · rw [if_neg hlong]
    simp only [bind, Except.bind, Nat.le_of_not_lt hlong, true_and]
    -- A path of allowed length: what it resolves to decides.
    cases t.resolve p with
    | error problem => exact ⟨nofun, fun ⟨_, _, _, h, _⟩ => nomatch h⟩
    | ok place =>
      dsimp only
      cases hnode : t.node? place with
      | none =>
        refine ⟨nofun, fun ⟨_, _, _, h, hfile⟩ => ?_⟩
        cases h
        rw [hnode] at hfile
        nomatch hfile
      | some node =>
        cases node with
        | file content executable => exact ⟨fun _ => ⟨_, _, _, rfl, hnode⟩, fun _ => rfl⟩
        | _ =>
          refine ⟨nofun, fun ⟨_, _, _, h, hfile⟩ => ?_⟩
          cases h
          rw [hnode] at hfile
          nomatch hfile

/-- What can be read is a file. -/
theorem isFile_of_readText {t : FileTree} {p : Path} {content : String}
    (h : t.readText p = .ok content) : t.isFile p = true := by
  unfold readText readBytes at h
  unfold isFile
  cases hlookup : t.lookup p with
  | error problem =>
    rw [hlookup] at h
    nomatch h
  | ok node =>
    rw [hlookup] at h
    cases node with
    | file bytes executable => rfl
    | link target => nomatch h
    | directory => nomatch h

/-- A file stays one. -/
theorem isFile_of_persists {before after : FileTree} (h : before.Persists after) {p : Path}
    (hp : before.isFile p = true) : after.isFile p = true := by
  rw [isFile_eq_true_iff] at hp ⊢
  obtain ⟨hlength, place, content, executable, hresolve, hfile⟩ := hp
  refine ⟨hlength, place, ?_⟩
  rcases h _ _ hfile with hsame | ⟨-, content, executable, hfile⟩
  · exact ⟨content, executable, resolve_of_persists h hresolve, hsame⟩
  · exact ⟨content, executable, resolve_of_persists h hresolve, hfile⟩

/-!
## Making one directory

The way to the directory above is followed through links, and the last step is not.
-/

/-- Putting a node where nothing is keeps what is there. -/
theorem persists_put {t : FileTree} {place : Place} (h : t.node? place = none) (node : Node) :
    t.Persists (t.put place node) := by
  intro q old hold
  have hne : place ≠ q := by
    rintro rfl
    rw [h] at hold
    nomatch hold
  rw [node?_put t (ne_nil_of_writable (.inl h)), if_neg hne]
  exact .inl hold

/-- Behind the last step that leads anywhere there are only idle ones. A path may end in slashes and
dots, and the directory to be made is named by the last part that is none of these. -/
theorem eq_append_of_splitLast {steps before : List Step} {last : Step}
    (h : splitLast steps = (before, some last)) :
    ∃ n, steps = before ++ last :: .replicate n .stay := by
  unfold splitLast at h
  split at h
  · nomatch h
  · next found above hdrop =>
    cases h
    have hstays : ∀ step ∈ steps.reverse.takeWhile (· == Step.stay), step = .stay := by
      intro step hstep
      simpa using List.all_eq_true.1 (List.all_takeWhile ..) step hstep
    obtain ⟨n, hn⟩ : ∃ n, .replicate n .stay ++ last :: above = steps.reverse :=
      ⟨_, by rw [← List.eq_replicate_of_mem hstays, ← hdrop, List.takeWhile_append_dropWhile]⟩
    refine ⟨n, ?_⟩
    rw [← List.reverse_reverse steps, ← hn]
    simp

/-- A step down at the end is the last one. -/
theorem splitLast_append_into (front : List Step) (name : String) :
    splitLast (front ++ [.into name]) = (front, some (.into name)) := by
  simp [splitLast]

/-- What making a directory gives once the one it is to be made in is found. -/
def makeIn (t : FileTree) (place : Place) (last : Option Step) : Except FileProblem FileTree :=
  if t.node? place ≠ some .directory then .error .notDirectory
  else
    match last with
    | some (.into name) =>
      if maxNameBytes < name.utf8ByteSize then .error .nameTooLong
      else if (t.node? (place ++ [name])).isSome then .error .alreadyExists
      else .ok (t.put (place ++ [name]) .directory)
    | _ => .error .alreadyExists

/-- How a directory is made: the checks of the name, the way to the directory above, and the last
step. The code has this as one chain of steps that may fail. Here each check is a condition by
itself, so that later proofs can split on them one after the other. -/
theorem makeDirectory_eq (t : FileTree) (p : Path) :
    t.makeDirectory p =
      if p.hasNul then .error .nulInName
      else if p.text.isEmpty then .error .notFound
      else if Path.maxBytes < p.text.utf8ByteSize then .error .nameTooLong
      else
        match t.follow (maxLinks + 1) [] (splitLast p.steps).1 with
        | .error problem => .error problem
        | .ok (.vacant _ _) => .error .notFound
        | .ok (.existing place) => t.makeIn place (splitLast p.steps).2 := by
  unfold makeDirectory
  -- The checks of the name come in this order.
  by_cases hnul : p.hasNul = true
  · simp only [hnul, if_true]
    rfl
  by_cases hempty : p.text.isEmpty = true
  · simp only [hnul, hempty, if_true]
    rfl
  by_cases hlong : Path.maxBytes < p.text.utf8ByteSize
  · simp only [hnul, hempty, hlong, if_true]
    rfl
  simp only [hnul, hempty, hlong, if_false]
  cases t.follow (maxLinks + 1) [] (splitLast p.steps).1 with
  | error problem => rfl
  | ok target =>
    cases target with
    | vacant place rest => rfl
    | existing place =>
      show _ = t.makeIn place (splitLast p.steps).2
      -- The last step is taken in the directory that was found.
      unfold makeIn
      by_cases hdirectory : t.node? place ≠ some .directory
      · simp only [bind, Except.bind, if_pos hdirectory]
        rfl
      simp only [bind, Except.bind, if_neg hdirectory]
      rcases (splitLast p.steps).2 with _ | name | _ | _
      · rfl
      · by_cases hname : maxNameBytes < name.utf8ByteSize
        · simp only [hname, if_true]
          rfl
        · by_cases hthere : (t.node? (place ++ [name])).isSome = true
          · simp only [hname, hthere, if_true, if_false]
            rfl
          · simp only [hname, hthere, if_false]
            rfl
      · rfl
      · rfl

/-- A directory that is made is a new node in an existing directory, and the only change. The checks
that were passed on the way are given along, as they say where the new directory is. -/
theorem makeIn_eq_put {t after : FileTree} {place : Place} {last : Option Step}
    (h : t.makeIn place last = .ok after) :
    ∃ name, last = some (.into name) ∧ t.node? place = some .directory ∧
      name.utf8ByteSize ≤ maxNameBytes ∧ t.node? (place ++ [name]) = none ∧
      after = t.put (place ++ [name]) .directory := by
  unfold makeIn at h
  split at h
  · nomatch h
  next hdirectory =>
  split at h
  · next name =>
    split at h
    · nomatch h
    next hname =>
    split at h
    · nomatch h
    next hthere =>
    cases h
    exact ⟨name, rfl, Decidable.not_not.1 hdirectory, Nat.le_of_not_lt hname, by simpa using hthere,
      rfl⟩
  · nomatch h

/-- Below a place that exists, making a directory never fails for a missing one. -/
theorem makeIn_ne_notFound (t : FileTree) (place : Place) (last : Option Step) :
    t.makeIn place last ≠ .error .notFound := by
  unfold makeIn
  split
  · nofun
  · split
    · split
      · nofun
      · split <;> nofun
    · nofun

/-- A directory is made where nothing is, and then the path names it. That the path leads there
afterwards is not obvious, since the way may go through links; but the way to the directory above
has not changed, and from there it is one step. -/
theorem makeDirectory_eq_put {t after : FileTree} {p : Path} (h : t.makeDirectory p = .ok after) :
    ∃ place, t.node? place = none ∧ after = t.put place .directory ∧
      after.resolve p = .ok place := by
  rw [makeDirectory_eq] at h
  split at h
  · nomatch h
  next hnul =>
  split at h
  · nomatch h
  next hempty =>
  split at h
  · nomatch h
  split at h
  · nomatch h
  · nomatch h
  next place hfollow =>
  obtain ⟨name, hlast, hdirectory, hname, hnone, rfl⟩ := makeIn_eq_put h
  obtain ⟨n, hsteps⟩ := eq_append_of_splitLast (Prod.ext rfl hlast)
  refine ⟨place ++ [name], hnone, rfl, ?_⟩
  -- The way to the directory above is still there when the new one is.
  have hpersists := persists_put hnone .directory
  have hmade := node?_put_self (.inl hnone) .directory
  rw [resolve_eq_ok_iff, target_eq_ok_iff, hsteps]
  refine ⟨by simpa using hnul, by simpa using hempty, ?_⟩
  obtain ⟨left, hleft⟩ := follow_append_of_existing (follow_of_persists hpersists hfollow)
    (.into name :: .replicate n .stay)
  rw [hleft, follow_succ, walk_into (directory_of_persists hpersists hdirectory),
    if_neg (Nat.not_lt_of_le hname), hmade]
  dsimp only
  rw [walk_stays hmade]

/-!
## Making all that are missing

The second relation: besides what was there, there are new directories, all of them on the path.
-/

/-- Whether a tree comes from another one by making directories that are on a path. Each new
directory is at the place that one of the ancestors of the path leads to in the tree as it is in the
end. -/
def GainsDirectories (p : Path) (before after : FileTree) : Prop :=
  ∀ q, after.node? q = before.node? q ∨
    before.node? q = none ∧ after.node? q = some .directory ∧
      ∃ n, ∃ above ∈ p.ancestorsFrom n, after.resolve above = .ok q

/-- Gaining directories keeps what is there. -/
theorem persists_of_gainsDirectories {p : Path} {before after : FileTree}
    (h : GainsDirectories p before after) : before.Persists after := by
  intro q node hnode
  rcases h q with hsame | ⟨hnone, -⟩
  · exact .inl (hsame.trans hnode)
  · rw [hnone] at hnode
    nomatch hnode

theorem GainsDirectories.refl (p : Path) (t : FileTree) : GainsDirectories p t t :=
  fun _ => .inl rfl

/-- Directories may be gained one after the other. -/
theorem GainsDirectories.trans {p : Path} {s t u : FileTree} (hst : GainsDirectories p s t)
    (htu : GainsDirectories p t u) : GainsDirectories p s u := by
  intro q
  have hpersists := persists_of_gainsDirectories htu
  rcases hst q with hs | ⟨hs, ht, n, above, hmem, hresolve⟩
  · rcases htu q with hu | ⟨ht, hu⟩
    · exact .inl (hu.trans hs)
    · exact .inr ⟨hs ▸ ht, hu⟩
  · exact .inr ⟨hs, directory_of_persists hpersists ht, n, above, hmem,
      resolve_of_persists hpersists hresolve⟩

/-- Directories on the way to the parent are on the way to the path. The ancestors of the parent are
among those of the path, one step farther up. -/
theorem gainsDirectories_of_parent {p above : Path} (hparent : p.parent = some above)
    {before after : FileTree} (h : GainsDirectories above before after) :
    GainsDirectories p before after := by
  intro q
  rcases h q with hsame | ⟨hnone, hmade, n, higher, hmem, hresolve⟩
  · exact .inl hsame
  · refine .inr ⟨hnone, hmade, n + 1, higher, ?_, hresolve⟩
    unfold Path.ancestorsFrom
    rw [hparent]
    exact List.mem_cons_of_mem _ hmem

/-- Making one directory gains at most this one. -/
theorem gainsDirectories_makeDirectory {t after : FileTree} {p : Path}
    (h : t.makeDirectory p = .ok after) : GainsDirectories p t after := by
  obtain ⟨place, hnone, rfl, hresolve⟩ := makeDirectory_eq_put h
  intro q
  rw [node?_put t (ne_nil_of_writable (.inl hnone))]
  by_cases hq : place = q
  · subst hq
    exact .inr ⟨hnone, if_pos rfl, 0, p, List.mem_singleton_self p, hresolve⟩
  · exact .inl (if_neg hq)

/-- Making a directory with those above it gains directories on the way only. The induction is on
the number of parents that are left. -/
theorem gainsDirectories_makeDirectoriesFrom (depth : Nat) (t : FileTree) (p : Path) :
    GainsDirectories p t (makeDirectoriesFrom depth t p).1 := by
  induction depth generalizing t p with
  | zero => exact .refl p t
  | succ depth ih =>
    unfold makeDirectoriesFrom
    split
    · next after hmade => exact gainsDirectories_makeDirectory hmade
    · split
      · exact .refl p t
      · next above hparent =>
        have habove := gainsDirectories_of_parent hparent (ih t above)
        split
        · next reached problem hreached =>
          rw [hreached] at habove
          exact habove
        · next reached hreached =>
          rw [hreached] at habove
          split
          · next after hmade => exact habove.trans (gainsDirectories_makeDirectory hmade)
          · exact habove
    · exact .refl p t

theorem gainsDirectories_makeDirectories (t : FileTree) (p : Path) :
    GainsDirectories p t (t.makeDirectories p).1 :=
  gainsDirectories_makeDirectoriesFrom (p.written.length + 2) t p

/-! ## In a directory that exists -/

section Join

variable {t : FileTree} {root : Path} {place : Place} {name : String}

/-- The steps of a path in a directory up to the last one lead to the directory. The empty part that
a slash at the end of the directory leaves is a step that stays, so it does not matter whether
joining has dropped it. -/
theorem follow_front_of_join {front : List Step}
    (hroot : t.resolve root = .ok place)
    (hfront : root.steps = front ∨ root.steps = front ++ [.stay]) :
    t.follow (maxLinks + 1) [] front = .ok (.existing place) := by
  have hfollow := (target_eq_ok_iff.1 (resolve_eq_ok_iff.1 hroot)).2.2
  rcases hfront with hsteps | hsteps
  · rwa [hsteps] at hfollow
  · rw [hsteps] at hfollow
    rcases follow_append hfollow with ⟨here, left, hhere, hstay⟩ | ⟨_, _, -, hvacant⟩
    · have hdirectory := node?_of_follow_cons hstay
      cases left with
      | zero => nomatch hstay
      | succ left =>
        rw [follow_succ, walk_stay hdirectory] at hstay
        cases hstay
        exact hhere
    · nomatch hvacant

theorem text_join_ne_empty (hname : (⟨name⟩ : Path).steps = [.into name])
    (hrelative : (⟨name⟩ : Path).isAbsolute = false) : (root.join ⟨name⟩).text ≠ "" := by
  intro hempty
  obtain ⟨front, hsteps, -⟩ := Path.steps_join root hrelative
  have hstay : (root.join ⟨name⟩).steps = [.stay] := by
    generalize root.join ⟨name⟩ = p at hempty
    obtain ⟨text⟩ := p
    cases hempty
    rfl
  rw [hname, hstay] at hsteps
  have hlast := congrArg List.getLast? hsteps
  simp at hlast

/-- To make a directory below one that exists, only the last name is looked at. -/
theorem makeDirectory_join (hroot : t.resolve root = .ok place)
    (hrelative : (⟨name⟩ : Path).isAbsolute = false)
    (hname : (⟨name⟩ : Path).steps = [.into name]) :
    t.makeDirectory (root.join ⟨name⟩) =
      if (root.join ⟨name⟩).hasNul then .error .nulInName
      else if Path.maxBytes < (root.join ⟨name⟩).text.utf8ByteSize then .error .nameTooLong
      else t.makeIn place (some (.into name)) := by
  obtain ⟨front, hsteps, hfront⟩ := Path.steps_join root hrelative
  rw [hname] at hsteps
  have hempty : (root.join ⟨name⟩).text.isEmpty = false := by
    simpa using text_join_ne_empty hname hrelative
  rw [makeDirectory_eq, hsteps, splitLast_append_into, follow_front_of_join hroot hfront, hempty]
  rfl

/-- In a directory that exists nothing is made but the one that is named. The recursion over the
parents ends at once, because the parent is there: it is entered only after a failure for a missing
directory (`makeIn_ne_notFound`). -/
theorem node?_of_makeDirectories_join (hroot : t.resolve root = .ok place)
    (hrelative : (⟨name⟩ : Path).isAbsolute = false)
    (hname : (⟨name⟩ : Path).steps = [.into name]) (q : Place) :
    (t.makeDirectories (root.join ⟨name⟩)).1.node? q = t.node? q ∨
      q = place ++ [name] ∧ t.node? q = none ∧
        (t.makeDirectories (root.join ⟨name⟩)).1.node? q = some .directory := by
  have hmake := makeDirectory_join hroot hrelative hname
  unfold makeDirectories makeDirectoriesFrom
  split
  · next after hafter =>
    rw [hmake] at hafter
    split at hafter
    · nomatch hafter
    split at hafter
    · nomatch hafter
    obtain ⟨_, ⟨⟩, -, -, hnone, rfl⟩ := makeIn_eq_put hafter
    rw [node?_put t (ne_nil_of_writable (.inl hnone))]
    by_cases hq : place ++ [name] = q
    · subst hq
      exact .inr ⟨rfl, hnone, if_pos rfl⟩
    · exact .inl (if_neg hq)
  · -- The parent exists, so making the directory never asks for it to be made.
    next hmissing =>
    rw [hmake] at hmissing
    split at hmissing
    · nomatch hmissing
    split at hmissing
    · nomatch hmissing
    exact (makeIn_ne_notFound _ _ _ hmissing).elim
  · exact .inl rfl

end Join

end MailTemplates.FileTree
