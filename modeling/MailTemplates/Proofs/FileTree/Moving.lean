import Mathlib.Data.List.Induction
import MailTemplates.Proofs.FileTree.Canonical
/-!
# Steps that move

A step that stays asks only that there is a directory. So without some of these a walk gets as far
as with them (`follow_of_thins`), and what a path names is found along its parts alone. If the parts
of one path are those of another and then some more, the first leads on from where the second leads
(`follow_behind`). That is how a path is related to its ancestors, the parts of which are the first
ones of its own (`Path.parts_prefix_of_mem_ancestors`).

The place that a path names is reached by its own names too, with no link on the way
(`reached_of_resolve`), and so are all places above it. So the canonical path of a file leads to the
same text (`readText_canonical`), and a path names one file from two paths to the same directory
(`canonical_join_unique`).

The two halves of the module meet in the last results:

1. Thinning. A step that stays can be left out, as it is only a check that the walk is in a
   directory, and the next step makes the same check. The converse fails, so the lemmas go one way:
   from the longer walk to the shorter one.
2. Reaching. A walk from a place that is reached by its names leads to such places
   (`reached_of_walk`). Stepping up keeps this because the places above are reached too
   (`Reached.of_prefix`), and a link only restarts the walk, at the root or in a directory that was
   reached.

Together they say that the names of the place that a path leads to lead there as well, whatever idle
steps and links the path had.
-/

namespace MailTemplates

/-- Whether steps are other steps without some of those that stay. -/
inductive Thins : List Step → List Step → Prop where
  | nil : Thins [] []
  | keep (step : Step) {steps fewer : List Step} (h : Thins steps fewer) :
      Thins (step :: steps) (step :: fewer)
  | drop {steps fewer : List Step} (h : Thins steps fewer) : Thins (.stay :: steps) fewer

namespace Thins

/-- Steps can be thinned behind a common front. -/
theorem append_left {steps fewer : List Step} (h : Thins steps fewer) (front : List Step) :
    Thins (front ++ steps) (front ++ fewer) := by
  induction front with
  | nil => exact h
  | cons step front ih => exact .keep step ih

end Thins

namespace Path

/-- The steps that the parts of a path stand for. -/
def moves (p : Path) : List Step := p.parts.map stepOf

/-- The moves of a path are its steps without the idle ones. -/
theorem thins_moves (p : Path) : Thins p.steps p.moves := by
  unfold moves parts
  rw [steps_eq]
  induction p.written with
  | nil => exact .nil
  | cons part rest ih =>
    cases hidle : idle part with
    | true =>
      rw [List.filter_cons_of_neg (by simp [hidle]), List.map_cons, stepOf, hidle, if_pos rfl]
      exact .drop ih
    | false =>
      rw [List.filter_cons_of_pos (by simp [hidle])]
      exact .keep _ ih

/-- The moves of the path of a place are the steps down to it. -/
theorem moves_path {place : Place} (h : place.Proper) : place.path.moves = place.map .into := by
  unfold moves
  rw [parts_path h, List.map_map]
  exact List.map_congr_left fun name hname => (h name hname).2

/-- A relative path does not start with an empty part. -/
theorem head?_written_ne_of_relative {p : Path} (h : p.isAbsolute = false) (hp : p.text ≠ "") :
    p.written.head? ≠ some [] := by
  rw [written_of_not_isAbsolute h]
  obtain ⟨c, cs, htext⟩ := List.exists_cons_of_ne_nil
    fun hnil : p.text.toList = [] => hp (String.toList_eq_nil_iff.1 hnil)
  have hc : c ≠ '/' := by simpa [isAbsolute, htext] using h
  obtain ⟨part, parts, -, hsplit⟩ := Text.splitAt_cons_of_ne hc cs
  rw [htext, hsplit, List.head?_cons]
  exact fun hnil => List.cons_ne_nil _ _ (Option.some.inj hnil)

/-- A path that is put together has the parts that it is put together from. -/
theorem parts_ofWritten {absolute : Bool} {parts : List (List Char)}
    (hslash : ∀ part ∈ parts, '/' ∉ part) (hfirst : absolute = false → parts.head? ≠ some []) :
    (ofWritten absolute parts).parts = parts.filter fun part => !idle part := by
  cases parts with
  | nil => cases absolute <;> decide +kernel
  | cons first rest =>
    have hsplit : Text.splitAt '/' (['/'].intercalate (first :: rest)) = first :: rest :=
      Text.splitAt_intercalate (List.cons_ne_nil _ _) hslash
    have hbody : (ofWritten absolute (first :: rest)).body = ['/'].intercalate (first :: rest) := by
      cases absolute with
      | true => simp [body, isAbsolute, ofWritten]
      | false =>
        obtain ⟨c, cs, rfl⟩ := List.exists_cons_of_ne_nil fun hnil : first = [] =>
          hfirst rfl (by rw [hnil]; rfl)
        have hc : c ≠ '/' := by
          rintro rfl
          exact hslash _ List.mem_cons_self List.mem_cons_self
        cases rest <;> simp [body, isAbsolute, ofWritten, List.intercalate_cons_cons, hc]
    rw [Path.parts, written_eq, hbody, hsplit]

/-- What is left at the end is not idle. -/
theorem idle_of_dropIdleEnd {parts front : List (List Char)} {last : List Char}
    (h : dropIdleEnd parts = front ++ [last]) : idle last = false := by
  have hdrop : parts.reverse.dropWhile idle = last :: front.reverse := by
    rw [← List.reverse_inj, List.reverse_cons, List.reverse_reverse]
    exact h
  have hhead := List.head?_dropWhile_not idle parts.reverse
  rw [hdrop] at hhead
  exact hhead

/-- And it is absolute if it was asked to be. -/
theorem isAbsolute_ofWritten {absolute : Bool} {parts : List (List Char)}
    (hslash : ∀ part ∈ parts, '/' ∉ part) (hfirst : absolute = false → parts.head? ≠ some []) :
    (ofWritten absolute parts).isAbsolute = absolute := by
  cases absolute with
  | true => simp [isAbsolute, ofWritten]
  | false =>
    cases parts with
    | nil => decide +kernel
    | cons first rest =>
      obtain ⟨c, cs, rfl⟩ := List.exists_cons_of_ne_nil fun hnil : first = [] =>
        hfirst rfl (by rw [hnil]; rfl)
      have hc : c ≠ '/' := by
        rintro rfl
        exact hslash _ List.mem_cons_self List.mem_cons_self
      cases rest <;> simp [isAbsolute, ofWritten, List.intercalate_cons_cons, hc]

/-- The parent of a path is written up to the last part that leads somewhere, without the idle ones
in front of that. -/
theorem exists_written_of_parent {p dir : Path} (h : p.parent = some dir) :
    ∃ front idles last tail, p.written = front ++ (idles ++ last :: tail) ∧
      dir = ofWritten p.isAbsolute front ∧ (∀ part ∈ idles, idle part = true) ∧
      idle last = false ∧ (∀ part ∈ tail, idle part = true) ∧ (∀ part ∈ front, '/' ∉ part) ∧
      (p.isAbsolute = false → front.head? ≠ some []) := by
  unfold parent at h
  split at h
  · nomatch h
  next hnamed =>
  cases h
  -- Idle parts are dropped at the end, then the last part, then the idle ones before it.
  obtain ⟨tail, hwritten, htail⟩ := eq_dropIdleEnd_append p.written
  obtain ⟨init, last, hlast⟩ := (List.eq_nil_or_concat (dropIdleEnd p.written)).resolve_left hnamed
  rw [List.concat_eq_append] at hlast
  obtain ⟨idles, hinit, hidles⟩ := eq_dropIdleEnd_append init
  have hall : p.written = dropIdleEnd init ++ (idles ++ last :: tail) := by
    rw [hwritten, hlast]
    conv_lhs => rw [hinit]
    simp only [List.append_assoc, List.singleton_append]
  refine ⟨dropIdleEnd init, idles, last, tail, hall, ?_, hidles, idle_of_dropIdleEnd hlast, htail,
    ?_, ?_⟩
  · rw [hlast, List.dropLast_concat]
  · intro part hpart
    have hmem : part ∈ p.written := hall ▸ List.mem_append_left _ hpart
    rw [written_eq] at hmem
    exact Text.not_mem_of_mem_splitAt hmem
  · intro hrelative hhead
    have htext : p.text ≠ "" := by
      intro hempty
      rw [written_of_not_isAbsolute hrelative, hempty] at hlast
      exact List.concat_ne_nil last init hlast.symm
    refine head?_written_ne_of_relative hrelative htext ?_
    rw [hall, List.head?_append, hhead]
    rfl

/-- A parent is absolute if the path is. -/
theorem isAbsolute_of_parent {p dir : Path} (h : p.parent = some dir) :
    dir.isAbsolute = p.isAbsolute := by
  obtain ⟨front, idles, last, tail, -, rfl, -, -, -, hslash, hfirst⟩ := exists_written_of_parent h
  exact isAbsolute_ofWritten hslash hfirst

/-- A path has one part more than its parent. -/
theorem parts_of_parent {p dir : Path} (h : p.parent = some dir) :
    ∃ last, p.parts = dir.parts ++ [last] := by
  obtain ⟨front, idles, last, tail, hall, rfl, hidles, hlast, htail, hslash, hfirst⟩ :=
    exists_written_of_parent h
  have hnone : ∀ parts : List (List Char), (∀ part ∈ parts, idle part = true) →
      parts.filter (fun part => !idle part) = [] := fun parts hparts =>
    List.filter_eq_nil_iff.2 fun part hpart => by simp [hparts part hpart]
  refine ⟨last, ?_⟩
  rw [parts_ofWritten hslash hfirst, Path.parts, hall, List.filter_append, List.filter_append,
    hnone idles hidles, List.nil_append, List.filter_cons_of_pos (by simp [hlast]),
    hnone tail htail]

/-- A path without a parent has no parts. -/
theorem parts_eq_nil_of_parent_eq_none {p : Path} (h : p.parent = none) : p.parts = [] := by
  unfold parent at h
  split at h
  · next hnil =>
    obtain ⟨tail, hwritten, hidle⟩ := eq_dropIdleEnd_append p.written
    rw [hnil, List.nil_append] at hwritten
    rw [parts, hwritten, List.filter_eq_nil_iff]
    intro part hpart
    simp [hidle part hpart]
  · nomatch h

/-- The parts of a parent are the first of the path. -/
theorem parts_prefix_of_parent {p dir : Path} (h : p.parent = some dir) :
    dir.parts <+: p.parts := by
  obtain ⟨last, hlast⟩ := parts_of_parent h
  exact ⟨[last], hlast.symm⟩

/-- So are the parts of every ancestor. -/
theorem parts_prefix_of_mem_ancestors {p above : Path} (h : above ∈ p.ancestors) :
    above.parts <+: p.parts := by
  unfold ancestors at h
  generalize p.written.length = depth at h
  induction depth generalizing p with
  | zero =>
    obtain rfl := List.mem_singleton.1 h
    exact List.prefix_rfl
  | succ depth ih =>
    rw [ancestorsFrom] at h
    split at h
    · next dir hparent =>
      rcases List.mem_cons.1 h with rfl | hrest
      · exact List.prefix_rfl
      · exact (ih hrest).trans (parts_prefix_of_parent hparent)
    · obtain rfl := List.mem_singleton.1 h
      exact List.prefix_rfl

end Path

namespace FileTree

variable {t : FileTree}

/-!
## Walks without the steps that stay

A walk that has some steps that stay left out gets as far, and stops at the same link if there is
one.
-/

/-- Idle steps do not change where a walk arrives, nor the link at which it stops. -/
theorem walk_of_thins {here : Place} {steps fewer : List Step} (h : Thins steps fewer) :
    (∀ place, t.walk here steps = .arrived place → t.walk here fewer = .arrived place) ∧
      ∀ directory target rest, t.walk here steps = .atLink directory target rest →
        ∃ rest', t.walk here fewer = .atLink directory target rest' ∧ Thins rest rest' := by
  induction h generalizing here with
  | nil => exact ⟨fun _ h => h, nofun⟩
  -- A step that is kept is taken by both; the walks go on alike.
  | @keep step steps fewer hthins ih =>
    by_cases hdirectory : t.node? here = some .directory
    · cases step with
      | stay =>
        rw [walk_stay hdirectory, walk_stay hdirectory]
        exact ih
      | up =>
        rw [walk_up hdirectory, walk_up hdirectory]
        exact ih
      | into name =>
        rw [walk_into hdirectory, walk_into hdirectory]
        split
        · exact ⟨nofun, nofun⟩
        · split
          · exact ⟨nofun, nofun⟩
          · refine ⟨nofun, ?_⟩
            rintro directory target rest ⟨⟩
            exact ⟨_, rfl, hthins⟩
          · exact ih
    · rw [walk_cons_of_not_directory hdirectory]
      exact ⟨nofun, nofun⟩
  -- A step that is dropped stays where it is, in a directory.
  | drop hthins ih =>
    by_cases hdirectory : t.node? here = some .directory
    · rw [walk_stay hdirectory]
      exact ih
    · rw [walk_cons_of_not_directory hdirectory]
      exact ⟨nofun, nofun⟩

/-- Nor do they change what is reached behind links. -/
theorem follow_of_thins {links : Nat} {here place : Place} {steps fewer : List Step}
    (h : t.follow links here steps = .ok (.existing place)) (hthins : Thins steps fewer) :
    t.follow links here fewer = .ok (.existing place) := by
  induction links generalizing here steps fewer with
  | zero => nomatch h
  | succ links ih =>
    obtain ⟨harrived, hlink⟩ := @walk_of_thins t here steps fewer hthins
    rw [follow_succ] at h ⊢
    cases hwalk : t.walk here steps with
    | arrived q =>
      rw [hwalk] at h
      rw [harrived q hwalk]
      exact h
    | vacant q rest =>
      rw [hwalk] at h
      nomatch h
    | failed problem =>
      rw [hwalk] at h
      nomatch h
    | atLink directory target rest =>
      -- The steps of the link are the same, and behind it there are fewer.
      rw [hwalk] at h
      obtain ⟨rest', hwalk', hrest⟩ := hlink directory target rest hwalk
      rw [hwalk']
      exact ih h (hrest.append_left target.steps)

/-- A path can be resolved by its moves. -/
theorem follow_moves {p : Path} {place : Place} (h : t.resolve p = .ok place) :
    t.follow (maxLinks + 1) [] p.moves = .ok (.existing place) :=
  follow_of_thins (target_eq_ok_iff.1 (resolve_eq_ok_iff.1 h)).2.2 p.thins_moves

/-- A path that has the parts of another one and then some more leads on from there. -/
theorem follow_behind {base p : Path} {here place : Place} (hbase : t.resolve base = .ok here)
    (hp : t.resolve p = .ok place) {behind : List (List Char)}
    (hparts : p.parts = base.parts ++ behind) :
    ∃ left, t.follow left here (behind.map Path.stepOf) = .ok (.existing place) := by
  have hall := follow_moves hp
  unfold Path.moves at hall
  rw [hparts, List.map_append] at hall
  rcases follow_append hall with ⟨reached, left, hreached, hmore⟩ | ⟨_, _, -, hvacant⟩
  · cases hreached.symm.trans (follow_moves hbase)
    exact ⟨left, hmore⟩
  · nomatch hvacant

/-!
## The names of a place

A place may be reached by many paths. One of them consists of its own names, and has no link on it.
-/

/-- Whether the names of a place lead to it from the root, with no link on the way. -/
def Reached (t : FileTree) (place : Place) : Prop := t.walk [] (place.map .into) = .arrived place

/-- The places above one that is reached are reached. -/
theorem Reached.of_prefix {place above : Place} (h : t.Reached place) (habove : above <+: place) :
    t.Reached above := by
  obtain ⟨below, rfl⟩ := habove
  induction below using List.reverseRecOn with
  | nil => rwa [List.append_nil] at h
  | append_singleton below name ih =>
    apply ih
    unfold Reached at h
    rw [← List.append_assoc, List.map_append, walk_append] at h
    -- The last step is into a name, so the walk comes through the directory of that.
    cases hwalk : t.walk [] ((above ++ below).map .into) with
    | arrived here =>
      rw [hwalk] at h
      change t.walk here [.into name] = _ at h
      by_cases hdirectory : t.node? here = some .directory
      · rw [walk_into hdirectory] at h
        split at h
        · nomatch h
        · split at h
          · nomatch h
          · nomatch h
          · have hlast := Progress.arrived.inj h
            rw [(List.append_inj' hlast rfl).1] at hwalk
            exact hwalk
      · rw [walk_cons_of_not_directory hdirectory] at h
        nomatch h
    | vacant here rest =>
      rw [hwalk] at h
      nomatch h
    | failed problem =>
      rw [hwalk] at h
      nomatch h
    | atLink directory target rest =>
      rw [hwalk] at h
      nomatch h

/-- One more step down reaches what is there, if it is no link. -/
theorem Reached.into {here : Place} {name : String} (h : t.Reached here)
    (hdirectory : t.node? here = some .directory) (hsize : ¬maxNameBytes < name.utf8ByteSize)
    {node : Node} (hnode : t.node? (here ++ [name]) = some node)
    (hlink : ∀ target, node ≠ .link target) : t.Reached (here ++ [name]) := by
  unfold Reached at h ⊢
  rw [List.map_append, walk_append, h]
  show t.walk here [.into name] = _
  rw [walk_into hdirectory, if_neg hsize, hnode]
  cases node with
  | link target => exact absurd rfl (hlink target)
  | file content executable => rfl
  | directory => rfl

/-- A walk from a place that is reached leads to such places, up to the link at which it stops. -/
theorem reached_of_walk {here : Place} {steps : List Step} (hhere : t.Reached here) :
    (∀ place, t.walk here steps = .arrived place → t.Reached place) ∧
      ∀ directory target rest, t.walk here steps = .atLink directory target rest →
        t.Reached directory := by
  induction steps generalizing here with
  | nil =>
    refine ⟨?_, nofun⟩
    rintro place ⟨⟩
    exact hhere
  -- Up leads to a place above, and down to one that is reached by one more step.
  | cons step rest ih =>
    by_cases hdirectory : t.node? here = some .directory
    · cases step with
      | stay =>
        rw [walk_stay hdirectory]
        exact ih hhere
      | up =>
        rw [walk_up hdirectory]
        exact ih (hhere.of_prefix (List.dropLast_prefix here))
      | into name =>
        rw [walk_into hdirectory]
        split
        · exact ⟨nofun, nofun⟩
        · next hsize =>
          split
          · exact ⟨nofun, nofun⟩
          · refine ⟨nofun, ?_⟩
            rintro directory target more ⟨⟩
            exact hhere
          · next node hlink hnode =>
            exact ih (hhere.into hdirectory hsize hnode fun target h => hlink target (h ▸ rfl))
    · rw [walk_cons_of_not_directory hdirectory]
      exact ⟨nofun, nofun⟩

/-- Behind links, too. The induction is on their number. -/
theorem reached_of_follow {links : Nat} {here place : Place} {steps : List Step}
    (h : t.follow links here steps = .ok (.existing place)) (hhere : t.Reached here) :
    t.Reached place := by
  induction links generalizing here steps with
  | zero => nomatch h
  | succ links ih =>
    obtain ⟨harrived, hlink⟩ := @reached_of_walk t here steps hhere
    rw [follow_succ] at h
    cases hwalk : t.walk here steps with
    | arrived q =>
      rw [hwalk] at h
      cases h
      exact harrived _ hwalk
    | vacant q rest =>
      rw [hwalk] at h
      nomatch h
    | failed problem =>
      rw [hwalk] at h
      nomatch h
    | atLink directory target rest =>
      rw [hwalk] at h
      -- Behind a link the walk starts at the root or in the directory of the link.
      refine ih h ?_
      split
      · rfl
      · exact hlink _ _ _ hwalk

/-- Every place that a path resolves to can be reached without links. -/
theorem reached_of_resolve {p : Path} {place : Place} (h : t.resolve p = .ok place) :
    t.Reached place :=
  reached_of_follow (target_eq_ok_iff.1 (resolve_eq_ok_iff.1 h)).2.2 rfl

/-- A path with the names of a place as its parts leads there if these names do. -/
theorem eq_of_reached {p : Path} {place here : Place} (hplace : t.Reached place)
    (hmoves : p.moves = place.map .into) (h : t.resolve p = .ok here) : here = place := by
  have hfollow := follow_moves h
  rw [hmoves, follow_succ, hplace] at hfollow
  cases hfollow
  rfl

/-- The canonical path of a place that is named leads nowhere else. -/
theorem eq_of_resolve_path {p : Path} {place here : Place} (hplace : t.resolve p = .ok place)
    (h : t.resolve place.path = .ok here) : here = place :=
  eq_of_reached (reached_of_resolve hplace) (Path.moves_path (proper_of_resolve hplace)) h

/-- The file that a path leads to reads the same by its canonical path. -/
theorem readText_canonical {p file : Path} {content other : String}
    (hfile : t.canonical p = .ok file) (h : t.readText p = .ok content)
    (hother : t.readText file = .ok other) : other = content := by
  obtain ⟨place, hplace, rfl⟩ := map_eq_ok_iff.1 hfile
  obtain ⟨named, bytes, hnamed, ⟨executable, hnode⟩, htext⟩ := exists_bytes_of_readText h
  obtain ⟨here, bytes', hhere, ⟨executable', hnode'⟩, htext'⟩ := exists_bytes_of_readText hother
  cases hnamed.symm.trans hplace
  obtain rfl := eq_of_resolve_path hplace hhere
  cases hnode.symm.trans hnode'
  exact Option.some.inj (htext'.symm.trans htext)

/-- From directories that are the same, whatever their paths are, a path leads to the same place. -/
theorem canonical_join_unique {first second q file other : Path} {here : Place}
    (hfirst : t.resolve first = .ok here) (hsecond : ∀ p, t.resolve second = .ok p → p = here)
    (hne : second.text ≠ "") (hfile : t.canonical (first.join q) = .ok file)
    (hother : t.canonical (second.join q) = .ok other) : file = other := by
  cases hq : q.isAbsolute with
  | true =>
    rw [Path.join_of_isAbsolute hq] at hfile hother
    exact Except.ok.inj (hfile.symm.trans hother)
  | false =>
    obtain ⟨place, hplace, rfl⟩ := map_eq_ok_iff.1 hfile
    obtain ⟨place', hplace', rfl⟩ := map_eq_ok_iff.1 hother
    have hfirstNe : first.text ≠ "" := (target_eq_ok_iff.1 (resolve_eq_ok_iff.1 hfirst)).2.1
    obtain ⟨start, left, hstart, hfollow⟩ := Path.follow_of_resolve_join hplace hq hfirstNe
    obtain ⟨start', left', hstart', hfollow'⟩ := Path.follow_of_resolve_join hplace' hq hne
    cases hstart.symm.trans hfirst
    obtain rfl := hsecond start' hstart'
    cases follow_unique hfollow hfollow'
    rfl

end FileTree

end MailTemplates
