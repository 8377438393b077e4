import MailTemplates.Proofs.Fallible
import MailTemplates.Proofs.FileTree.Leading
import MailTemplates.Proofs.FileTree.Parents
/-!
# Trees without links

Without links a path can be read off its steps: it passes through places that the steps alone
determine (`Place.through`), and the last of them is what it names. So two trees that have the same
at these places (`SameAlong`) cannot be told apart by the path: resolving it and reading the file
there give the same, and the same problem if there is one (`readText_of_sameAlong`).

What is the same along a path is the same along its canonical form (`sameAlong_of_canonical`) and
along its parent (`sameAlong_of_parent`). Two trees that have directories at the same places
(`SameDirectories`) agree on what a path names as soon as they have the same under its last name
(`resolve_of_last`): what it passes through on the way is a directory, or the path names nothing.

A walk looks at the place where it is and at the one that it steps into, and both are on the way
that `Place.through` lists. So trees with the same nodes there are walked alike (`walk_congr`), and
without links a walk is all there is to following a path.

The canonical path of what is found has the names of that place as its steps (`Path.steps_path`). So
it passes through the places above, and the steps have passed through these too, unless they are
above the start (`Place.mem_through_of_prefix`).

For trees with the same directories the induction is on the steps in front of the last name
(`walk_of_last`): each of them is taken from a directory, and behind it there is one again.
-/

namespace MailTemplates

/-!
## The places on the way

Without links the steps alone tell where a path goes, and these are all places that it comes
through.
-/

namespace Place

/-- The places that steps pass through without links, the first and the last one among them. -/
def through : Place → List Step → List Place
  | here, [] => [here]
  | here, step :: rest => here :: through (here.after [step]) rest

theorem after_cons (here : Place) (step : Step) (rest : List Step) :
    here.after (step :: rest) = (here.after [step]).after rest := by
  cases step <;> rfl

theorem mem_through_self (here : Place) (steps : List Step) : here ∈ here.through steps := by
  cases steps <;> exact List.mem_cons_self

/-- The end of a way is on it. -/
theorem after_mem_through (here : Place) (steps : List Step) :
    here.after steps ∈ here.through steps := by
  induction steps generalizing here with
  | nil => exact List.mem_singleton_self here
  | cons step rest ih =>
    rw [after_cons]
    exact List.mem_cons_of_mem _ (ih _)

/-- A longer way has all that a shorter one has. -/
theorem through_subset_append (here : Place) (steps more : List Step) :
    here.through steps ⊆ here.through (steps ++ more) := by
  induction steps generalizing here with
  | nil => exact List.cons_subset.2 ⟨mem_through_self here more, List.nil_subset _⟩
  | cons step rest ih => exact List.cons_subset_cons _ (ih _)

/-- What leads to the place where steps end leads to where they start, or they pass through it. The
way to a place need not come through all places above it, as it may start below some of them; but it
misses no other. -/
theorem mem_through_of_prefix {here q : Place} {steps : List Step}
    (h : q <+: here.after steps) : q <+: here ∨ q ∈ here.through steps := by
  -- Going up and down again only ever adds a name to a place that was passed.
  induction steps generalizing here with
  | nil => exact .inl h
  | cons step rest ih =>
    rw [after_cons] at h
    rcases ih h with hlead | hmem
    · cases step with
      | stay => exact .inl hlead
      | up => exact .inl (hlead.trans (List.dropLast_prefix here))
      | into name =>
        rcases List.prefix_concat_iff.1 hlead with rfl | hhere
        · exact .inr (List.mem_cons_of_mem _ (mem_through_self _ rest))
        · exact .inl hhere
    · exact .inr (List.mem_cons_of_mem _ hmem)

/-- Steps into names pass through what leads to the last of them. -/
theorem prefix_of_mem_through_into {here q : Place} {names : List String}
    (h : q ∈ here.through (names.map .into)) : q <+: here ++ names := by
  induction names generalizing here with
  | nil =>
    obtain rfl := List.mem_singleton.1 h
    exact List.prefix_append q []
  | cons name names ih =>
    rcases List.mem_cons.1 h with rfl | hrest
    · exact List.prefix_append _ _
    · rw [List.append_cons]
      exact ih hrest

/-- The names of the place where steps end are those of its start and those that are stepped
into. -/
theorem into_of_mem_after {here : Place} {steps : List Step} {name : String}
    (h : name ∈ here.after steps) : name ∈ here ∨ .into name ∈ steps := by
  induction steps generalizing here with
  | nil => exact .inl h
  | cons step rest ih =>
    rw [after_cons] at h
    rcases ih h with hhere | hrest
    · cases step with
      | stay => exact .inl hhere
      | up => exact .inl ((List.dropLast_prefix here).subset hhere)
      | into other =>
        rcases List.mem_append.1 hhere with hmem | hlast
        · exact .inl hmem
        · obtain rfl := List.mem_singleton.1 hlast
          exact .inr List.mem_cons_self
    · exact .inr (List.mem_cons_of_mem _ hrest)

end Place

/-!
## The canonical path of a place

The path of a place is written with a slash in front of each name; cutting it at its slashes gives
the names back, as none of them holds one.
-/

namespace Text

/-- No part holds the separator. -/
theorem not_mem_of_mem_splitAt {sep : Char} {cs part : List Char} (h : part ∈ splitAt sep cs) :
    sep ∉ part := by
  induction cs generalizing part with
  | nil =>
    obtain rfl := List.mem_singleton.1 h
    exact List.not_mem_nil
  | cons c cs ih =>
    by_cases hc : c = sep
    · subst hc
      rw [splitAt_cons_self] at h
      rcases List.mem_cons.1 h with rfl | hrest
      · exact List.not_mem_nil
      · exact ih hrest
    · obtain ⟨first, parts, hcs, hcons⟩ := splitAt_cons_of_ne hc cs
      rw [hcons] at h
      rw [hcs] at ih
      rcases List.mem_cons.1 h with rfl | hrest
      · rw [List.mem_cons, not_or]
        exact ⟨Ne.symm hc, ih List.mem_cons_self⟩
      · exact ih (List.mem_cons_of_mem _ hrest)

/-- The characters of a part are those of the text. -/
theorem mem_of_mem_splitAt {sep c : Char} {cs part : List Char} (hpart : part ∈ splitAt sep cs)
    (hc : c ∈ part) : c ∈ cs := by
  induction cs generalizing part with
  | nil =>
    obtain rfl := List.mem_singleton.1 hpart
    exact hc
  | cons d cs ih =>
    by_cases hd : d = sep
    · subst hd
      rw [splitAt_cons_self] at hpart
      rcases List.mem_cons.1 hpart with rfl | hrest
      · nomatch hc
      · exact List.mem_cons_of_mem _ (ih hrest hc)
    · obtain ⟨first, parts, hcs, hcons⟩ := splitAt_cons_of_ne hd cs
      rw [hcons] at hpart
      rw [hcs] at ih
      rcases List.mem_cons.1 hpart with rfl | hrest
      · rcases List.mem_cons.1 hc with rfl | hc
        · exact List.mem_cons_self
        · exact List.mem_cons_of_mem _ (ih List.mem_cons_self hc)
      · exact List.mem_cons_of_mem _ (ih (List.mem_cons_of_mem _ hrest) hc)

/-- Splitting what was joined gives the parts, if none holds the separator. The other order, joining
what was cut, always gives the text back. -/
theorem splitAt_intercalate {sep : Char} {parts : List (List Char)} (hparts : parts ≠ [])
    (h : ∀ part ∈ parts, sep ∉ part) : splitAt sep ([sep].intercalate parts) = parts := by
  induction parts with
  | nil => exact absurd rfl hparts
  | cons part rest ih =>
    rw [List.forall_mem_cons] at h
    cases rest with
    | nil =>
      rw [List.intercalate_singleton]
      exact splitAt_of_not_mem h.1
    | cons next rest =>
      rw [List.intercalate_cons_cons, List.append_assoc, List.singleton_append,
        splitAt_append_cons, splitAt_of_not_mem h.1, ih (List.cons_ne_nil next rest) h.2]
      rfl

/-- The parts of a text are the only ones that make it up and do not hold the separator. -/
theorem splitAt_eq_iff {sep : Char} {cs : List Char} {parts : List (List Char)} :
    splitAt sep cs = parts ↔
      parts ≠ [] ∧ (∀ part ∈ parts, sep ∉ part) ∧ cs = [sep].intercalate parts := by
  constructor
  · rintro rfl
    exact ⟨splitAt_ne_nil sep cs, fun _ => not_mem_of_mem_splitAt,
      (intercalate_splitAt sep cs).symm⟩
  · rintro ⟨hparts, hsep, rfl⟩
    exact splitAt_intercalate hparts hsep

/-- The parts of a text have a property that keeps the separator out if and only if the text is made
up of such parts. -/
theorem forall_mem_splitAt_iff {sep : Char} {cs : List Char} {p : List Char → Prop}
    (hsep : ∀ part, p part → sep ∉ part) :
    (∀ part ∈ splitAt sep cs, p part) ↔
      ∃ parts, parts ≠ [] ∧ (∀ part ∈ parts, p part) ∧ cs = [sep].intercalate parts := by
  constructor
  · intro h
    exact ⟨_, splitAt_ne_nil sep cs, h, (intercalate_splitAt sep cs).symm⟩
  · rintro ⟨parts, hne, hparts, hcs⟩
    rwa [splitAt_eq_iff.2 ⟨hne, fun part hpart => hsep part (hparts part hpart), hcs⟩]

end Text

namespace Path

/-- The names in the steps of a path have no slash, and are steps by themselves. -/
theorem proper_of_into_mem_steps {p : Path} {name : String} (h : .into name ∈ p.steps) :
    '/' ∉ name.toList ∧ stepOf name.toList = .into name := by
  rw [steps_eq, written_eq] at h
  obtain ⟨part, hpart, hstep⟩ := List.mem_map.1 h
  obtain rfl : name = String.ofList part := by
    unfold stepOf at hstep
    split at hstep
    · nomatch hstep
    · split at hstep
      · nomatch hstep
      · exact (Step.into.inj hstep).symm
  rw [String.toList_ofList]
  exact ⟨Text.not_mem_of_mem_splitAt hpart, hstep⟩

/-- The path of a place is a slash and its names with slashes between them. -/
theorem toList_path (place : Place) :
    place.path.text.toList = '/' :: ['/'].intercalate (place.map String.toList) := by
  rw [Place.path, String.toList_append, String.toList_intercalate]
  rfl

theorem isAbsolute_path (place : Place) : place.path.isAbsolute = true := by
  rw [isAbsolute, toList_path]
  rfl

theorem body_path (place : Place) :
    place.path.body = ['/'].intercalate (place.map String.toList) := by
  have h := toList_of_isAbsolute (isAbsolute_path place)
  rw [toList_path] at h
  exact (List.cons.inj h).2.symm

/-- The canonical path of a place with proper names steps into one after the other. -/
theorem steps_path {place : Place} (hplace : place ≠ [])
    (h : ∀ name ∈ place, '/' ∉ name.toList ∧ stepOf name.toList = .into name) :
    place.path.steps = place.map .into := by
  rw [steps_eq, written_eq, body_path,
    Text.splitAt_intercalate (mt List.map_eq_nil_iff.1 hplace), List.map_map]
  · exact List.map_congr_left fun name hname => (h name hname).2
  · intro part hpart
    obtain ⟨name, hname, rfl⟩ := List.mem_map.1 hpart
    exact (h name hname).1

theorem steps_path_root : (Place.path []).steps = [.stay] := by decide +kernel

end Path

namespace FileTree

/-!
## Trees that are the same along a path

Everything that can be asked of a path is led back to the walk along it, and that to the places on
the way.
-/

/-- Whether two trees have the same at every place that a path passes through without links. The
places are determined by the path alone, so this says nothing about where it leads in either of the
trees. -/
def SameAlong (first second : FileTree) (p : Path) : Prop :=
  ∀ q ∈ Place.through [] p.steps, first.node? q = second.node? q

section SameAlong

variable {first second : FileTree} {p : Path}

/-- Trees with the same nodes along a way have the same walks on it. -/
theorem walk_congr {here : Place} {steps : List Step}
    (h : ∀ q ∈ here.through steps, first.node? q = second.node? q) :
    first.walk here steps = second.walk here steps := by
  -- A walk looks only at the place where it is and at the next one that it steps into.
  induction steps generalizing here with
  | nil => rfl
  | cons step rest ih =>
    rw [Place.through, List.forall_mem_cons] at h
    have hrest := ih h.2
    by_cases hfirst : first.node? here = some .directory
    · have hsecond := h.1.symm.trans hfirst
      cases step with
      | stay => rwa [walk_stay hfirst, walk_stay hsecond]
      | up => rwa [walk_up hfirst, walk_up hsecond]
      | into name =>
        have hnext : first.node? (here ++ [name]) = second.node? (here ++ [name]) :=
          h.2 _ (Place.mem_through_self _ rest)
        rw [walk_into hfirst, walk_into hsecond, ← hnext]
        split
        · rfl
        · split
          · rfl
          · rfl
          · exact hrest
    · rw [walk_cons_of_not_directory hfirst,
        walk_cons_of_not_directory fun hsecond => hfirst (h.1.trans hsecond)]

/-- A walk that stops at a link has found one. -/
theorem node?_of_walk_atLink {t : FileTree} {here directory : Place} {steps rest : List Step}
    {target : Path} (h : t.walk here steps = .atLink directory target rest) :
    ∃ q, t.node? q = some (.link target) := by
  induction steps generalizing here with
  | nil => nomatch h
  | cons step more ih =>
    by_cases hdirectory : t.node? here = some .directory
    · cases step with
      | stay => exact ih ((walk_stay hdirectory more).symm.trans h)
      | up => exact ih ((walk_up hdirectory more).symm.trans h)
      | into name =>
        rw [walk_into hdirectory] at h
        split at h
        · nomatch h
        · split at h
          · nomatch h
          · next hlink =>
            cases h
            exact ⟨_, hlink⟩
          · exact ih h
    · rw [walk_cons_of_not_directory hdirectory] at h
      nomatch h

/-- In a tree without links there is none. -/
theorem node?_ne_link {t : FileTree} (hfree : t.LinkFree []) (q : Place) (target : Path) :
    t.node? q ≠ some (.link target) :=
  hfree q (Place.isWithin_iff.2 ⟨q, rfl⟩) target

/-- Trees that are the same along a path resolve it to the same place. Problems on the way are the
same as well, since the walks are. -/
theorem resolve_of_sameAlong (hfree : first.LinkFree []) (h : first.SameAlong second p) :
    first.resolve p = second.resolve p := by
  have hfollow : first.follow (maxLinks + 1) [] p.steps =
      second.follow (maxLinks + 1) [] p.steps := by
    rw [follow_succ, follow_succ, ← walk_congr h]
    cases hwalk : first.walk [] p.steps with
    | atLink directory target rest =>
      obtain ⟨q, hlink⟩ := node?_of_walk_atLink hwalk
      exact absurd hlink (node?_ne_link hfree q target)
    | _ => rfl
  unfold resolve target
  rw [hfollow]

theorem canonical_of_sameAlong (hfree : first.LinkFree []) (h : first.SameAlong second p) :
    first.canonical p = second.canonical p :=
  congrArg (Except.map Place.path) (resolve_of_sameAlong hfree h)

/-- Without links a path resolves to where its steps lead. -/
theorem eq_after_of_resolve {t : FileTree} (hfree : t.LinkFree []) {place : Place}
    (h : t.resolve p = .ok place) : place = Place.after [] p.steps := by
  obtain ⟨-, -, hfollow⟩ := target_eq_ok_iff.1 (resolve_eq_ok_iff.1 h)
  rcases eq_after_of_follow hfollow with hafter | ⟨_, _, _, target, -, hlink⟩
  · exact hafter
  · exact absurd hlink (node?_ne_link hfree _ target)

/-- They read the same text there. -/
theorem readText_of_sameAlong (hfree : first.LinkFree []) (h : first.SameAlong second p) :
    first.readText p = second.readText p := by
  have hlookup : first.lookup p = second.lookup p := by
    unfold lookup locate
    rw [← resolve_of_sameAlong hfree h]
    split
    · rfl
    · cases hresolve : first.resolve p with
      | error problem => rfl
      | ok place =>
        have hnode : first.node? place = second.node? place := by
          rw [eq_after_of_resolve hfree hresolve]
          exact h _ (Place.after_mem_through [] p.steps)
        show Except.bind (.ok place) _ = Except.bind (.ok place) _
        rw [ok_bind, ok_bind, hnode]
  unfold readText readBytes
  rw [hlookup]

/-- What is the same along a path is the same along the canonical path of what it names. -/
theorem sameAlong_of_canonical (hfree : first.LinkFree []) (h : first.SameAlong second p)
    {file : Path} (hfile : first.canonical p = .ok file) : first.SameAlong second file := by
  obtain ⟨place, hresolve, rfl⟩ := map_eq_ok_iff.1 hfile
  obtain rfl := eq_after_of_resolve hfree hresolve
  intro q hq
  by_cases hplace : Place.after [] p.steps = []
  · -- Only the root is on the way to the root.
    rw [hplace, Path.steps_path_root] at hq
    have hroot : q = [] := by simpa [Place.through, Place.after] using hq
    rw [hroot]
    rfl
  · have hproper : ∀ name ∈ Place.after [] p.steps,
        '/' ∉ name.toList ∧ Path.stepOf name.toList = .into name := by
      intro name hname
      rcases Place.into_of_mem_after hname with hnone | hstep
      · exact absurd hnone List.not_mem_nil
      · exact Path.proper_of_into_mem_steps hstep
    rw [Path.steps_path hplace hproper] at hq
    rcases Place.mem_through_of_prefix (Place.prefix_of_mem_through_into hq) with hnil | hmem
    · rw [List.prefix_nil.1 hnil]
      rfl
    · exact h q hmem

/-- They are the same along the way to the parent. -/
theorem sameAlong_of_parent (h : first.SameAlong second p) {dir : Path}
    (hparent : p.parent = some dir) : first.SameAlong second dir := by
  have hroot : ∀ q ∈ Place.through [] [.stay], first.node? q = second.node? q := by
    intro q hq
    have hnil : q = [] := by simpa [Place.through, Place.after] using hq
    rw [hnil]
    rfl
  obtain ⟨text⟩ := dir
  by_cases hempty : text = ""
  · subst hempty
    exact hroot
  · rcases Path.exists_eq_append_of_parent hparent with hnone | hslash | ⟨rest, htext⟩
    · exact absurd hnone hempty
    · cases hslash
      exact hroot
    · intro q hq
      refine h q ?_
      rw [Path.steps_eq, Path.written_of_append hempty htext, List.map_append, ← Path.steps_eq]
      exact Place.through_subset_append _ _ _ hq

end SameAlong

/-!
## Trees with the same directories

Files may come and go, but the ways are the same. So only the last step of a path can tell two such
trees apart.
-/

/-- Two trees without links that have directories at the same places. What is elsewhere, a file or
nothing, may be another in the one than in the other. -/
structure SameDirectories (first second : FileTree) : Prop where
  first_linkFree : first.LinkFree []
  second_linkFree : second.LinkFree []
  directory_iff (q : Place) : first.node? q = some .directory ↔ second.node? q = some .directory

theorem SameDirectories.symm {first second : FileTree} (h : first.SameDirectories second) :
    second.SameDirectories first :=
  ⟨h.second_linkFree, h.first_linkFree, fun q => (h.directory_iff q).symm⟩

theorem linkFree_empty (base : Place) : empty.LinkFree base := by
  intro q _ target
  cases q <;> nofun

/-- Putting what is no link adds none. -/
theorem linkFree_put {t : FileTree} {base place : Place} (h : t.LinkFree base)
    (hplace : place ≠ []) {node : Node} (hnode : ∀ target, node ≠ .link target) :
    (t.put place node).LinkFree base := by
  intro q hq target
  rw [node?_put t hplace]
  split
  · exact fun hlink => hnode target (Option.some.inj hlink)
  · exact h q hq target

/-- A file that is put where no directory is leaves the directories as they are. -/
theorem sameDirectories_put {t : FileTree} {place : Place} (hfree : t.LinkFree [])
    (hplace : t.node? place ≠ some .directory) (content : ByteArray) (executable : Bool) :
    t.SameDirectories (t.put place (.file content executable)) := by
  have hroot : place ≠ [] := by
    rintro rfl
    exact hplace rfl
  refine ⟨hfree, linkFree_put hfree hroot nofun, fun q => ?_⟩
  rw [node?_put t hroot]
  split
  · next hq =>
    subst hq
    exact ⟨fun hdirectory => absurd hdirectory hplace, nofun⟩
  · exact Iff.rfl

/-- Without links, a place is reached if a walk arrives there. -/
theorem follow_eq_existing_iff {t : FileTree} (hfree : t.LinkFree []) {links : Nat}
    {here place : Place} {steps : List Step} :
    t.follow (links + 1) here steps = .ok (.existing place) ↔
      t.walk here steps = .arrived place := by
  rw [follow_succ]
  cases hwalk : t.walk here steps with
  | arrived q => simp only [Except.ok.injEq, Target.existing.injEq, Progress.arrived.injEq]
  | vacant q rest => exact ⟨nofun, nofun⟩
  | failed problem => exact ⟨nofun, nofun⟩
  | atLink directory target rest =>
    obtain ⟨q, hlink⟩ := node?_of_walk_atLink hwalk
    exact absurd hlink (node?_ne_link hfree q target)

/-- The last step of a walk is taken from a directory. -/
theorem node?_of_walk_concat {t : FileTree} {here place : Place} {front : List Step} {last : Step}
    (h : t.walk here (front ++ [last]) = .arrived place) : t.node? here = some .directory := by
  by_cases hdirectory : t.node? here = some .directory
  · exact hdirectory
  · obtain ⟨step, rest, hcons⟩ := List.exists_cons_of_ne_nil (List.concat_ne_nil last front)
    rw [hcons, walk_cons_of_not_directory hdirectory] at h
    nomatch h

section LastName

variable {first second : FileTree} (hdirectories : first.SameDirectories second) {name : String}
  (hlast : ∀ q : Place, q.getLast? = some name → first.node? q = second.node? q)
include hdirectories hlast

/-- Trees with the same directories and the same nodes of one name arrive at the same place, if that
is the last name. -/
theorem walk_of_last {here place : Place} {front : List Step}
    (h : first.walk here (front ++ [.into name]) = .arrived place) :
    second.walk here (front ++ [.into name]) = .arrived place ∧
      first.node? place = second.node? place := by
  have hfirst := node?_of_walk_concat h
  have hsecond := (hdirectories.directory_iff here).1 hfirst
  -- The induction is on the steps before the last name, with a directory at each of them.
  induction front generalizing here with
  | nil =>
    have hnode := hlast (here ++ [name]) List.getLast?_concat
    rw [List.nil_append, walk_into hfirst] at h
    rw [List.nil_append, walk_into hsecond, ← hnode]
    split at h
    · nomatch h
    · next hsize =>
      rw [if_neg hsize]
      split at h
      · nomatch h
      · nomatch h
      · cases h
        exact ⟨rfl, hnode⟩
  | cons step front ih =>
    rw [List.cons_append] at h ⊢
    cases step with
    | stay =>
      rw [walk_stay hfirst] at h
      rw [walk_stay hsecond]
      exact ih h hfirst hsecond
    | up =>
      rw [walk_up hfirst] at h
      rw [walk_up hsecond]
      have habove := node?_of_walk_concat h
      exact ih h habove ((hdirectories.directory_iff _).1 habove)
    | into other =>
      rw [walk_into hfirst] at h
      rw [walk_into hsecond]
      split at h
      · nomatch h
      · next hsize =>
        rw [if_neg hsize]
        split at h
        · nomatch h
        · nomatch h
        · -- The walk goes on from here, so this is a directory in both trees.
          have hnext := node?_of_walk_concat h
          have hnext' := (hdirectories.directory_iff _).1 hnext
          rw [hnext']
          exact ih h hnext hnext'

/-- So they resolve a path that ends with this name to the same place, with the same node. -/
theorem resolve_of_last {p : Path} {front : List Step} (hp : p.steps = front ++ [.into name])
    {place : Place} (h : first.resolve p = .ok place) :
    second.resolve p = .ok place ∧ first.node? place = second.node? place := by
  obtain ⟨hnul, hempty, hfollow⟩ := target_eq_ok_iff.1 (resolve_eq_ok_iff.1 h)
  rw [hp, follow_eq_existing_iff hdirectories.first_linkFree] at hfollow
  obtain ⟨hwalk, hnode⟩ := walk_of_last hdirectories hlast hfollow
  rw [← follow_eq_existing_iff hdirectories.second_linkFree, ← hp] at hwalk
  exact ⟨resolve_eq_ok_iff.2 (target_eq_ok_iff.2 ⟨hnul, hempty, hwalk⟩), hnode⟩

end LastName

end FileTree

end MailTemplates
