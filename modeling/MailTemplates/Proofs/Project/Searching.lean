import Mathlib.Data.List.Basic
import Mathlib.Data.List.TakeWhile
import MailTemplates.Proofs.Fallible
import MailTemplates.Proofs.FileTree.Canonical
import MailTemplates.Project.Cascade
/-!
# The nearest configuration file

Searching upwards comes through the canonical directory, the one above it, and so on up to and
including the root of the project (`Project.searchPath_of_encloses`), and through none at all if the
directory is not in the root, name by name (`Project.searchPath_of_not_encloses`). The first of them
that has a file under one of the names decides, and in it the first such name
(`Project.find?_candidates_eq_some`): what that file says, or why it cannot be read, is the result.

The search is a search in one list, the candidates of all directories, one directory after another.
So the nearest file is found by `find?_flatMap_map_eq_some_iff`: what is found first in a list of
lists is in the first of these that has anything to be found.

That the search stays inside the project is decided on the texts of paths, by their front. For
canonical paths this is the same as being at or below the root, name by name (`startsWith_root`): a
name that merely begins like that of the root is not taken for it.

Main statement: `Project.readConfig_nearest`.
-/

namespace MailTemplates

/-!
## The directories of the search

Going up from a canonical path, the directories are places above one another. The search ends with
the root of the project, and starts only if the place is inside.
-/

namespace Place

/-- A place and those above it up to and including `base`, the nearest first. -/
def upTo (place base : Place) : List Place :=
  (List.range (place.length - base.length + 1)).map fun n => place.take (place.length - n)

/-- On the way up to a base are the places between the two. -/
theorem mem_upTo_iff {place base above : Place} (hbase : base <+: place) :
    above ∈ place.upTo base ↔ base <+: above ∧ above <+: place := by
  unfold upTo
  rw [List.mem_map]
  have hlength := hbase.length_le
  constructor
  · rintro ⟨n, hn, rfl⟩
    rw [List.mem_range] at hn
    exact ⟨List.prefix_take_iff.2 ⟨hbase, by omega⟩, List.take_prefix _ _⟩
  · rintro ⟨hbelow, habove⟩
    have hbelow' := hbelow.length_le
    have habove' := habove.length_le
    refine ⟨place.length - above.length, List.mem_range.2 (by omega), ?_⟩
    rw [Nat.sub_sub_self habove', ← List.prefix_iff_eq_take.1 habove]

/-- Going up for as long as one is at or below `base` ends there. -/
theorem takeWhile_upwards {place base : Place} (hbase : base <+: place) {p : Place → Bool}
    (hp : ∀ d, d <+: place → (p d = true ↔ base <+: d)) :
    place.upwards.takeWhile p = place.upTo base := by
  have hlength := hbase.length_le
  have htake : ∀ n, p (place.take n) = true ↔ base.length ≤ n := fun n => by
    rw [hp _ (List.take_prefix n place), List.prefix_take_iff, and_iff_right hbase]
  have hsplit : place.length + 1 = place.length - base.length + 1 + base.length := by omega
  unfold upwards upTo
  rw [hsplit, List.range_add, List.map_append, List.takeWhile_append_of_pos]
  · -- The next directory up, if there is one, is above `base`.
    have hrest : ((List.range base.length).map fun n =>
        place.take (place.length - (place.length - base.length + 1 + n))).takeWhile p = [] := by
      rw [List.takeWhile_eq_nil_iff]
      intro hpos
      rw [List.length_map, List.length_range] at hpos
      rw [List.get_eq_getElem, List.getElem_map, List.getElem_range, htake]
      omega
    rw [List.map_map]
    exact (congrArg _ hrest).trans (List.append_nil _)
  · intro d hd
    obtain ⟨n, hn, rfl⟩ := List.mem_map.1 hd
    rw [List.mem_range] at hn
    exact (htake _).2 (by omega)

/-- Places with the same names are the same. -/
theorem map_toList_inj {here there : Place} :
    here.map String.toList = there.map String.toList ↔ here = there :=
  (List.map_injective_iff.2 fun _ _ => String.toList_inj.1).eq_iff

/-- The way up starts at the place itself. -/
theorem upwards_eq_cons (place : Place) : ∃ above, place.upwards = place :: above := by
  unfold upwards
  rw [List.range_succ_eq_map, List.map_cons, Nat.sub_zero, List.take_length]
  exact ⟨_, rfl⟩

end Place

namespace Project

variable {project : Project} {tree : FileTree} {directory : Path} {place base : Place}

/-- Whether a place is the root of the project or lies below it, name by name. -/
def encloses (project : Project) (place : Place) : Bool :=
  project.root.isAbsolute && project.root.parts.isPrefixOf (place.map String.toList)

/-- A proper place is inside the root if its path starts with it. -/
theorem startsWith_root (h : place.Proper) :
    place.path.startsWith project.root = project.encloses place := by
  unfold Path.startsWith encloses
  rw [Path.isAbsolute_path, Path.parts_path h]
  cases project.root.isAbsolute <;> rfl

/-- An absolute root encloses the places below its own one. -/
theorem encloses_iff (habsolute : project.root.isAbsolute = true)
    (hbase : base.map String.toList = project.root.parts) :
    project.encloses place = true ↔ base <+: place := by
  unfold encloses
  rw [habsolute, ← hbase, Bool.true_and, List.isPrefixOf_iff_prefix, List.prefix_map_iff]
  constructor
  · rintro ⟨front, hfront, hmap⟩
    rwa [Place.map_toList_inj.1 hmap]
  · intro h
    exact ⟨base, h, rfl⟩

/-- The root, as a place at or above each that lies in it. -/
theorem exists_base (h : project.encloses place = true) :
    ∃ base : Place, base.map String.toList = project.root.parts ∧ base <+: place := by
  unfold encloses at h
  rw [Bool.and_eq_true, List.isPrefixOf_iff_prefix, List.prefix_map_iff] at h
  obtain ⟨-, base, hprefix, hparts⟩ := h
  exact ⟨base, hparts.symm, hprefix⟩

/-- A name that only begins like that of the root leads elsewhere. -/
theorem encloses_of_longer_name {above below : Place} {name more : String}
    (hroot : project.root.parts = (above ++ [name]).map String.toList) (hmore : more ≠ "") :
    project.encloses (above ++ (name ++ more) :: below) = false := by
  rw [Bool.eq_false_iff]
  intro h
  obtain ⟨base, hbase, hprefix⟩ := exists_base h
  rw [hroot] at hbase
  rw [Place.map_toList_inj.1 hbase, List.prefix_append_right_inj, List.cons_prefix_cons] at hprefix
  have hname : name.toList ++ [] = name.toList ++ more.toList := by
    rw [List.append_nil, ← String.toList_append, ← hprefix.1]
  exact hmore (String.toList_eq_nil_iff.1 (List.append_cancel_left hname).symm)

/-- The directories to be searched are those above the place, as long as they are inside the root.
-/
theorem searchPath_eq (hplace : tree.resolve directory = .ok place) :
    project.searchPath tree directory =
      (place.upwards.takeWhile fun d => d.path.startsWith project.root).map Place.path := by
  unfold searchPath FileTree.canonical
  rw [hplace]
  show place.path.ancestors.takeWhile _ = _
  rw [Path.ancestors_path (FileTree.proper_of_resolve hplace), List.takeWhile_map]
  rfl

/-- The search comes through the directories from the given one up to and including the root. -/
theorem searchPath_of_encloses (hplace : tree.resolve directory = .ok place)
    (h : project.encloses place = true) (hbase : base.map String.toList = project.root.parts) :
    project.searchPath tree directory = (place.upTo base).map Place.path := by
  have hproper := FileTree.proper_of_resolve hplace
  have habsolute : project.root.isAbsolute = true := (Bool.and_eq_true_iff.1 h).1
  have hprefix : base <+: place := (encloses_iff habsolute hbase).1 h
  rw [searchPath_eq hplace, Place.takeWhile_upwards hprefix]
  intro d hd
  rw [startsWith_root (hproper.of_prefix hd)]
  exact encloses_iff habsolute hbase

/-- Outside the root there are none. -/
theorem searchPath_of_not_encloses (hplace : tree.resolve directory = .ok place)
    (h : project.encloses place = false) : project.searchPath tree directory = [] := by
  have hproper := FileTree.proper_of_resolve hplace
  obtain ⟨above, habove⟩ := place.upwards_eq_cons
  rw [searchPath_eq hplace, habove, List.takeWhile_cons, startsWith_root hproper, h]
  rfl

end Project

/-!
## The file that decides

In each directory the names are tried in their order before the next directory is looked at. So the
nearest directory comes first, and the order of the names second.
-/

/-- What is found first among things that are made one by one. -/
theorem find?_map_eq_some_iff {β γ : Type} {names : List β} {thing : β → γ} {p : γ → Bool}
    {found : γ} :
    (names.map thing).find? p = some found ↔
      ∃ before name after, names = before ++ name :: after ∧
        (∀ other ∈ before, p (thing other) = false) ∧
        p (thing name) = true ∧ found = thing name := by
  rw [List.find?_map, Option.map_eq_some_iff]
  constructor
  · rintro ⟨name, hfind, rfl⟩
    obtain ⟨hholds, before, after, hnames, hbefore⟩ := List.find?_eq_some_iff_append.1 hfind
    refine ⟨before, name, after, hnames, fun other hother => ?_, hholds, rfl⟩
    simpa using hbefore other hother
  · rintro ⟨before, name, after, hnames, hbefore, hholds, rfl⟩
    refine ⟨name, List.find?_eq_some_iff_append.2 ⟨hholds, before, after, hnames, ?_⟩, rfl⟩
    intro other hother
    simpa using hbefore other hother

/-- Nothing is found if nothing has the property. -/
theorem find?_map_eq_none_iff {β γ : Type} {names : List β} {thing : β → γ} {p : γ → Bool} :
    (names.map thing).find? p = none ↔ ∀ name ∈ names, p (thing name) = false := by
  rw [List.find?_eq_none, List.forall_mem_map]
  simp only [Bool.not_eq_true]

/-- What is found first among things of several levels, each with the same names, is in the first
level that has any, and there it is the first. -/
theorem find?_flatMap_map_eq_some_iff {α β γ : Type} {levels : List α} {names : List β}
    {thing : α → β → γ} {p : γ → Bool} {found : γ} :
    (levels.flatMap fun level => names.map fun name => thing level name).find? p = some found ↔
      ∃ nearer level farther, levels = nearer ++ level :: farther ∧
        (∀ l ∈ nearer, ∀ name ∈ names, p (thing l name) = false) ∧
        ∃ before name after, names = before ++ name :: after ∧
          (∀ other ∈ before, p (thing level other) = false) ∧
          p (thing level name) = true ∧ found = thing level name := by
  rw [List.find?_flatMap, List.findSome?_eq_some_iff]
  constructor
  · rintro ⟨nearer, level, farther, hlevels, hfound, hnearer⟩
    exact ⟨nearer, level, farther, hlevels, fun l hl => find?_map_eq_none_iff.1 (hnearer l hl),
      find?_map_eq_some_iff.1 hfound⟩
  · rintro ⟨nearer, level, farther, hlevels, hnearer, hfound⟩
    exact ⟨nearer, level, farther, hlevels, find?_map_eq_some_iff.2 hfound,
      fun l hl => find?_map_eq_none_iff.2 (hnearer l hl)⟩

namespace FileTree

/-- Whether a directory has a file under a name. -/
def holds (tree : FileTree) (directory : Place) (name : String) : Bool :=
  tree.isFile (Place.path (directory ++ [name]))

/-- A file under one of the names in the nearest directory that has any, and there the first. -/
def IsNearest (tree : FileTree) (directories : List Place) (names : List String) (found : Path) :
    Prop :=
  ∃ nearer directory farther, directories = nearer ++ directory :: farther ∧
    (∀ d ∈ nearer, ∀ name ∈ names, tree.holds d name = false) ∧
    ∃ before name after, names = before ++ name :: after ∧
      (∀ other ∈ before, tree.holds directory other = false) ∧
      tree.holds directory name = true ∧ found = Place.path (directory ++ [name])

end FileTree

/-- What reading a configuration file comes to. -/
inductive Reads {α : Type} (tree : FileTree) (parse : String → Except Json.Fault α) (file : Path) :
    Except Failure (Option (Configured α)) → Prop where
  | value {content : String} {value : α} (hcontent : tree.readText file = .ok content)
      (hvalue : parse content = .ok value) : Reads tree parse file (.ok (some ⟨value, file⟩))
  | unreadable {problem : FileProblem} (hproblem : tree.readText file = .error problem) :
      Reads tree parse file (.error (.io problem))
  | malformed {content : String} {fault : Json.Fault}
      (hcontent : tree.readText file = .ok content) (hfault : parse content = .error fault) :
      Reads tree parse file (.error (.config (.unreadable file fault)))

/-- A file that is read is a result, and be it a failure. -/
theorem Reads.ne_ok_none {α : Type} {tree : FileTree} {parse : String → Except Json.Fault α}
    {file : Path} {result : Except Failure (Option (Configured α))}
    (h : Reads tree parse file result) : result ≠ .ok none := by
  cases h with
  | value => nofun
  | unreadable => nofun
  | malformed => nofun

/-- Reading a file gives its value with its path, or the failure with its cause. -/
theorem reads_readWith {α : Type} (tree : FileTree) (parse : String → Except Json.Fault α)
    (file : Path) :
    Reads tree parse file ((readWith tree parse file).map fun value => some ⟨value, file⟩) := by
  unfold readWith
  cases hcontent : tree.readText file with
  | error problem => exact .unreadable hcontent
  | ok content =>
    dsimp only
    cases hparse : parse content with
    | error fault => exact .malformed hcontent hparse
    | ok value => exact .value hcontent hparse

namespace Project

variable {α : Type} {project : Project} {tree : FileTree} {directory : Path} {names : List String}

/-- The candidates in canonical directories, in the order of the search. -/
theorem candidates_eq {directories : List Place} (hnames : ∀ name ∈ names, '/' ∉ name.toList)
    (hproper : ∀ d ∈ directories, d.Proper)
    (hpath : project.searchPath tree directory = directories.map Place.path) :
    project.candidates tree names directory =
      directories.flatMap fun d => names.map fun name => Place.path (d ++ [name]) := by
  unfold candidates
  rw [hpath, List.flatMap_map]
  refine List.flatMap_congr fun d hd => List.map_congr_left fun name hname => ?_
  exact Path.join_path (hproper d hd) (hnames name hname)

/-- The first candidate that is a file is the nearest one. -/
theorem find?_candidates_eq_some {directories : List Place} {found : Path}
    (h : (directories.flatMap fun d => names.map fun name => Place.path (d ++ [name])).find?
      tree.isFile = some found) : tree.IsNearest directories names found :=
  find?_flatMap_map_eq_some_iff.1 h

/-- There is none if no directory on the way holds one of the names. -/
theorem find?_candidates_eq_none {directories : List Place} :
    (directories.flatMap fun d => names.map fun name => Place.path (d ++ [name])).find?
        tree.isFile = none ↔
      ∀ d ∈ directories, ∀ name ∈ names, tree.holds d name = false := by
  simp only [List.find?_eq_none, List.mem_flatMap, List.mem_map, Bool.not_eq_true]
  constructor
  · intro h d hd name hname
    exact h _ ⟨d, hd, name, hname, rfl⟩
  · rintro h file ⟨d, hd, name, hname, rfl⟩
    exact h d hd name hname

/-- The search through given directories finds the nearest file, or nothing if there is none. -/
theorem readConfig_of_searchPath (parse : String → Except Json.Fault α)
    {directories : List Place} (hnames : ∀ name ∈ names, '/' ∉ name.toList)
    (hproper : ∀ d ∈ directories, d.Proper)
    (hpath : project.searchPath tree directory = directories.map Place.path) :
    (∃ found, tree.IsNearest directories names found ∧
        Reads tree parse found (project.readConfig tree parse names directory)) ∨
      (∀ d ∈ directories, ∀ name ∈ names, tree.holds d name = false) ∧
        project.readConfig tree parse names directory = .ok none := by
  unfold readConfig
  rw [candidates_eq hnames hproper hpath]
  cases hfind : (directories.flatMap fun d => names.map fun name => Place.path (d ++ [name])).find?
      tree.isFile with
  | none => exact .inr ⟨find?_candidates_eq_none.1 hfind, rfl⟩
  | some found =>
    exact .inl ⟨found, find?_candidates_eq_some hfind, reads_readWith tree parse found⟩

/-- Outside of the root nothing is found. Inside, the directories from the given one up to and
including the root are searched, and the nearest candidate is what is read; nothing is found exactly
if none of these directories has any. -/
theorem readConfig_nearest {α : Type} (project : Project) (tree : FileTree)
    (parse : String → Except Json.Fault α) {names : List String} {directory : Path} {place : Place}
    (hnames : ∀ name ∈ names, '/' ∉ name.toList) (hplace : tree.resolve directory = .ok place) :
    (project.encloses place = false →
        project.readConfig tree parse names directory = .ok none) ∧
      (∀ (above below : Place) (name more : String),
        project.root.parts = (above ++ [name]).map String.toList → more ≠ "" →
          place = above ++ (name ++ more) :: below →
          project.readConfig tree parse names directory = .ok none) ∧
      (project.encloses place = true → ∃ root : Place,
        root.map String.toList = project.root.parts ∧ root <+: place ∧
        project.searchPath tree directory = (place.upTo root).map Place.path ∧
        ((∃ found, tree.IsNearest (place.upTo root) names found ∧
            Reads tree parse found (project.readConfig tree parse names directory)) ∨
          (∀ d ∈ place.upTo root, ∀ name ∈ names, tree.holds d name = false) ∧
            project.readConfig tree parse names directory = .ok none) ∧
        (project.readConfig tree parse names directory = .ok none ↔
          ∀ d ∈ place.upTo root, ∀ name ∈ names, tree.holds d name = false)) := by
  have hproper := FileTree.proper_of_resolve hplace
  have houtside : project.encloses place = false →
      project.readConfig tree parse names directory = .ok none := by
    intro h
    rcases readConfig_of_searchPath parse hnames (List.forall_mem_nil _)
        (searchPath_of_not_encloses hplace h) with ⟨found, hfound, -⟩ | ⟨-, hnone⟩
    · obtain ⟨nearer, _, farther, hnil, -⟩ := hfound
      exact absurd hnil.symm (by simp)
    · exact hnone
  refine ⟨houtside, ?_, ?_⟩
  · rintro above below name more hroot hmore rfl
    exact houtside (encloses_of_longer_name hroot hmore)
  · intro h
    obtain ⟨root, hroot, hprefix⟩ := exists_base h
    have hpath := searchPath_of_encloses hplace h hroot
    -- What the search finds along the way up to the root is the nearest file, or there is none.
    have hcases := readConfig_of_searchPath parse hnames
      (fun d hd => hproper.of_prefix ((Place.mem_upTo_iff hprefix).1 hd).2) hpath
    refine ⟨root, hroot, hprefix, hpath, hcases, ?_, ?_⟩
    · intro hnone
      rcases hcases with ⟨found, -, hreads⟩ | ⟨hall, -⟩
      · exact absurd hnone hreads.ne_ok_none
      · exact hall
    · intro hall
      rcases hcases with ⟨found, hfound, -⟩ | ⟨-, hnone⟩
      · -- The nearest file is one of those that are not there.
        obtain ⟨nearer, level, farther, hdirectories, -, before, name, after, rfl, -, hholds, -⟩ :=
          hfound
        have hmem : level ∈ place.upTo root := by
          rw [hdirectories]
          exact List.mem_append_right _ List.mem_cons_self
        have hfalse := hall level hmem name (List.mem_append_right _ List.mem_cons_self)
        exact absurd (hholds.symm.trans hfalse) (by decide)
      · exact hnone

/-! ## A configuration that cannot be read -/

/-- A project in a directory of the tree. -/
def mails : Project where
  mode := .prod
  root := ⟨"/p"⟩
  package := ⟨none, none, []⟩
  configFile := none
  components := []
  templates := []

/-- Two configurations one above the other; the one further down is broken. -/
def nestedFiles : FileTree :=
  ((((FileTree.empty.put ["p"] .directory).put ["p", "shop"] .directory).put
    ["p", "shop", "offer"] .directory).put
    ["p", "shop", "second.json"] (.file "\x7b".toUTF8 false)).put
    ["p", "first.json"] (.file "\x7b\x7d".toUTF8 false)

/-- A file of the second name on the way up is nearer than one of the first name in the root. -/
theorem readConfig_nearest_shop :
    (∀ name ∈ ["first.json", "second.json"], '/' ∉ name.toList) ∧
      nestedFiles.resolve ⟨"/p/./shop/offer/"⟩ = .ok ["p", "shop", "offer"] ∧
      mails.encloses ["p", "shop", "offer"] = true ∧
      ∃ found, nestedFiles.IsNearest [["p", "shop", "offer"], ["p", "shop"], ["p"]]
          ["first.json", "second.json"] found ∧
        Reads nestedFiles CompilerConfig.parse found (mails.readConfig nestedFiles
          CompilerConfig.parse ["first.json", "second.json"] ⟨"/p/./shop/offer/"⟩) := by
  have hnames : ∀ name ∈ ["first.json", "second.json"], '/' ∉ name.toList := by decide +kernel
  have hplace : nestedFiles.resolve ⟨"/p/./shop/offer/"⟩ = .ok ["p", "shop", "offer"] :=
    eq_ok_of_toOption (by decide +kernel)
  have hencloses : mails.encloses ["p", "shop", "offer"] = true := by decide +kernel
  refine ⟨hnames, hplace, hencloses, ?_⟩
  obtain ⟨root, hroot, -, -, hcases, -⟩ := (readConfig_nearest mails nestedFiles
    CompilerConfig.parse hnames hplace).2.2 hencloses
  have hparts : root.map String.toList = (["p"] : Place).map String.toList :=
    hroot.trans (by decide +kernel)
  obtain rfl := Place.map_toList_inj.1 hparts
  rcases hcases with hfound | ⟨hall, -⟩
  · exact hfound
  · have hholds : nestedFiles.holds ["p"] "first.json" = true := by decide +kernel
    have hfalse := hall ["p"] (by decide +kernel) "first.json" List.mem_cons_self
    exact absurd (hholds.symm.trans hfalse) (by decide)

end Project

end MailTemplates
