import MailTemplates.Manifest.Basic
import MailTemplates.Proofs.FileTree.Directories
import MailTemplates.Proofs.FileTree.Moving
import MailTemplates.Proofs.Project.Searching
import MailTemplates.Translation.Table
/-!
# Searching stays in the project

A search comes through directories whose parts begin with those of the root. If the directory that
is searched from exists, these are canonical paths, so they are in the root. If it does not exist
then they are written as they were given, and where they lead depends on what is written: steps up
may lead above the root, and a link anywhere else (`readConfig_reads_above_root`). Where neither
happens, the file that is read lies in the root or below it.

A file that is read is a candidate, so it is a name in one of the directories of the search
(`exists_of_find?_candidates`); and as it is a file, that directory is there. If the search starts
from a directory that exists then all directories of it are places above one another, and the
condition on their names is one on places. If not, the directories are the paths as written, and the
steps behind the root decide. These are the steps of the given path, or the first ones of it, so
what never leads above the root in the whole never does in a part.

Main statement: `readConfig_stays_in_root`.
-/

namespace MailTemplates

/-!
## Steps that meet no link

Whether a link is met depends on the steps and the tree. The lemmas are about longer and shorter
ways: what the whole way does not meet no part of it meets.
-/

namespace FileTree

variable {t : FileTree}

/-- A link that is met by some steps is met if more follow. -/
theorem MeetsLink.append {here : Place} {front : List Step} (h : t.MeetsLink here front)
    (rest : List Step) : t.MeetsLink here (front ++ rest) := by
  obtain ⟨before, name, behind, target, rfl, hlink⟩ := h
  exact ⟨before, name, behind ++ rest, target, by rw [List.append_assoc, List.cons_append], hlink⟩

/-- Steps that meet no link and do not lead above a place lead into it, however far they are
taken. -/
theorem isWithin_of_follow {links : Nat} {base place : Place} {front rest : List Step}
    (h : t.follow links base front = .ok (.existing place))
    (hdescends : descends 0 (front ++ rest) = true) (hlinks : ¬t.MeetsLink base (front ++ rest)) :
    place.isWithin base = true := by
  rcases eq_after_of_follow h with rfl | hlink
  · exact isWithin_after_of_descends front rest hdescends
  · exact absurd (hlink.append rest) hlinks

end FileTree

namespace Project

variable {project : Project} {tree : FileTree} {names : List String} {directory : Path}

/-- The steps that a path takes behind the parts of the root. -/
def stepsBehind (project : Project) (p : Path) : List Step :=
  (p.parts.drop project.root.parts.length).map Path.stepOf

/-!
## The directories of a search

There are two cases, and they have nothing in common: the directory that is searched from exists, or
it does not.
-/

/-- A file that ends a search is a name in one of the directories that are searched. -/
theorem exists_of_find?_candidates {file : Path}
    (h : (project.candidates tree names directory).find? tree.isFile = some file) :
    ∃ within ∈ project.searchPath tree directory, ∃ name ∈ names,
      file = within.join ⟨name⟩ ∧ tree.isFile file = true := by
  have hmem := List.mem_of_find?_eq_some h
  unfold candidates at hmem
  obtain ⟨within, hwithin, hfile⟩ := List.mem_flatMap.1 hmem
  obtain ⟨name, hname, rfl⟩ := List.mem_map.1 hfile
  exact ⟨within, hwithin, name, hname, rfl, List.find?_some h⟩

/-- The first candidate that is a file is the one that is read. -/
theorem readConfig_of_find? {α : Type} {parse : String → Except Json.Fault α} {file : Path}
    {value : α} (hfind : (project.candidates tree names directory).find? tree.isFile = some file)
    (hvalue : readWith tree parse file = .ok value) :
    project.readConfig tree parse names directory = .ok (some ⟨value, file⟩) := by
  rw [readConfig, hfind]
  dsimp only
  rw [hvalue]
  rfl

/-- A directory that has a file is there. -/
theorem exists_resolve_of_isFile_join {within : Path} {name : String} (hname : '/' ∉ name.toList)
    (hwithin : within.isAbsolute = true) (h : tree.isFile (within.join ⟨name⟩) = true) :
    ∃ here, tree.resolve within = .ok here := by
  obtain ⟨-, place, -, -, hplace, -⟩ := FileTree.isFile_eq_true_iff.1 h
  have hne : within.text ≠ "" := by
    obtain ⟨text⟩ := within
    rintro rfl
    nomatch hwithin
  obtain ⟨here, -, hhere, -⟩ :=
    Path.follow_of_resolve_join hplace (Path.isAbsolute_eq_false_of_not_mem hname) hne
  exact ⟨here, hhere⟩

/-- What is searched from a directory that exists lies in the root. -/
theorem isWithin_of_existing {place root here : Place} {within : Path}
    (hplace : tree.resolve directory = .ok place) (hroot : tree.resolve project.root = .ok root)
    (hwithin : within ∈ project.searchPath tree directory)
    (hhere : tree.resolve within = .ok here) : here.isWithin root = true := by
  cases hencloses : project.encloses place with
  | false =>
    rw [searchPath_of_not_encloses hplace hencloses] at hwithin
    nomatch hwithin
  | true =>
    obtain ⟨base, hparts, hprefix⟩ := exists_base hencloses
    rw [searchPath_of_encloses hplace hencloses hparts] at hwithin
    obtain ⟨level, hlevel, rfl⟩ := List.mem_map.1 hwithin
    obtain ⟨hbelow, habove⟩ := (Place.mem_upTo_iff hprefix).1 hlevel
    have hproper := FileTree.proper_of_resolve hplace
    have hreached := FileTree.reached_of_resolve hplace
    -- The places are canonical: each is what its own names lead to.
    obtain rfl : here = level := FileTree.eq_of_reached (hreached.of_prefix habove)
      (Path.moves_path (hproper.of_prefix habove)) hhere
    have hmoves : project.root.moves = base.map .into := by
      rw [← Path.moves_path (hproper.of_prefix hprefix), Path.moves, Path.moves, ← hparts,
        Path.parts_path (hproper.of_prefix hprefix)]
    obtain rfl : root = base :=
      FileTree.eq_of_reached (hreached.of_prefix hprefix) hmoves hroot
    exact List.isPrefixOf_iff_prefix.2 hbelow

/-- A directory that is searched has the parts of the root in front. -/
theorem parts_of_mem_searchPath {within : Path}
    (hwithin : within ∈ project.searchPath tree directory) :
    ∃ behind, within.parts = project.root.parts ++ behind ∧
      project.stepsBehind within = behind.map Path.stepOf := by
  have hstarts := project.searchPath_within tree directory within hwithin
  unfold Path.startsWith at hstarts
  rw [Bool.and_eq_true, List.isPrefixOf_iff_prefix] at hstarts
  obtain ⟨behind, hparts⟩ := hstarts.2
  refine ⟨behind, hparts.symm, ?_⟩
  rw [stepsBehind, ← hparts, List.drop_left]

/-- A search from a directory that does not exist goes up along its path as it is written. -/
theorem stepsBehind_of_missing {problem : FileProblem} {within : Path}
    (hmissing : tree.resolve directory = .error problem)
    (hwithin : within ∈ project.searchPath tree directory) :
    ∃ rest, project.stepsBehind directory = project.stepsBehind within ++ rest := by
  obtain ⟨behind, hparts, hbehind⟩ := parts_of_mem_searchPath hwithin
  have hancestor : within ∈ directory.ancestors := by
    unfold searchPath FileTree.canonical at hwithin
    rw [hmissing] at hwithin
    exact (List.takeWhile_prefix _).subset hwithin
  obtain ⟨more, hmore⟩ := Path.parts_prefix_of_mem_ancestors hancestor
  refine ⟨more.map Path.stepOf, ?_⟩
  rw [hbehind, stepsBehind, ← hmore, hparts, List.append_assoc, List.drop_left, List.map_append]

/-- What is searched from a directory that does not exist lies in the root if the steps behind that
neither lead above it nor meet a link. -/
theorem isWithin_of_missing {problem : FileProblem} {root here : Place} {within : Path}
    (hmissing : tree.resolve directory = .error problem)
    (hroot : tree.resolve project.root = .ok root)
    (hdescends : descends 0 (project.stepsBehind directory) = true)
    (hlinks : ¬tree.MeetsLink root (project.stepsBehind directory))
    (hwithin : within ∈ project.searchPath tree directory)
    (hhere : tree.resolve within = .ok here) : here.isWithin root = true := by
  obtain ⟨behind, hparts, hbehind⟩ := parts_of_mem_searchPath hwithin
  obtain ⟨rest, hrest⟩ := stepsBehind_of_missing hmissing hwithin
  rw [hrest] at hdescends hlinks
  obtain ⟨left, hfollow⟩ := FileTree.follow_behind hroot hhere hparts
  rw [← hbehind] at hfollow
  exact FileTree.isWithin_of_follow hfollow hdescends hlinks

/-- A search reads one file or none. If the directory that is searched from exists, or if the steps
to it behind the root neither lead above the root nor meet a link, then the directory of that file
is the root or lies below it. -/
theorem readConfig_stays_in_root {α : Type} (project : Project) (tree : FileTree)
    (parse : String → Except Json.Fault α) {names : List String} {directory : Path} {root : Place}
    (hnames : ∀ name ∈ names, '/' ∉ name.toList)
    (habsolute : project.root.isAbsolute = true) (hroot : tree.resolve project.root = .ok root)
    (hdirectory : (∃ place, tree.resolve directory = .ok place) ∨
      descends 0 (project.stepsBehind directory) = true ∧
        ¬tree.MeetsLink root (project.stepsBehind directory)) :
    (∃ within name here, name ∈ names ∧
        Reads tree parse (within.join ⟨name⟩) (project.readConfig tree parse names directory) ∧
        tree.resolve within = .ok here ∧ here.isWithin root = true) ∨
      (∀ file ∈ project.candidates tree names directory, tree.isFile file = false) ∧
        project.readConfig tree parse names directory = .ok none := by
  cases hfind : (project.candidates tree names directory).find? tree.isFile with
  | none =>
    have hnone : project.readConfig tree parse names directory = .ok none := by
      rw [readConfig, hfind]
    exact .inr ⟨(readConfig_eq_none project tree parse names directory).1 hnone, hnone⟩
  | some file =>
    obtain ⟨within, hwithin, name, hname, rfl, hfile⟩ := exists_of_find?_candidates hfind
    have hstarts := project.searchPath_within tree directory within hwithin
    have hslash : within.isAbsolute = true := by
      unfold Path.startsWith at hstarts
      rw [Bool.and_eq_true, beq_iff_eq] at hstarts
      rw [hstarts.1, habsolute]
    -- The directory of a file that is there resolves, and that it does so inside is known in both
    -- cases.
    obtain ⟨here, hhere⟩ := exists_resolve_of_isFile_join (hnames name hname) hslash hfile
    refine .inl ⟨within, name, here, hname, ?_, hhere, ?_⟩
    · rw [readConfig, hfind]
      exact reads_readWith tree parse _
    · cases hplace : tree.resolve directory with
      | ok place => exact isWithin_of_existing hplace hroot hwithin hhere
      | error problem =>
        rcases hdirectory with ⟨place, hexists⟩ | ⟨hdescends, hlinks⟩
        · nomatch hexists.symm.trans hplace
        · exact isWithin_of_missing hplace hroot hdescends hlinks hwithin hhere

/-- Where a search from a directory that is not there comes back to the root by a step up. -/
theorem readConfig_stays_in_mails :
    (∀ name ∈ ["first.json"], '/' ∉ name.toList) ∧
      mails.root.isAbsolute = true ∧ nestedFiles.resolve mails.root = .ok ["p"] ∧
      descends 0 (mails.stepsBehind ⟨"/p/shop/../gone"⟩) = true ∧
      ¬nestedFiles.MeetsLink ["p"] (mails.stepsBehind ⟨"/p/shop/../gone"⟩) ∧
      ∃ within name here, name ∈ ["first.json"] ∧
        Reads nestedFiles CompilerConfig.parse (within.join ⟨name⟩) (mails.readConfig nestedFiles
          CompilerConfig.parse ["first.json"] ⟨"/p/shop/../gone"⟩) ∧
        nestedFiles.resolve within = .ok here ∧ here.isWithin ["p"] = true := by
  have hnames : ∀ name ∈ ["first.json"], '/' ∉ name.toList := by decide +kernel
  have hroot : nestedFiles.resolve mails.root = .ok ["p"] := eq_ok_of_toOption (by decide +kernel)
  have hdescends : descends 0 (mails.stepsBehind ⟨"/p/shop/../gone"⟩) = true := by decide +kernel
  have hfree : nestedFiles.LinkFree [] := by
    refine FileTree.linkFree_put (FileTree.linkFree_put (FileTree.linkFree_put
      (FileTree.linkFree_put (FileTree.linkFree_put (FileTree.linkFree_empty []) ?_ ?_) ?_ ?_)
      ?_ ?_) ?_ ?_) ?_ ?_ <;> nofun
  have hlinks : ¬nestedFiles.MeetsLink ["p"] (mails.stepsBehind ⟨"/p/shop/../gone"⟩) := by
    rintro ⟨_, _, _, target, -, hlink⟩
    exact FileTree.node?_ne_link hfree _ target hlink
  refine ⟨hnames, rfl, hroot, hdescends, hlinks, ?_⟩
  rcases readConfig_stays_in_root mails nestedFiles CompilerConfig.parse hnames rfl hroot
    (.inr ⟨hdescends, hlinks⟩) with hread | ⟨hnone, -⟩
  · exact hread
  · have hfile : nestedFiles.isFile ⟨"/p/shop/../first.json"⟩ = true := by decide +kernel
    have hmissing := hnone ⟨"/p/shop/../first.json"⟩ (by decide +kernel)
    exact absurd (hfile.symm.trans hmissing) (by decide)

/-! ## Searches that leave the project -/

/-- A template whose source would be in a directory next to the project, if that were there. -/
def stray : Template := ⟨"o", "offer", "../shared/gone/offer", some "en", none, []⟩

/-- A project next to a directory with translations, and a link from the one into the other. -/
def sharedFiles : FileTree := ⟨[
  (["p"], .directory),
  (["p", "link"], .link ⟨"/shared"⟩),
  (["shared"], .directory),
  (["shared", "translations.json"],
    .file "\x7b\"en\":\x7b\"subject\":\"S\"\x7d\x7d".toUTF8 false)]⟩

/-- The translations of the project's neighbour. -/
def sharedTranslations : Members := [("en", .object [("subject", .string "S")])]

/-- A manifest may have a template in a directory that does not exist, with a step up in its path.
The search for its translations goes up along that path as it is written and comes through a
directory that is not in the project. A path over a link leads there too. -/
theorem readConfig_reads_above_root :
    let read := mails.readConfig sharedFiles
      (Json.readAll (Json.Cursor.plainObject Json.Cursor.depthLimit)) [Translation.fileName]
    Manifest.parse ("\x7b\"templates\":[\x7b\"id\":\"o\",\"name\":\"offer\"," ++
        "\"template\":\"../shared/gone/offer\",\"language\":\"en\"\x7d]\x7d") =
          .ok ⟨[stray], [], []⟩ ∧
      '/' ∉ Translation.fileName.toList ∧ sharedFiles.resolve mails.root = .ok ["p"] ∧
      read (mails.directoryOf stray) =
        .ok (some ⟨sharedTranslations, ⟨"/p/../shared/translations.json"⟩⟩) ∧
      sharedFiles.resolve ⟨"/p/../shared"⟩ = .ok ["shared"] ∧
      read ⟨"/p/link/gone"⟩ = .ok (some ⟨sharedTranslations, ⟨"/p/link/translations.json"⟩⟩) ∧
      sharedFiles.resolve ⟨"/p/link"⟩ = .ok ["shared"] ∧
      Place.isWithin ["shared"] ["p"] = false := by
  intro read
  have hread : ∀ directory file,
      (mails.candidates sharedFiles [Translation.fileName] directory).find? sharedFiles.isFile =
        some file →
      (readWith sharedFiles (Json.readAll (Json.Cursor.plainObject Json.Cursor.depthLimit))
        file).toOption = some sharedTranslations →
      read directory = .ok (some ⟨sharedTranslations, file⟩) := by
    intro directory file hfind hvalue
    show readConfig .. = _
    rw [readConfig, hfind]
    dsimp only
    rw [eq_ok_of_toOption hvalue]
    rfl
  refine ⟨eq_ok_of_toOption (by decide +kernel), by decide +kernel,
    eq_ok_of_toOption (by decide +kernel), ?_, eq_ok_of_toOption (by decide +kernel), ?_,
    eq_ok_of_toOption (by decide +kernel), by decide +kernel⟩
  · exact hread _ _ (by decide +kernel) (by decide +kernel)
  · exact hread _ _ (by decide +kernel) (by decide +kernel)

end Project

end MailTemplates
