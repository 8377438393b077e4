import MailTemplates.Proofs.Project.Confining
import MailTemplates.Stage.SampleData
/-!
# Where sample data is read

Sample data is searched for in the directory of a template and those above it, up to the root of the
project. Each candidate is a name in one of these directories. The names after the source document
and the common one have no slashes, so such a file lies in the directory itself. But the first
candidate is named after the template, and a template may be named freely. A name that never leads
above the directory it is seen from keeps to the project (`isWithin_of_descends`); one with a step
up, or one that starts at the root of the file tree, may lead anywhere
(`context_reads_outside_root`).

Where a file lies is read off its path here (`Path.lexical`): `.` stays, `..` goes up, and links are
not looked at.

Main statement: `context_reads_in_root`.
-/

namespace MailTemplates

namespace Path

/-- Where a path leads as it is written, if no link is on the way. -/
def lexical (p : Path) : Place := Place.after [] p.moves

/-- Joining a relative path appends its moves. -/
theorem moves_join (p : Path) {q : Path} (hq : q.isAbsolute = false) :
    (p.join q).moves = p.moves ++ q.moves := by
  unfold moves
  rw [parts_join p hq, List.map_append]

/-- The stem of a path's last name has no slash. -/
theorem not_mem_of_fileStem {p : Path} {stem : String} (h : p.fileStem = some stem) :
    '/' ∉ stem.toList := by
  unfold fileStem at h
  obtain ⟨name, hname, rfl⟩ := Option.map_eq_some_iff.1 h
  have hslash : '/' ∉ name := by
    unfold fileName at hname
    split at hname
    · nomatch hname
    · next part hlast =>
      split at hname
      · nomatch hname
      · cases hname
        have hmem := (List.mem_filter.1 (List.mem_of_getLast? hlast)).1
        rw [written_eq] at hmem
        exact Text.not_mem_of_mem_splitAt hmem
  rw [String.toList_ofList]
  split
  · exact hslash
  · intro hmem
    have hdrop := (List.drop_sublist _ _).subset (List.mem_reverse.1 hmem)
    exact hslash (List.mem_reverse.1 ((List.dropWhile_sublist _).subset hdrop))

end Path

/-!
## Names that keep to a directory

A name leads below a directory as long as it has not gone up more often than down. Names without
slashes do so unless they are dots.
-/

/-- Whether a name, seen from a directory, never leads above that. -/
def Descending (name : String) : Prop :=
  (⟨name⟩ : Path).isAbsolute = false ∧ descends 0 (⟨name⟩ : Path).moves = true

/-- A name without a slash that is not made of dots leads down. -/
theorem descending_of_not_mem {name : String} (hslash : '/' ∉ name.toList)
    (hname : ∃ c ∈ name.toList, c ≠ '.') : Descending name := by
  obtain ⟨c, hc, hdot⟩ := hname
  have hrelative := Path.isAbsolute_eq_false_of_not_mem hslash
  obtain ⟨hidle, hup⟩ := Path.idle_of_mem hc hdot
  refine ⟨hrelative, ?_⟩
  rw [Path.moves, Path.parts, Path.written_of_not_isAbsolute hrelative,
    Text.splitAt_of_not_mem hslash, List.filter_cons_of_pos (by simp [hidle]), List.filter_nil,
    List.map_singleton, Path.stepOf_of_named hidle hup]
  rfl

namespace Project

variable {project : Project} {tree : FileTree} {directory within : Path}

/-- A file lies in the root if the steps to it behind the root never lead above that. -/
theorem isWithin_of_descends {name : String}
    (hwithin : within ∈ project.searchPath tree directory)
    (hrelative : (⟨name⟩ : Path).isAbsolute = false)
    (hdescends : descends 0 (project.stepsBehind within ++ (⟨name⟩ : Path).moves) = true) :
    (within.join ⟨name⟩).lexical.isWithin project.root.lexical = true := by
  obtain ⟨behind, hparts, hbehind⟩ := parts_of_mem_searchPath hwithin
  have hmoves : (within.join ⟨name⟩).moves =
      project.root.moves ++ (project.stepsBehind within ++ (⟨name⟩ : Path).moves) := by
    rw [Path.moves_join within hrelative, hbehind, Path.moves, hparts, List.map_append,
      List.append_assoc]
    rfl
  rw [Path.lexical, Path.lexical, hmoves, Place.after_append]
  have hinside := @isWithin_after_of_descends (Place.after [] project.root.moves)
    (project.stepsBehind within ++ (⟨name⟩ : Path).moves) []
  rw [List.append_nil] at hinside
  exact hinside hdescends

/-- The directories of a search are below the root, as they are written, if the search starts from a
directory that exists, or from one that is written without steps above the root. -/
theorem descends_stepsBehind
    (hdirectory : (∃ place, tree.resolve directory = .ok place) ∨
      descends 0 (project.stepsBehind directory) = true)
    (hwithin : within ∈ project.searchPath tree directory) :
    descends 0 (project.stepsBehind within) = true := by
  cases hplace : tree.resolve directory with
  | ok place =>
    -- The directory exists, so those above it are canonical and go down by their names alone.
    rw [searchPath_eq hplace] at hwithin
    obtain ⟨level, hlevel, rfl⟩ := List.mem_map.1 hwithin
    have hmem := (List.takeWhile_prefix _).subset hlevel
    unfold Place.upwards at hmem
    obtain ⟨n, -, rfl⟩ := List.mem_map.1 hmem
    have hplaceProper := FileTree.proper_of_resolve hplace
    have hproper := hplaceProper.of_prefix (List.take_prefix (place.length - n) place)
    have hsteps : project.stepsBehind (Place.path (place.take (place.length - n))) =
        ((place.take (place.length - n)).drop project.root.parts.length).map .into := by
      unfold stepsBehind
      rw [Path.parts_path hproper, ← List.map_drop, List.map_map]
      exact List.map_congr_left fun name hname => (hproper name (List.mem_of_mem_drop hname)).2
    rw [hsteps]
    exact descends_map_into 0 (fun name => name) _
  | error problem =>
    -- It does not, so the steps to those above are the first ones of its own.
    have hdescends := hdirectory.resolve_left fun ⟨_, hexists⟩ => nomatch hexists.symm.trans hplace
    obtain ⟨rest, hrest⟩ := stepsBehind_of_missing hplace hwithin
    rw [hrest] at hdescends
    exact descends_of_append hdescends

end Project

namespace SampleData

/-- The name of the first candidate. -/
def ownName (template : Template) : String := template.name ++ ".json"

/-- So does every such stem with its ending. -/
theorem descending_json {stem : String} (h : '/' ∉ stem.toList) :
    Descending (stem ++ ".json") := by
  refine descending_of_not_mem ?_ ⟨'j', ?_, by decide⟩
  · rw [String.toList_append, List.mem_append, not_or]
    exact ⟨h, by decide⟩
  · rw [String.toList_append]
    exact List.mem_append_right _ (by decide)

/-- The other candidates are plain names. -/
theorem descending_of_mem_names {template : Template} {name : String}
    (hname : name ∈ names template) (hother : name ≠ ownName template) : Descending name := by
  unfold names at hname
  dsimp only at hname
  rw [List.mem_cons, List.mem_cons, List.mem_singleton] at hname
  rcases hname with hown | hdocument | hcommon
  · exact absurd hown hother
  · split at hdocument
    · next stem hstem =>
      rw [hdocument]
      exact descending_json (Path.not_mem_of_fileStem hstem)
    · exact absurd hdocument hother
  · rw [hcommon]
    exact descending_of_not_mem (by decide) ⟨'d', by decide, by decide⟩

/-- What the tags of a template see is made from one file or from none. If the search starts from a
directory that exists, or from one that is written without steps above the root, then that file lies
in the root of the project or below it, as its path is written, unless it is the one named after the
template and that name leads up or starts at the root of the file tree. Even then it does so if the
steps up are fewer than those from the root to the directory it is seen from. -/
theorem context_reads_in_root (project : Project) (tree : FileTree) {template : Template}
    (hdirectory : (∃ place, tree.resolve (project.directoryOf template) = .ok place) ∨
      descends 0 (project.stepsBehind (project.directoryOf template)) = true) :
    (∃ within ∈ project.searchPath tree (project.directoryOf template),
      ∃ name ∈ names template, ∃ found,
        Reads tree Json.parse (within.join ⟨name⟩) found ∧
        context tree project template =
          found.map (fun c => .object (template.members.overlay (membersOf c))) ∧
        (Descending name ∨ name ≠ ownName template →
          (within.join ⟨name⟩).lexical.isWithin project.root.lexical = true) ∧
        ((⟨name⟩ : Path).isAbsolute = false →
          descends 0 (project.stepsBehind within ++ (⟨name⟩ : Path).moves) = true →
          (within.join ⟨name⟩).lexical.isWithin project.root.lexical = true)) ∨
      (∀ file ∈ project.candidates tree (names template) (project.directoryOf template),
        tree.isFile file = false) ∧
        context tree project template = .ok (.object (template.members.overlay [])) := by
  cases hfind : (project.candidates tree (names template)
      (project.directoryOf template)).find? tree.isFile with
  | none =>
    have hnone : project.readConfig tree Json.parse (names template)
        (project.directoryOf template) = .ok none := by
      rw [Project.readConfig, hfind]
    refine .inr ⟨(Project.readConfig_eq_none ..).1 hnone, ?_⟩
    rw [context, hnone]
    rfl
  | some file =>
    obtain ⟨within, hwithin, name, hname, rfl, -⟩ :=
      Project.exists_of_find?_candidates hfind
    refine .inl ⟨within, hwithin, name, hname, _, reads_readWith tree Json.parse _, ?_, ?_,
      fun hrelative => Project.isWithin_of_descends hwithin hrelative⟩
    · rw [context, Project.readConfig, hfind]
    · intro hcase
      -- Only the first candidate has a name that the template gives it.
      obtain ⟨hrelative, hdescends⟩ : Descending name := by
        by_cases hown : name = ownName template
        · exact hcase.resolve_right fun hother => hother hown
        · exact descending_of_mem_names hname hown
      exact Project.isWithin_of_descends hwithin hrelative
        (descends_append (Project.descends_stepsBehind hdirectory hwithin) hdescends)

/-- A template that is named with a directory, with sample data in that. -/
def offer : Template := ⟨"o", "shop/offer", "mails/page", none, none, []⟩

def offerFiles : FileTree := ⟨[
  (["p"], .directory),
  (["p", "mails"], .directory),
  (["p", "shop"], .directory),
  (["p", "shop", "offer.json"], .file "\x7b\"user\":\"Ada\"\x7d".toUTF8 false)]⟩

/-- An offer with a plain name: what is read for it is in the root. -/
theorem context_reads_in_root_offer :
    offerFiles.resolve (Project.mails.directoryOf offer) = .ok ["p", "mails"] ∧
      Descending (ownName offer) ∧
      ∃ (within : Path) (name : String) (found : _), name ∈ names offer ∧
        Reads offerFiles Json.parse (within.join ⟨name⟩) found ∧
        context offerFiles Project.mails offer =
          found.map (fun c => .object (offer.members.overlay (membersOf c))) ∧
        (within.join ⟨name⟩).lexical.isWithin Project.mails.root.lexical = true := by
  have hplace : offerFiles.resolve (Project.mails.directoryOf offer) = .ok ["p", "mails"] :=
    eq_ok_of_toOption (by decide +kernel)
  have hown : Descending (ownName offer) := ⟨by decide +kernel, by decide +kernel⟩
  refine ⟨hplace, hown, ?_⟩
  rcases context_reads_in_root Project.mails offerFiles (.inl ⟨_, hplace⟩) with
    ⟨within, -, name, hname, found, hreads, hcontext, hinside, -⟩ | ⟨hnone, -⟩
  · refine ⟨within, name, found, hname, hreads, hcontext, hinside ?_⟩
    by_cases hcase : name = ownName offer
    · exact .inl (hcase ▸ hown)
    · exact .inr hcase
  · have hfile : offerFiles.isFile ⟨"/p/shop/offer.json"⟩ = true := by decide +kernel
    have hmissing := hnone ⟨"/p/shop/offer.json"⟩ (by decide +kernel)
    exact absurd (hfile.symm.trans hmissing) (by decide)

/-! ## Names that leave the project -/

/-- A template that is named with a step up. -/
def prying : Template := ⟨"s", "../secret", "page", none, none, []⟩

/-- A template that is named from the root of the file tree. -/
def rooted : Template := ⟨"r", "/secret", "page", none, none, []⟩

/-- A project without any files next to one with sample data. -/
def secretFiles : FileTree := ⟨[
  (["p"], .directory),
  (["secret.json"], .file "\x7b\"user\":\"Ada\"\x7d".toUTF8 false)]⟩

/-- The sample data of the project's neighbour. -/
def secret : Members := [("user", .string "Ada")]

/-- A manifest may have templates that are named like this, and both are in the directory of the
project. Still their tags see what a file above the project says. -/
theorem context_reads_outside_root :
    Manifest.parse ("\x7b\"templates\":[" ++
        "\x7b\"id\":\"s\",\"name\":\"../secret\",\"template\":\"page\"\x7d," ++
        "\x7b\"id\":\"r\",\"name\":\"/secret\",\"template\":\"page\"\x7d]\x7d") =
          .ok ⟨[prying, rooted], [], []⟩ ∧
      Place.isWithin ["secret.json"] Project.mails.root.lexical = false ∧
      ∀ named ∈ [(prying, (⟨"/p/../secret.json"⟩ : Path)), (rooted, ⟨"/secret.json"⟩)],
        secretFiles.resolve (Project.mails.directoryOf named.1) = .ok ["p"] ∧
        Project.mails.readConfig secretFiles Json.parse (names named.1)
          (Project.mails.directoryOf named.1) = .ok (some ⟨.object secret, named.2⟩) ∧
        named.2.lexical = ["secret.json"] ∧
        context secretFiles Project.mails named.1 =
          .ok (.object (named.1.members.overlay secret)) := by
  refine ⟨eq_ok_of_toOption (by decide +kernel), by decide +kernel, ?_⟩
  have hcontext : ∀ template file,
      Project.mails.readConfig secretFiles Json.parse (names template)
        (Project.mails.directoryOf template) = .ok (some ⟨.object secret, file⟩) →
      context secretFiles Project.mails template =
        .ok (.object (template.members.overlay secret)) := by
    intro template file hread
    rw [context, hread]
    rfl
  have hvalue : ∀ file, (readWith secretFiles Json.parse file).toOption = some (.object secret) →
      readWith secretFiles Json.parse file = .ok (.object secret) := fun _ => eq_ok_of_toOption
  rw [List.forall_mem_cons, List.forall_mem_singleton]
  constructor
  · have hread : Project.mails.readConfig secretFiles Json.parse (names prying)
        (Project.mails.directoryOf prying) = .ok (some ⟨.object secret, ⟨"/p/../secret.json"⟩⟩) :=
      Project.readConfig_of_find? (by decide +kernel) (hvalue _ (by decide +kernel))
    exact ⟨eq_ok_of_toOption (by decide +kernel), hread, by decide +kernel, hcontext _ _ hread⟩
  · have hread : Project.mails.readConfig secretFiles Json.parse (names rooted)
        (Project.mails.directoryOf rooted) = .ok (some ⟨.object secret, ⟨"/secret.json"⟩⟩) :=
      Project.readConfig_of_find? (by decide +kernel) (hvalue _ (by decide +kernel))
    exact ⟨eq_ok_of_toOption (by decide +kernel), hread, by decide +kernel, hcontext _ _ hread⟩

end SampleData

end MailTemplates
