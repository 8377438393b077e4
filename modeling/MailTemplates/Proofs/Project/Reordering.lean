import MailTemplates.Proofs.Project.Loading
import MailTemplates.Proofs.Stage.Sparing
import MailTemplates.Proofs.Sync.UpdateSet
/-!
# The order of the entries in a manifest

A manifest may list its templates in any order: a loaded project has them in the order of their
names. Two trees that differ in the order alone of the entries in their manifests (`Reordered`) load
the same project, and so every run on it comes to the same, in the one tree as in the other, as long
as nothing that is read on the way is the manifest itself. What building leaves behind it reads
again for the next template, so what it must not read is said of the tree as it is by then
(`Build.Spares`); then every step of the loop leaves such trees again (`Build.buildAll_agree`).
Synchronising leaves the tree alone, and reads what it reads in the one it starts from.

Without that condition it is not so: the page of a template whose source is the manifest shows the
order of the entries (`LoadedProject.mirror_shows_order`).

The two trees are taken through a run side by side. What is read on the way gives the same in both,
by the modules on revised files and on stages that spare a file. What is written leaves two trees
that again differ in the manifest only, by `FileTree.Revised.writeText_cases`. Since every step
gives the same result, failures among them, an induction over the templates takes this to the whole
loop, and the condition `Spares` is peeled off in the same way (`Spares.head`, `Spares.tail`).

For loading the order of the entries is all that differs, and sorting by distinct names forgets it.

Main statement: `LoadedProject.load_forgets_order`.
-/

namespace MailTemplates

open FileTree (Agree)

variable {first second : FileTree} {q : Place}

/-!
## Loading

Of all that is read to load a project, the manifest is the one file that differs, and what is read
from it differs in the order of its entries only.
-/

/-- The root is found by what is a file, whatever is in the files. -/
theorem findRoot_of_revised (h : first.Revised second q) (directory : Path) :
    findRoot first directory = findRoot second directory := by
  have hisFile : first.isFile = second.isFile := funext h.isFile_eq
  unfold findRoot
  rw [h.canonical_eq, hisFile]

/-- A file that is not the revised one is read alike. -/
theorem readWith_of_revised {α : Type} (h : first.Revised second q)
    (parse : String → Except Json.Fault α) {file : Path} (hfile : first.Misses q file) :
    readWith first parse file = readWith second parse file := by
  unfold readWith
  rw [h.readText_eq hfile]

namespace LoadedProject

/-- What is read when a project is loaded, apart from its manifest: its descriptor, and where the
configuration of its compiler is searched for. -/
def reads (tree : FileTree) (project : Project) : List Path :=
  project.root.join ⟨Package.fileName⟩ :: project.probes tree [CompilerConfig.fileName] project.root

/-- What a project reads depends on its root only. -/
theorem reads_congr (tree : FileTree) {project : Project} (project' : Project)
    (h : project.root = project'.root) : reads tree project = reads tree project' := by
  unfold reads Project.probes Project.candidates Project.searchPath
  rw [h]

/-- Whether two trees differ in nothing but a file, and the manifest of a project lists the same
templates in both, of distinct names, but perhaps in another order. -/
structure Reordered (first second : FileTree) (directory root : Path) (q : Place) : Prop where
  revised : first.Revised second q
  found : findRoot first directory = .ok root
  manifests : ∃ old new, readManifest first (root.join ⟨manifestName⟩) = .ok old ∧
    readManifest second (root.join ⟨manifestName⟩) = .ok new ∧
    old.templates.Perm new.templates ∧ (old.templates.map Template.name).Nodup ∧
    old.preprocessors = new.preprocessors ∧ old.postprocessors = new.postprocessors

/-- The compiler is configured alike if no candidate is the revised file. -/
theorem configure_of_revised (h : first.Revised second q) {project : Project}
    (hprobes : ∀ p ∈ project.probes first [CompilerConfig.fileName] project.root,
      first.Misses q p) : configure first project = configure second project := by
  rw [configure_eq_map, configure_eq_map, Project.readConfig_of_alike _
    (Project.searchPath_of_revised h _) fun p hp => FileTree.alike_of_misses h (hprobes p hp)]

/-- The order of the templates in the manifest makes no difference to loading. -/
theorem load_of_reordered {directory root : Path} (h : Reordered first second directory root q)
    (hapart : ∀ project : Project, project.root = root → ∀ p ∈ reads first project,
      first.Misses q p) (registry : Registry) (mode : Mode) :
    load first registry mode directory = load second registry mode directory := by
  obtain ⟨hrevised, hroot, old, new, hold, hnew, hperm, hdistinct, hpre, hpost⟩ := h
  have hroot' : findRoot second directory = .ok root := by
    rw [← findRoot_of_revised hrevised, hroot]
  have hdescriptor : first.Misses q (root.join ⟨Package.fileName⟩) :=
    hapart (described mode root ⟨none, none, []⟩ old) rfl _ List.mem_cons_self
  have hread := readWith_of_revised hrevised Package.parse hdescriptor
  have hdescribed : ∀ package,
      described mode root package old = described mode root package new := fun package => by
    unfold described
    rw [sortTemplates_eq_of_perm hperm hdistinct]
  cases hpackage : readWith first Package.parse (root.join ⟨Package.fileName⟩) with
  | error failure =>
    -- The descriptor is read before the manifest, so loading comes no further.
    have hpackage' := hread.symm.trans hpackage
    have hfail : ∀ tree, findRoot tree directory = .ok root →
        readWith tree Package.parse (root.join ⟨Package.fileName⟩) = .error failure →
          load tree registry mode directory = .error failure := by
      intro tree hfound hpackage
      show (findRoot tree directory).bind _ = _
      rw [hfound, ok_bind]
      show (readWith tree Package.parse _).bind _ = _
      rw [hpackage, error_bind]
    rw [hfail first hroot hpackage, hfail second hroot' hpackage']
  | ok package =>
    rw [load_eq_of_manifest hroot hpackage hold,
      load_eq_of_manifest hroot' (hread.symm.trans hpackage) hnew, ← hpre, ← hpost,
      ← hdescribed, configure_of_revised hrevised fun p hp =>
        hapart (described mode root package old) rfl p (List.mem_cons_of_mem _ hp)]

end LoadedProject

/-!
## Building

A build writes as it goes on, so the condition that the manifest is not read has to be about each of
the trees that it comes through.
-/

namespace Build

variable {project : LoadedProject} {pre post : List Reader} {compiler : Compiler}
  {template : Template} {templates : List Template}

/-- What is read to build a template: the translations for its subject, and what its pipeline
reads. -/
def inputs (pre post : List Reader) (tree : FileTree) (project : LoadedProject)
    (compiler : Compiler) (template : Template) : List Path :=
  Translation.reads tree project.toProject template ++
    Pipeline.inputs pre post tree project compiler template

/-- Whether a file is not read for any template that a build comes to, as the tree is by then. -/
def Spares (q : Place) (pre post : List Reader) (project : LoadedProject) (compiler : Compiler)
    (tree : FileTree) (templates : List Template) : Prop :=
  ∀ (outputs : List Output) (template : Template) (later : List Template) (reached : FileTree),
    templates = outputs.map Output.template ++ template :: later →
      Progress project compiler project.components tree outputs reached →
        ∀ p ∈ inputs pre post reached project compiler template, reached.Misses q p

theorem Spares.nil : Spares q pre post project compiler first [] := by
  intro outputs template later reached htemplates
  exact absurd htemplates (by simp)

/-- A build spares a file if the first template does and, after it is written, the others do. -/
theorem Spares.cons (hhead : ∀ p ∈ inputs pre post first project compiler template,
      first.Misses q p)
    (htail : ∀ (output : Output) (after : FileTree), output.template = template →
      make first project compiler project.components template = .ok (output.subject, output.page) →
        first.writeAll (output.files project.toProject) = .ok after →
          Spares q pre post project compiler after templates) :
    Spares q pre post project compiler first (template :: templates) := by
  intro outputs reached later last htemplates hprogress
  cases hprogress with
  | start =>
    obtain ⟨rfl, rfl⟩ := List.cons.inj htemplates
    exact hhead
  | @next _ after _ output outputs hsubject hpage hwrite hrest =>
    obtain ⟨rfl, rfl⟩ := List.cons.inj htemplates
    exact htail output after rfl (make_eq_ok_iff.2 ⟨hsubject, hpage⟩) hwrite outputs reached later
      last rfl hrest

/-- The inputs of the first template are other files. -/
theorem Spares.head (h : Spares q pre post project compiler first (template :: templates)) :
    ∀ p ∈ inputs pre post first project compiler template, first.Misses q p :=
  h [] template templates first rfl (.start first)

/-- So are those of the others, once the first is written. -/
theorem Spares.tail {output : Output} {after : FileTree}
    (h : Spares q pre post project compiler first (output.template :: templates))
    (hmake : make first project compiler project.components output.template =
      .ok (output.subject, output.page))
    (hwrite : first.writeAll (output.files project.toProject) = .ok after) :
    Spares q pre post project compiler after templates := by
  rintro outputs template later reached rfl hprogress
  exact h (output :: outputs) template later reached rfl (.of_make hmake hwrite hprogress)

/-- A file is written with the same result in both trees. -/
theorem writeFile_agree (h : first.Revised second q) (path : Path) (content : String) :
    Agree q (writeFile first path content) (writeFile second path content) := by
  unfold writeFile
  rcases h.writeText_cases path content with ⟨problem, hfirst, hsecond⟩ | ⟨after, after', hfirst,
    hsecond, hafter⟩
  · rw [hfirst, hsecond]
    exact ⟨rfl, h⟩
  · rw [hfirst, hsecond]
    exact ⟨rfl, hafter⟩

/-- So are the page and the subject of a template. -/
theorem store_agree (h : first.Revised second q) (root : Project) (template : Template)
    (subject page : String) :
    Agree q (store first root template subject page) (store second root template subject page) := by
  unfold store
  obtain ⟨after, after', result, hrun, hrun', hafter⟩ :=
    (writeFile_agree h (Artifact.pagePath root template) page).exists_eq
  dsimp only
  rw [hrun, hrun']
  cases result with
  | error halt => exact ⟨rfl, hafter⟩
  | ok done =>
    obtain ⟨last, last', result, hlast, hlast', hrevised⟩ :=
      (writeFile_agree hafter (Artifact.subjectPath root template) subject).exists_eq
    dsimp only
    rw [hlast, hlast']
    cases result with
    | error halt => exact ⟨rfl, hrevised⟩
    | ok done => exact ⟨rfl, hrevised⟩

section Readers

variable (hpre : project.preprocessors = pre.map Reader.stage)
  (hpost : project.postprocessors = post.map Reader.stage)
  (hexact : ∀ reader ∈ pre ++ post, reader.Exact)
include hpre hpost hexact

/-- A template is made alike if none of its inputs is the revised file. -/
theorem make_of_revised (h : first.Revised second q)
    (hinputs : ∀ p ∈ inputs pre post first project compiler template, first.Misses q p) :
    make first project compiler project.components template =
      make second project compiler project.components template := by
  obtain ⟨hsubject, hpage⟩ := List.forall_mem_append.1 hinputs
  have hsame := Pipeline.pageOf_of_revised h hpre hpost hexact hpage
  unfold Sync.pageOf at hsame
  rw [make_eq, make_eq, Translation.subject_of_revised h hsubject, hsame]

/-- It is built alike, too: made and then written. -/
theorem buildOne_agree (h : first.Revised second q)
    (hinputs : ∀ p ∈ inputs pre post first project compiler template, first.Misses q p) :
    Agree q (buildOne project compiler project.components first template)
      (buildOne project compiler project.components second template) := by
  unfold buildOne
  rw [make_of_revised hpre hpost hexact h hinputs]
  cases make second project compiler project.components template with
  | error halt => exact ⟨rfl, h⟩
  | ok made => exact store_agree h _ _ _ _

/-- A build in two such trees comes to the same if it does not read the file in the one. -/
theorem buildAll_agree (h : first.Revised second q)
    (hspares : Spares q pre post project compiler first templates) :
    Agree q (buildAll project compiler project.components first templates)
      (buildAll project compiler project.components second templates) := by
  induction templates generalizing first second with
  | nil => exact ⟨rfl, h⟩
  | cons template templates ih =>
    unfold buildAll
    obtain ⟨after, after', result, hone, hone', hafter⟩ :=
      (buildOne_agree hpre hpost hexact h hspares.head).exists_eq
    rw [hone, hone']
    cases result with
    | error halt => exact ⟨rfl, hafter⟩
    | ok built =>
      -- What is read next is read from what this template has left.
      obtain ⟨output, rfl, -, hmake, hwrite⟩ := output_of_buildOne hone
      obtain ⟨final, final', result, hall, hall', hfinal⟩ :=
        (ih hafter (hspares.tail hmake hwrite)).exists_eq
      dsimp only
      rw [hall, hall']
      cases result with
      | error halt => exact ⟨rfl, hfinal⟩
      | ok more => exact ⟨rfl, hfinal⟩

end Readers

end Build

/-- The output directory is ensured alike. -/
theorem ensureDirectory_agree (h : first.Revised second q) (project : Project) (name : String) :
    Agree q (ensureDirectory first project name) (ensureDirectory second project name) := by
  unfold ensureDirectory Project.contains
  dsimp only
  rw [h.pathExists_eq]
  split
  · exact ⟨rfl, h⟩
  · obtain ⟨made, made', result, hmade, hmade', hrevised⟩ :=
      (h.makeDirectories_agree (project.resolve name)).exists_eq
    rw [hmade, hmade']
    cases result with
    | error problem => exact ⟨rfl, hrevised⟩
    | ok done => exact ⟨rfl, hrevised⟩

theorem Components.load_of_revised (h : first.Revised second q) (project : Project) :
    load first project = load second project := by
  have hisFile : first.isFile = second.isFile := funext h.isFile_eq
  unfold load
  rw [hisFile]

section Runs

variable {project : LoadedProject} {pre post : List Reader} {compiler : Compiler}
  (h : first.Revised second q) (hpre : project.preprocessors = pre.map Reader.stage)
  (hpost : project.postprocessors = post.map Reader.stage)
  (hexact : ∀ reader ∈ pre ++ post, reader.Exact)
include h hpre hpost hexact

/-- A whole build agrees if it spares the revised file, on the tree that has the output directory.
-/
theorem build_agree
    (hspares : Build.Spares q pre post project compiler
      (ensureDirectory first project.toProject Artifact.directoryName).1 project.templates) :
    Agree q (build first project compiler) (build second project compiler) := by
  unfold build
  rw [Components.load_of_revised h]
  cases hload : Components.load second project.toProject with
  | error failure => exact ⟨rfl, h⟩
  | ok components =>
    obtain ⟨rfl, -⟩ := (Components.load_eq_ok_iff ..).1 hload
    obtain ⟨made, made', result, hmade, hmade', hrevised⟩ :=
      (ensureDirectory_agree h project.toProject Artifact.directoryName).exists_eq
    dsimp only
    rw [hmade] at hspares
    rw [hmade, hmade']
    cases result with
    | error failure => exact ⟨rfl, hrevised⟩
    | ok directory => exact Build.buildAll_agree hpre hpost hexact hrevised hspares

end Runs

/-!
## Synchronising

A synchronisation reads one tree from beginning to end, so here the condition is about that.
-/

namespace Sync

variable {project : LoadedProject} {pre post : List Reader} {compiler : Compiler} {S : Type}
  (h : first.Revised second q) (hpre : project.preprocessors = pre.map Reader.stage)
  (hpost : project.postprocessors = post.map Reader.stage)
  (hexact : ∀ reader ∈ pre ++ post, reader.Exact)
  (hinputs : ∀ t ∈ project.templates,
    ∀ p ∈ Pipeline.inputs pre post first project compiler t, first.Misses q p)
include h hpre hpost hexact hinputs

/-- Collecting in two such trees does the same if it does not read the file in the one. -/
theorem collect_of_revised (schedule : Schedule) (store : Store S) (s : S) :
    collect schedule first project compiler store s =
      collect schedule second project compiler store s := by
  have hwork : ∀ job ∈ jobs project.templates,
      worker store (pageOf first project compiler) job =
        worker store (pageOf second project compiler) job := by
    intro job hjob
    obtain ⟨t, ht, hmem⟩ := List.mem_flatMap.1 hjob
    rcases List.mem_cons.1 hmem with rfl | hfetch
    · have hpage := Pipeline.pageOf_of_revised h hpre hpost hexact (hinputs t ht)
      simp only [worker, hpage]
    · rw [List.mem_singleton.1 hfetch]
      rfl
  have hjobs := List.map_congr_left hwork
  unfold collect
  rw [Components.load_of_revised h]
  cases hload : Components.load second project.toProject with
  | error failure => rfl
  | ok components =>
    obtain ⟨rfl, -⟩ := (Components.load_eq_ok_iff ..).1 hload
    unfold pageOf at hjobs
    dsimp only
    rw [hjobs]

/-- So does a synchronisation, of which only the collecting sees the tree. -/
theorem sync_of_revised (schedule : Schedule) (store : Store S) (version : String) (dryRun : Bool)
    (s : S) :
    sync schedule first project compiler store version dryRun s =
      sync schedule second project compiler store version dryRun s := by
  unfold sync
  rw [collect_of_revised h hpre hpost hexact hinputs]

end Sync

/-! ## Manifests that differ in their order -/

namespace LoadedProject

/-- The templates of a loaded project are those of its manifest, ordered by name, and those of one
name as in the manifest. Two manifests with the same templates of distinct names give the same
list. If what differs in the two trees is in one file, and nothing else that is read leads there,
then loading gives the same altogether, and building and synchronising the project come to the same,
failures included. -/
theorem load_forgets_order :
    (∀ (tree : FileTree) (registry : Registry) (mode : Mode) (directory : Path)
      (project : LoadedProject), load tree registry mode directory = .ok project →
        ∃ content manifest, tree.readText (project.root.join ⟨manifestName⟩) = .ok content ∧
          Manifest.parse content = .ok manifest ∧
          project.templates.Perm manifest.templates ∧
          (project.templates.Pairwise fun a b => ¬ Precedes b.name a.name) ∧
          ∀ name, project.templates.filter (·.name == name) =
            manifest.templates.filter (·.name == name)) ∧
    ∀ (first second : FileTree) (directory root : Path) (q : Place),
      Reordered first second directory root q → ∀ (registry : Registry) (mode : Mode),
      (∀ project project', load first registry mode directory = .ok project →
        load second registry mode directory = .ok project' →
          project.templates = project'.templates) ∧
      ((∀ project : Project, project.root = root →
          ∀ p ∈ reads first project, first.Misses q p) →
        load first registry mode directory = load second registry mode directory ∧
        ∀ project, load first registry mode directory = .ok project →
        ∀ pre post : List Reader, project.preprocessors = pre.map Reader.stage →
          project.postprocessors = post.map Reader.stage →
          (∀ reader ∈ pre ++ post, reader.Exact) →
        ∀ compiler : Compiler,
          (Build.Spares q pre post project compiler
              (ensureDirectory first project.toProject Artifact.directoryName).1
              project.templates →
            (build first project compiler).2 = (build second project compiler).2 ∧
              (build first project compiler).1.Revised (build second project compiler).1 q) ∧
          ((∀ t ∈ project.templates,
              ∀ p ∈ Pipeline.inputs pre post first project compiler t, first.Misses q p) →
            ∀ (S : Type) (schedule : Schedule) (store : Store S) (version : String)
              (dryRun : Bool) (s : S),
              sync schedule first project compiler store version dryRun s =
                sync schedule second project compiler store version dryRun s)) := by
  refine ⟨?_, ?_⟩
  · intro tree registry mode directory project hload
    obtain ⟨-, content, manifest, hread, hparse, htemplates⟩ := exists_manifest_of_load hload
    refine ⟨content, manifest, hread, hparse, ?_, ?_, fun name => ?_⟩
    · rw [htemplates]
      exact perm_sortTemplates _
    · rw [htemplates]
      exact (pairwise_sortTemplates _).imp nameLe_iff_not_precedes.1
    · rw [htemplates, filter_sortTemplates]
  · intro first second directory root q h registry mode
    refine ⟨?_, fun hapart => ⟨load_of_reordered h hapart registry mode, ?_⟩⟩
    · intro project project' hload hload'
      -- Sorting forgets the order, as the names tell the templates apart.
      obtain ⟨hrevised, hroot, old, new, hold, hnew, hperm, hdistinct, -, -⟩ := h
      have hroot' := (findRoot_of_revised hrevised directory).symm.trans hroot
      rw [templates_of_load hload hroot hold, templates_of_load hload' hroot' hnew]
      exact sortTemplates_eq_of_perm hperm hdistinct
    · intro project _ pre post hpre hpost hexact compiler
      refine ⟨?_, ?_⟩
      · intro hspares
        exact build_agree h.revised hpre hpost hexact hspares
      · intro hinputs S schedule store version dryRun s
        exact Sync.sync_of_revised h.revised hpre hpost hexact hinputs schedule store version dryRun
          s

/-! ## Two cards in either order -/

/-- The text of a manifest with some entries, and the rest of it. -/
def manifestText (entries : List String) (rest : String) : String :=
  "\x7b\"templates\":[" ++ ",".intercalate entries ++ "]" ++ rest ++ "\x7d"

/-- Some files and those that make a project of them. -/
def withManifest (files : FileTree) (text : String) : FileTree :=
  (files.put ["p", "package.json"] (.file "\x7b\x7d".toUTF8 false)).put ["p", "templates.json"]
    (.file text.toUTF8 false)

/-- Trees with different manifests differ in the manifest file only. -/
theorem revised_withManifest (files : FileTree) (old new : String) :
    (withManifest files old).Revised (withManifest files new) ["p", "templates.json"] :=
  FileTree.Revised.of_put _ (by nofun) _ _ false

/-- A second card from the source of the first. -/
def cardC : Template := ⟨"c", "c", "a", some "en", none, []⟩

/-- The entries of the two cards. -/
def cardEntries : List String :=
  ["\x7b\"id\":\"a\",\"name\":\"a\",\"template\":\"a\",\"language\":\"en\"\x7d",
    "\x7b\"id\":\"c\",\"name\":\"c\",\"template\":\"a\",\"language\":\"en\"\x7d"]

/-- Two cards, listed in both orders: the projects, builds and synchronisations are the same. -/
theorem load_forgets_order_of_cards :
    let stages := ",\"preprocessors\":[\"shout\"]"
    let first := withManifest Sync.cardFiles (manifestText cardEntries stages)
    let second := withManifest Sync.cardFiles (manifestText cardEntries.reverse stages)
    let registry := Registry.builtIn.register Sync.shout.stage
    let project := Sync.cards [Sync.cardA, cardC]
    Reordered first second ⟨"/p"⟩ ⟨"/p"⟩ ["p", "templates.json"] ∧
      load first registry .dev ⟨"/p"⟩ = .ok project ∧
      load second registry .dev ⟨"/p"⟩ = .ok project ∧
      (build first project Sync.verbatim).2.toOption.isSome = true ∧
      (build first project Sync.verbatim).2 = (build second project Sync.verbatim).2 ∧
      (sync .inOrder second project Sync.verbatim Memory.store "v" true {}).2 =
        .ok ⟨true, [Sync.cardA, cardC]⟩ := by
  intro stages first second registry project
  have hroot : findRoot first ⟨"/p"⟩ = .ok ⟨"/p"⟩ := eq_ok_of_toOption (by decide +kernel)
  have hmanifest : readManifest first (Path.join ⟨"/p"⟩ ⟨manifestName⟩) =
      .ok ⟨[Sync.cardA, cardC], ["shout"], []⟩ :=
    eq_ok_of_toOption (by decide +kernel)
  have hreordered : Reordered first second ⟨"/p"⟩ ⟨"/p"⟩ ["p", "templates.json"] :=
    ⟨revised_withManifest _ _ _, hroot, _, ⟨[cardC, Sync.cardA], ["shout"], []⟩, hmanifest,
      eq_ok_of_toOption (by decide +kernel), .swap _ _ _, by decide +kernel, rfl, rfl⟩
  obtain ⟨-, hruns⟩ := load_forgets_order
  obtain ⟨-, hapart⟩ := hruns first second _ _ _ hreordered registry .dev
  obtain ⟨hsame, hproject⟩ := hapart fun other hroot => by
    rw [reads_congr first project.toProject hroot]
    decide +kernel
  have hload : load first registry .dev ⟨"/p"⟩ = .ok project := by
    have hpackage : readWith first Package.parse (Path.join ⟨"/p"⟩ ⟨Package.fileName⟩) =
        .ok ⟨none, none, []⟩ :=
      eq_ok_of_toOption (by decide +kernel)
    have hsort : sortTemplates [Sync.cardA, cardC] = [Sync.cardA, cardC] := by
      simp [sortTemplates, List.mergeSort, nameLe, Sync.cardA, cardC]
    have hconfigure : configure first (described .dev ⟨"/p"⟩ ⟨none, none, []⟩
        ⟨[Sync.cardA, cardC], ["shout"], []⟩) = .ok project.toProject := by
      rw [described, hsort]
      exact eq_ok_of_toOption (by decide +kernel)
    exact load_eq_ok hroot hpackage hmanifest rfl rfl hconfigure
  have hexact : ∀ reader ∈ [Sync.shout] ++ [], reader.Exact := by
    intro reader hreader
    rw [List.mem_singleton.1 hreader]
    exact Reader.exact_ofPure _ fun _ _ => rfl
  obtain ⟨hbuild, hsync⟩ := hproject _ hload [Sync.shout] [] rfl rfl hexact Sync.verbatim
  refine ⟨hreordered, hload, hsame.symm.trans hload, by decide +kernel, ?_, ?_⟩
  · let made := (ensureDirectory first project.toProject Artifact.directoryName).1
    refine (hbuild ?_).1
    refine .cons (by decide +kernel) fun output after htemplate hmake hwrite => ?_
    obtain ⟨template, subject, page⟩ := output
    obtain rfl : template = Sync.cardA := htemplate
    -- There is one page that the first card can have, so one tree to go on from.
    have hmade : Build.make made project Sync.verbatim [] Sync.cardA = .ok ("S", "Hello Ann!") :=
      eq_ok_of_toOption (by decide +kernel)
    obtain ⟨rfl, rfl⟩ := Prod.mk.inj (Except.ok.inj (hmake.symm.trans hmade))
    have hafter := (eq_ok_getD (by rw [hwrite]; rfl) made).symm.trans hwrite
    rw [← Except.ok.inj hafter]
    exact .cons (by decide +kernel) fun _ _ _ _ _ => .nil
  · rw [← hsync (by decide +kernel) Memory .inOrder Memory.store "v" true {}]
    exact eq_ok_of_toOption (by decide +kernel)

/-! ## A mirror -/

/-- A template whose source is the manifest. -/
def mirror : Template := ⟨"m", "m", "templates.json", none, none, []⟩

/-- The entries of a letter and of the mirror. -/
def mirrorEntries : List String :=
  ["\x7b\"id\":\"b\",\"name\":\"b\",\"template\":\"b\"\x7d",
    "\x7b\"id\":\"m\",\"name\":\"m\",\"template\":\"templates.json\"\x7d"]

/-- The project with the letter and the mirror. -/
def mirrors : LoadedProject := { Sync.letters with templates := [Sync.letterB, mirror] }

/-- After the two entries have changed places, the mirror differs from what was published before. -/
theorem mirror_shows_order :
    let first := withManifest Sync.letterFiles (manifestText mirrorEntries "")
    let second := withManifest Sync.letterFiles (manifestText mirrorEntries.reverse "")
    let sent : Memory := { active := [("b", .ok "B"), ("m", .ok (manifestText mirrorEntries ""))] }
    Reordered first second ⟨"/p"⟩ ⟨"/p"⟩ ["p", "templates.json"] ∧
      load first .builtIn .prod ⟨"/p"⟩ = .ok mirrors ∧
      load second .builtIn .prod ⟨"/p"⟩ = .ok mirrors ∧
      (sync .inOrder first mirrors Sync.verbatim Memory.store "v" true sent).2 =
        .ok ⟨true, []⟩ ∧
      (sync .inOrder second mirrors Sync.verbatim Memory.store "v" true sent).2 =
        .ok ⟨true, [mirror]⟩ := by
  intro first second sent
  have hroot : findRoot first ⟨"/p"⟩ = .ok ⟨"/p"⟩ := eq_ok_of_toOption (by decide +kernel)
  have hmanifest : readManifest first (Path.join ⟨"/p"⟩ ⟨manifestName⟩) =
      .ok ⟨[Sync.letterB, mirror], [], []⟩ :=
    eq_ok_of_toOption (by decide +kernel)
  have hreordered : Reordered first second ⟨"/p"⟩ ⟨"/p"⟩ ["p", "templates.json"] :=
    ⟨revised_withManifest _ _ _, hroot, _, ⟨[mirror, Sync.letterB], [], []⟩, hmanifest,
      eq_ok_of_toOption (by decide +kernel), .swap _ _ _, by decide +kernel, rfl, rfl⟩
  have hsame := load_of_reordered hreordered (fun other hother => by
    rw [reads_congr first mirrors.toProject hother]
    decide +kernel) .builtIn .prod
  have hload : load first .builtIn .prod ⟨"/p"⟩ = .ok mirrors := by
    have hpackage : readWith first Package.parse (Path.join ⟨"/p"⟩ ⟨Package.fileName⟩) =
        .ok ⟨none, none, []⟩ :=
      eq_ok_of_toOption (by decide +kernel)
    have hsort : sortTemplates [Sync.letterB, mirror] = [Sync.letterB, mirror] := by
      simp [sortTemplates, List.mergeSort, nameLe, Sync.letterB, mirror]
    have hconfigure : configure first (described .prod ⟨"/p"⟩ ⟨none, none, []⟩
        ⟨[Sync.letterB, mirror], [], []⟩) = .ok mirrors.toProject := by
      rw [described, hsort]
      exact eq_ok_of_toOption (by decide +kernel)
    exact load_eq_ok hroot hpackage hmanifest rfl rfl hconfigure
  refine ⟨hreordered, hload, hsame.symm.trans hload, ?_, ?_⟩
  · exact eq_ok_of_toOption (by decide +kernel)
  · exact eq_ok_of_toOption (by decide +kernel)

end LoadedProject

end MailTemplates
