import MailTemplates.Proofs.FileTree.Directories
import MailTemplates.Proofs.FileTree.Unlinked
import MailTemplates.Proofs.Stage.Reading
import MailTemplates.Proofs.Stage.Registering
/-!
# What a published page does not depend on

A page that is built for publishing depends on the source of its template, on the files that the
directives in it name, directly or in one another, and on the translations. All else may change, be
broken or be missing, and the page is the same, and so is the failure if there is none; sample data
is such a thing, which counts for previews only.

Whether a name is a file or nothing may also decide where a path leads, so the files that may change
are those that none of the named paths passes through (`Pipeline.named`). A path that a directive
names is followed to its canonical form before it is opened, and the next directives are read from
there: what is the same along the one is the same along the other. The search for translations comes
through directories only, and these do not change, so there it is enough that no file of that name
does.

The paths that a page depends on are listed along the run (`Pipeline.named`), as an included file
names others. Two trees that are the same along all of these are expanded alike, by induction on the
depth (`Include.expand_of_sameAlong`): a directive leads to the same file, this has the same text,
and the text of it names the paths that are left.

The other stages depend on less. Declaring the language and deferring look at no file. Translating
searches upwards, where no file of translations differs and the directories are the same. Rendering
with sample data is the one stage that does look, and it is not in a pipeline for publishing.

Main statement: `Pipeline.page_ignores_unread`.
-/

namespace MailTemplates

/-!
## Searches

A search for translations comes through directories, and these are the same in both trees.
-/

namespace FileTree

variable {first second : FileTree}

/-- Trees with the same directories are alike at a path whose last name has the same nodes
everywhere. -/
theorem alike_of_last (hdirectories : first.SameDirectories second) {name : String}
    (hlast : ∀ q : Place, q.getLast? = some name → first.node? q = second.node? q) {p : Path}
    {front : List Step} (hp : p.steps = front ++ [.into name]) : first.Alike second p := by
  refine ⟨?_, fun place hplace => (resolve_of_last hdirectories hlast hp hplace).2⟩
  cases hfirst : first.resolve p with
  | ok place => rw [(resolve_of_last hdirectories hlast hp hfirst).1]
  | error problem =>
    cases hsecond : second.resolve p with
    | error other => rfl
    | ok place =>
      have hback := resolve_of_last hdirectories.symm (fun q hq => (hlast q hq).symm) hp hsecond
      nomatch hfirst.symm.trans hback.1

end FileTree

namespace Project

/-- The way up is the same in trees that are the same along it. -/
theorem searchPath_of_sameAlong {first second : FileTree} (hfree : first.LinkFree [])
    {project : Project} {directory : Path} (h : first.SameAlong second directory) :
    project.searchPath first directory = project.searchPath second directory := by
  unfold searchPath
  rw [FileTree.canonical_of_sameAlong hfree h]

/-- What is probed is among the candidates. -/
theorem probes_subset_candidates (project : Project) (tree : FileTree) (names : List String)
    (directory : Path) :
    project.probes tree names directory ⊆ project.candidates tree names directory := by
  intro p hp
  rcases List.mem_append.1 hp with hbefore | hfound
  · exact (List.takeWhile_prefix _).subset hbefore
  · exact List.mem_of_find?_eq_some (Option.mem_toList.1 hfound)

end Project

namespace Translation

/-- The path of a table ends with its name. -/
theorem steps_join_fileName (directory : Path) :
    ∃ front, (directory.join ⟨fileName⟩).steps = front ++ [.into fileName] := by
  obtain ⟨front, hsteps, -⟩ := Path.steps_join directory
    (show (⟨fileName⟩ : Path).isAbsolute = false by decide +kernel)
  refine ⟨front, ?_⟩
  rw [hsteps, show (⟨fileName⟩ : Path).steps = [.into fileName] by decide +kernel]

/-- The table of a template is the same in two trees with the same directories if no translations
file differs. -/
theorem tableFor_of_sameDirectories {first second : FileTree} {project : Project}
    {template : Template} (hdirectories : first.SameDirectories second)
    (hlast : ∀ q : Place, q.getLast? = some fileName → first.node? q = second.node? q)
    (hdirectory : first.SameAlong second (project.directoryOf template)) :
    tableFor first project template = tableFor second project template := by
  refine tableFor_of_alike
    (Project.searchPath_of_sameAlong hdirectories.first_linkFree hdirectory) fun p hp => ?_
  unfold reads at hp
  cases hlanguage : template.language with
  | none =>
    rw [hlanguage] at hp
    nomatch hp
  | some language =>
    rw [hlanguage] at hp
    obtain ⟨d, -, hname⟩ := List.mem_flatMap.1 (project.probes_subset_candidates _ _ _ hp)
    obtain rfl := List.mem_singleton.1 hname
    obtain ⟨front, hsteps⟩ := steps_join_fileName d
    exact FileTree.alike_of_last hdirectories hlast hsteps

end Translation

/-!
## Inclusions

An inclusion follows paths that are written in the texts, so what it depends on is only known along
the way.
-/

section Congruence

variable {ε α β γ : Type}

/-- Steps that are the same wherever what they read is alike give the same for a list if all that is
read is. -/
theorem mapM_congr_of_reads {f g : α → Except ε β} {reads : α → List γ} {Alike : γ → Prop}
    (hstep : ∀ a, (∀ p ∈ reads a, Alike p) → f a = g a) (xs : List α)
    (h : ∀ p ∈ readsUntilError f reads xs, Alike p) : xs.mapM f = xs.mapM g := by
  induction xs with
  | nil => rfl
  | cons x xs ih =>
    rw [readsUntilError, List.forall_mem_append] at h
    rw [List.mapM_cons, List.mapM_cons, ← hstep x h.1]
    cases hx : f x with
    | error e => rfl
    | ok b =>
      rw [hx] at h
      rw [ih h.2]

end Congruence

namespace Include

open Text (Piece pieces)

/-- The path that a piece of a document names if it is a directive, and what the text of that file
names. -/
def pieceNamed (tree : FileTree) (room : Nat) (directory : Path) (chain : List Path)
    (deeper : Path → List Path → List Char → List Path) : Piece (List Char) → List Path
  | .plain _ => []
  | .token _ written =>
    directory.join ⟨String.ofList written⟩ ::
      match target tree room directory chain (String.ofList written) with
      | .error _ => []
      | .ok file =>
        match tree.readText file with
        | .error _ => []
        | .ok content => deeper (file.parent.getD ⟨""⟩) (chain ++ [file]) content.toList

/-- The paths that are named by the directives of a text, as far as they are reached when these are
replaced. -/
def named (tree : FileTree) : Nat → Path → List Path → List Char → List Path
  | 0, directory, chain, cs =>
    readsUntilError (replacement tree 0 directory chain fun _ _ cs => .ok cs)
      (pieceNamed tree 0 directory chain fun _ _ _ => []) (pieces directive cs)
  | room + 1, directory, chain, cs =>
    readsUntilError (replacement tree (room + 1) directory chain (expand tree room))
      (pieceNamed tree (room + 1) directory chain (named tree room)) (pieces directive cs)

section SameAlong

variable {first second : FileTree} (hfree : first.LinkFree [])

/-- The file of a directive is the canonical one of its path. -/
theorem canonical_of_target {tree : FileTree} {room : Nat} {directory : Path} {chain : List Path}
    {written : String} {file : Path} (h : target tree room directory chain written = .ok file) :
    tree.canonical (directory.join ⟨written⟩) = .ok file := by
  unfold target at h
  split at h
  · nomatch h
  · next hcanonical =>
    split at h
    · nomatch h
    · split at h
      · nomatch h
      · cases h
        exact hcanonical

include hfree

/-- A directive is replaced alike in trees that are the same along its path. -/
theorem replacement_of_sameAlong
    {f g : Path → List Path → List Char → Except Failure (List Char)}
    {deeper : Path → List Path → List Char → List Path}
    (hdeeper : ∀ directory chain cs, (∀ p ∈ deeper directory chain cs, first.SameAlong second p) →
      f directory chain cs = g directory chain cs)
    (room : Nat) (directory : Path) (chain : List Path) (piece : Piece (List Char))
    (h : ∀ p ∈ pieceNamed first room directory chain deeper piece, first.SameAlong second p) :
    replacement first room directory chain f piece =
      replacement second room directory chain g piece := by
  cases piece with
  | plain c => rfl
  | token source written =>
    rw [pieceNamed, List.forall_mem_cons] at h
    obtain ⟨hpath, hcontent⟩ := h
    have htarget : target first room directory chain (String.ofList written) =
        target second room directory chain (String.ofList written) := by
      unfold target
      rw [FileTree.canonical_of_sameAlong hfree hpath]
    unfold replacement
    dsimp only
    rw [← htarget]
    cases hfile : target first room directory chain (String.ofList written) with
    | error problem => rfl
    | ok file =>
      -- The file is opened by its canonical path.
      have hsame := FileTree.sameAlong_of_canonical hfree hpath (canonical_of_target hfile)
      rw [hfile] at hcontent
      dsimp only at hcontent ⊢
      rw [← FileTree.readText_of_sameAlong hfree hsame]
      cases hread : first.readText file with
      | error problem => rfl
      | ok content =>
        rw [hread] at hcontent
        exact hdeeper _ _ _ hcontent

/-- A text is expanded alike in trees that are the same along all paths that it names. The induction
is on the depth. -/
theorem expand_of_sameAlong (room : Nat) (directory : Path) (chain : List Path) (cs : List Char)
    (h : ∀ p ∈ named first room directory chain cs, first.SameAlong second p) :
    expand first room directory chain cs = expand second room directory chain cs := by
  induction room generalizing directory chain cs with
  | zero =>
    exact congrArg (Except.map List.flatten) (mapM_congr_of_reads
      (replacement_of_sameAlong hfree (fun _ _ _ _ => rfl) 0 directory chain) _ h)
  | succ room ih =>
    exact congrArg (Except.map List.flatten) (mapM_congr_of_reads
      (replacement_of_sameAlong hfree ih (room + 1) directory chain) _ h)

end SameAlong

end Include

/-!
## Stages

Each stage of the library is looked at once, and a pipe of them by induction.
-/

/-- What two trees have in common for the stages of a template: directories and translations, and
what lies along the paths of the source of the template and of the directory of that. -/
structure SameFor (first second : FileTree) (project : Project) (template : Template) : Prop where
  directories : first.SameDirectories second
  translations (q : Place) (h : q.getLast? = some Translation.fileName) :
    first.node? q = second.node? q
  source : first.SameAlong second (project.sourceOf template)
  directory : first.SameAlong second (project.directoryOf template)

/-- The paths that a stage comes to by the directives of a source: only the stage that includes
files follows these. -/
def Stage.named (tree : FileTree) (project : Project) (template : Template) (source : String)
    (stage : Stage) : List Path :=
  if stage.name = Include.stage.name then
    Include.named tree Include.depthLimit (project.directoryOf template)
      (Include.start tree project template) source.toList
  else []

/-- The paths that the stages of a pipe come to, up to the first that fails. -/
def Pipe.named (tree : FileTree) (project : Project) (template : Template) :
    Pipe → String → List Path
  | [], _ => []
  | stage :: pipe, source =>
    stage.named tree project template source ++
      match stage.run tree project template source with
      | .ok next => Pipe.named tree project template pipe next
      | .error _ => []

section SameFor

variable {first second : FileTree} {project : Project} {template : Template}

/-- Trees that agree on directories, tables and the source agree on what a template needs of them.
-/
theorem sameFor_of_readText (hdirectories : first.SameDirectories second)
    (htranslations : ∀ q : Place, q.getLast? = some Translation.fileName →
      first.node? q = second.node? q)
    (hsource : first.SameAlong second (project.sourceOf template)) {source : String}
    (hread : first.readText (project.sourceOf template) = .ok source) :
    SameFor first second project template := by
  refine ⟨hdirectories, htranslations, hsource, ?_⟩
  obtain ⟨-, place, content, executable, hresolve, hfile⟩ :=
    FileTree.isFile_eq_true_iff.1 (FileTree.isFile_of_readText hread)
  obtain ⟨directory, hparent, -⟩ := FileTree.directory_of_file hresolve hfile
  unfold Project.directoryOf
  rw [hparent]
  exact FileTree.sameAlong_of_parent hsource hparent

variable (hsame : SameFor first second project template)
include hsame

/-- A stage of the library, other than the one for previews, does the same in both trees if these
are the same along the paths that it comes to. -/
theorem run_stage_of_sameFor {stage : Stage}
    (hstage : stage ∈ RawMarker.deferStage :: Registry.builtIn.stages) {source : String}
    (hnamed : ∀ p ∈ stage.named first project template source, first.SameAlong second p) :
    stage.run first project template source = stage.run second project template source := by
  have hfree := hsame.directories.first_linkFree
  rw [Registry.stages_builtIn] at hstage
  simp only [List.mem_cons, List.not_mem_nil, or_false] at hstage
  rcases hstage with rfl | rfl | rfl | rfl | rfl
  · rfl
  · have hstart : Include.start first project template =
        Include.start second project template := by
      unfold Include.start
      rw [FileTree.canonical_of_sameAlong hfree hsame.source]
    rw [Stage.named, if_pos rfl] at hnamed
    rw [Include.run_stage, Include.run_stage, ← hstart,
      Include.expand_of_sameAlong hfree _ _ _ _ hnamed]
  · rfl
  · dsimp only [Translation.stage]
    unfold Translation.translate
    rw [Translation.tableFor_of_sameDirectories hsame.directories hsame.translations
      hsame.directory]
  · rfl

/-- A pipe of such stages gives the same. The induction is on its stages. -/
theorem run_pipe_of_sameFor {pipe : Pipe}
    (hstages : ∀ stage ∈ pipe, stage ∈ RawMarker.deferStage :: Registry.builtIn.stages)
    (source : String)
    (hnamed : ∀ p ∈ Pipe.named first project template pipe source, first.SameAlong second p) :
    Pipe.run first project template pipe source =
      Pipe.run second project template pipe source := by
  induction pipe generalizing source with
  | nil => rfl
  | cons stage pipe ih =>
    rw [List.forall_mem_cons] at hstages
    rw [Pipe.named, List.forall_mem_append] at hnamed
    rw [Pipe.run_cons, Pipe.run_cons, Pipe.runStage, Pipe.runStage,
      ← run_stage_of_sameFor hsame hstages.1 hnamed.1]
    cases hrun : stage.run first project template source with
    | error halt =>
      rw [inStage_error]
      rfl
    | ok next =>
      have hlater := hnamed.2
      rw [hrun] at hlater
      exact ih hstages.2 next hlater

end SameFor

/-!
## Pages

A page comes from the source by three steps, and what each of them reads is among the named paths.
-/

namespace Pipeline

/-- The paths that are named on the way to the page of a template: that of its source, and those in
the directives that are reached from it. -/
def named (pipeline : Pipeline) (tree : FileTree) (project : Project) (compiler : Compiler)
    (components : Components) (template : Template) : List Path :=
  project.sourceOf template ::
    match tree.readText (project.sourceOf template) with
    | .error _ => []
    | .ok source =>
      pipeline.pre.named tree project template source ++
        match pipeline.pre.run tree project template source with
        | .error _ => []
        | .ok document =>
          match compiler document (optionsFor project components template) with
          | .error _ => []
          | .ok page => pipeline.post.named tree project template page

/-- For publishing, a project with no other stages than those of the library builds the same page,
or fails alike, in two trees without links that have the same directories, if they differ in no
translations file and in no file that one of the paths passes through which the template and the
directives reached from it name. -/
theorem page_ignores_unread {first second : FileTree} {project : LoadedProject}
    (hmode : project.mode = .prod)
    (hpreprocessors : ∀ stage ∈ project.preprocessors, stage ∈ Registry.builtIn.stages)
    (hpostprocessors : ∀ stage ∈ project.postprocessors, stage ∈ Registry.builtIn.stages)
    (hdirectories : first.SameDirectories second) (compiler : Compiler) (components : Components)
    (template : Template)
    (hdiffer : ∀ q, first.node? q ≠ second.node? q →
      q.getLast? ≠ some Translation.fileName ∧
        ∀ p ∈ (ofProject project).named first project.toProject compiler components template,
          q ∉ Place.through [] p.steps) :
    (ofProject project).buildTemplate first project.toProject compiler components template =
      (ofProject project).buildTemplate second project.toProject compiler components template := by
  have hnamed : ∀ p ∈ (ofProject project).named first project.toProject compiler components
      template, first.SameAlong second p := by
    intro p hp q hq
    exact Decidable.byContradiction fun hne => (hdiffer q hne).2 p hp hq
  have htranslations : ∀ q : Place, q.getLast? = some Translation.fileName →
      first.node? q = second.node? q := by
    intro q hq
    exact Decidable.byContradiction fun hne => (hdiffer q hne).1 hq
  -- A published pipeline has no stage that renders, so the law for the other stages covers all of
  -- it.
  have hpre : ∀ stage ∈ (ofProject project).pre,
      stage ∈ RawMarker.deferStage :: Registry.builtIn.stages := by
    intro stage hstage
    rw [ofProject, hmode, List.mem_append, List.mem_append] at hstage
    rcases hstage with (hfixed | hown) | htemplating
    · rw [Registry.stages_builtIn]
      exact List.mem_cons_of_mem _ (List.mem_append_left [RawMarker.stripStage] hfixed)
    · exact List.mem_cons_of_mem _ (hpreprocessors stage hown)
    · exact List.mem_cons.2 (.inl (List.mem_singleton.1 htemplating))
  have hpost : ∀ stage ∈ (ofProject project).post,
      stage ∈ RawMarker.deferStage :: Registry.builtIn.stages := by
    intro stage hstage
    rcases List.mem_cons.1 hstage with rfl | hown
    · rw [Registry.stages_builtIn]
      simp only [List.mem_cons, true_or, or_true]
    · exact List.mem_cons_of_mem _ (hpostprocessors stage hown)
  -- Both runs go on with the same text as long as no step fails, and else fail alike.
  rw [named, List.forall_mem_cons] at hnamed
  obtain ⟨hsource, hreached⟩ := hnamed
  rw [buildTemplate_eq, buildTemplate_eq, readSource, readSource,
    ← FileTree.readText_of_sameAlong hdirectories.first_linkFree hsource]
  cases hread : first.readText (project.sourceOf template) with
  | error problem => rfl
  | ok source =>
    have hsame := sameFor_of_readText hdirectories htranslations hsource hread
    rw [hread, List.forall_mem_append] at hreached
    obtain ⟨hbefore, hbehind⟩ := hreached
    show (Pipe.run first _ _ _ source).bind _ = (Pipe.run second _ _ _ source).bind _
    rw [← run_pipe_of_sameFor hsame hpre source hbefore]
    cases hdocument : Pipe.run first project.toProject template (ofProject project).pre source with
    | error halt => rfl
    | ok document =>
      rw [hdocument] at hbehind
      dsimp only [Except.bind] at hbehind ⊢
      cases hcompile : compiler document (optionsFor project.toProject components template) with
      | error halt =>
        rw [inStage_error]
      | ok page =>
        rw [hcompile] at hbehind
        exact run_pipe_of_sameFor hsame hpost page hbehind

/-! ## An offer -/

/-- An offer in a directory of its own. -/
def offer : Template := ⟨"o", "offer", "shop/offer", some "en", none, []⟩

/-- A project with an offer, which declares its language a second time. -/
def offers : LoadedProject where
  mode := .prod
  root := ⟨"/p"⟩
  package := ⟨none, none, []⟩
  configFile := none
  components := []
  templates := [offer]
  preprocessors := [Language.stage]
  postprocessors := []

/-- The offer, the file that it includes, and the translations. -/
def offerFiles : FileTree :=
  (((((FileTree.empty.put ["p"] .directory).put ["p", "shop"] .directory).put
    ["p", "shop", "offer"] (.file "<mj-include path=\"../price\" />".toUTF8 false)).put
    ["p", "price"] (.file "<%= only %> \x7b\x7bprice\x7d\x7d".toUTF8 false)).put
    ["p", "translations.json"] (.file "\x7b\"en\":\x7b\"only\":\"Only\"\x7d\x7d".toUTF8 false))

/-- The offer with sample data that is none. -/
def brokenSampleFiles : FileTree :=
  offerFiles.put ["p", "data.json"] (.file "\x7b".toUTF8 false)

/-- An offer whose sample data is broken in one tree: its page is the same in both. -/
theorem offer_ignores_broken_sample :
    SampleData.context brokenSampleFiles offers.toProject offer ≠
        SampleData.context offerFiles offers.toProject offer ∧
      ∀ tree ∈ [offerFiles, brokenSampleFiles],
        (ofProject offers).buildTemplate tree offers.toProject (fun document _ => .ok document) []
          offer = .ok "Only \x7b\x7bprice\x7d\x7d" := by
  have hfree : offerFiles.LinkFree [] := by
    refine FileTree.linkFree_put (FileTree.linkFree_put (FileTree.linkFree_put
      (FileTree.linkFree_put (FileTree.linkFree_put (FileTree.linkFree_empty []) ?_ ?_) ?_ ?_)
      ?_ ?_) ?_ ?_) ?_ ?_ <;> nofun
  have hpage : (ofProject offers).buildTemplate offerFiles offers.toProject
      (fun document _ => .ok document) [] offer = .ok "Only \x7b\x7bprice\x7d\x7d" :=
    eq_ok_of_toOption (by decide +kernel)
  have hsame := @page_ignores_unread offerFiles brokenSampleFiles offers rfl
    (fun stage hstage => by
      rw [List.mem_singleton.1 hstage, Registry.stages_builtIn]
      exact List.mem_cons_of_mem _ List.mem_cons_self)
    nofun
    (FileTree.sameDirectories_put hfree (by decide +kernel) _ _)
    (fun document _ => .ok document) [] offer
    (fun q hq => by
      -- The trees differ at one place.
      obtain rfl : q = ["p", "data.json"] := by
        refine Decidable.byContradiction fun hother => hq ?_
        rw [brokenSampleFiles, FileTree.node?_put _ (by nofun), if_neg (Ne.symm hother)]
      decide +kernel)
  refine ⟨?_, ?_⟩
  · intro hcontext
    have hbroken := congrArg (fun r => r.toOption.isSome) hcontext
    exact absurd hbroken (by decide +kernel)
  · intro tree htree
    simp only [List.mem_cons, List.not_mem_nil, or_false] at htree
    rcases htree with rfl | rfl
    · exact hpage
    · exact hsame.symm.trans hpage

end Pipeline

end MailTemplates
