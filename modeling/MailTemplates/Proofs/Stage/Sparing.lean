import MailTemplates.Proofs.FileTree.Revising
import MailTemplates.Proofs.Stage.Unread
import MailTemplates.Proofs.Sync.Agreement
/-!
# Stages that do not read a file

Where two trees differ in the content of one file, what does not read that file is the same in both,
failures and their reasons included. For a search it is enough that the file is not found, for the
inclusion of files that none of them is the one. A `Reader` whose stage is known to depend on the
content of nothing else than what it reads is exact (`Reader.Exact`); the stages of the library are.

This is more than what a `Reader` promises. A reader gives the same result where what it reads is
alike, if it gives one; here the failures have to be the same as well, with their paths and reasons.
For trees that differ in the content of one file they are, as all else about the two trees is the
same. So each stage is looked at once more, and the lemmas have equations of results in place of
equations of options.

Main statements: `Reader.run_of_revised` (the law for pipes) and `Pipeline.pageOf_of_revised`.
-/

namespace MailTemplates

namespace FileTree

/-- Whether a path leads elsewhere than to a place, or nowhere. -/
def Misses (t : FileTree) (q : Place) (p : Path) : Prop := t.resolve p ≠ .ok q

instance (t : FileTree) (q : Place) (p : Path) : Decidable (t.Misses q p) :=
  inferInstanceAs (Decidable (t.resolve p ≠ .ok q))

/-- Trees that differ in one file are alike wherever a path misses it. -/
theorem alike_of_misses {first second : FileTree} {q : Place} (h : first.Revised second q)
    {p : Path} (hp : first.Misses q p) : first.Alike second p := by
  refine ⟨by rw [h.resolve_eq], fun place hplace => h.elsewhere place ?_⟩
  rintro rfl
  exact hp hplace

end FileTree

variable {first second : FileTree} {q : Place} {project : Project} {template : Template}
  {source : String}

/-!
## Searches and inclusions

What is read is named path by path, and none of it is the file that differs.
-/

/-- The way up is the same, as it depends on directories only. -/
theorem Project.searchPath_of_revised (h : first.Revised second q) (directory : Path) :
    project.searchPath first directory = project.searchPath second directory := by
  unfold searchPath
  rw [h.canonical_eq]

/-- The table is the same unless it is read from this file. -/
theorem Translation.tableFor_of_revised (h : first.Revised second q)
    (hreads : ∀ p ∈ reads first project template, first.Misses q p) :
    tableFor first project template = tableFor second project template :=
  tableFor_of_alike (Project.searchPath_of_revised h _) fun p hp =>
    FileTree.alike_of_misses h (hreads p hp)

/-- And so is the subject. -/
theorem Translation.subject_of_revised (h : first.Revised second q)
    (hreads : ∀ p ∈ reads first project template, first.Misses q p) :
    subject first project template = subject second project template := by
  unfold subject
  rw [tableFor_of_revised h hreads]

namespace Include

open Text (Piece pieces)

/-- A directive is replaced alike, failures included, if it misses the file. -/
theorem replacement_of_revised (h : first.Revised second q)
    {f g : Path → List Path → List Char → Except Failure (List Char)}
    {deeper : Path → List Path → List Char → List Path}
    (hdeeper : ∀ directory chain cs, (∀ p ∈ deeper directory chain cs, first.Misses q p) →
      f directory chain cs = g directory chain cs)
    (room : Nat) (directory : Path) (chain : List Path) (piece : Piece (List Char))
    (hreads : ∀ p ∈ pieceReads first room directory chain deeper piece, first.Misses q p) :
    replacement first room directory chain f piece =
      replacement second room directory chain g piece := by
  cases piece with
  | plain c => rfl
  | token m written =>
    -- Where a directive leads does not depend on contents; what is read there does.
    have htarget : target first room directory chain (String.ofList written) =
        target second room directory chain (String.ofList written) := by
      unfold target
      rw [h.canonical_eq]
    rw [pieceReads, List.forall_mem_cons] at hreads
    obtain ⟨-, hreads⟩ := hreads
    unfold replacement
    dsimp only
    rw [← htarget]
    cases hfile : target first room directory chain (String.ofList written) with
    | error problem => rfl
    | ok file =>
      rw [hfile] at hreads
      dsimp only at hreads ⊢
      obtain ⟨hopened, hcontent⟩ := List.forall_mem_cons.1 hreads
      rw [← h.readText_eq hopened]
      cases hread : first.readText file with
      | error problem => rfl
      | ok content =>
        rw [hread] at hcontent
        exact hdeeper _ _ _ hcontent

/-- A text is expanded alike if all it reads is other files. The induction is on the depth. -/
theorem expand_of_revised (h : first.Revised second q) (room : Nat) (directory : Path)
    (chain : List Path) (cs : List Char)
    (hreads : ∀ p ∈ reads first room directory chain cs, first.Misses q p) :
    expand first room directory chain cs = expand second room directory chain cs := by
  induction room generalizing directory chain cs with
  | zero =>
    exact congrArg (Except.map List.flatten) (mapM_congr_of_reads
      (replacement_of_revised h (fun _ _ _ _ => rfl) 0 directory chain) _ hreads)
  | succ room ih =>
    exact congrArg (Except.map List.flatten) (mapM_congr_of_reads
      (replacement_of_revised h ih (room + 1) directory chain) _ hreads)

end Include

/-!
## Readers

A reader of the library tells all that it reads. So a pipe of such readers does, and the induction
goes along the pipe.
-/

namespace Reader

/-- Whether a stage depends on the content of no file but those that it reads. -/
def Exact (reader : Reader) : Prop :=
  ∀ ⦃first second : FileTree⦄ ⦃q : Place⦄, first.Revised second q →
    ∀ (project : Project) (template : Template) (source : String),
      (∀ p ∈ reader.reads first project template source, first.Misses q p) →
        reader.stage.run first project template source =
          reader.stage.run second project template source

/-- A stage that reads nothing gives the same everywhere. -/
theorem exact_ofPure (stage : Stage)
    (h : ∀ first second : FileTree, stage.run first = stage.run second) :
    (ofPure stage h).Exact := fun first second _ _ project template source _ =>
  congrFun (congrFun (congrFun (h first second) project) template) source

/-- Inlining says exactly what it reads. -/
theorem exact_inclusion : inclusion.Exact := by
  intro first second q h project template source hreads
  have hstart : Include.start first project template = Include.start second project template := by
    unfold Include.start
    rw [h.canonical_eq]
  show Include.stage.run first project template source =
    Include.stage.run second project template source
  rw [Include.run_stage, Include.run_stage, ← hstart, Include.expand_of_revised h]
  exact (List.forall_mem_cons.1 hreads).2

/-- Translating does. -/
theorem exact_translation : translation.Exact := by
  intro first second q h project template source hreads
  show uncrashed (Translation.translate first project template source) =
    uncrashed (Translation.translate second project template source)
  unfold Translation.translate
  rw [Translation.tableFor_of_revised h hreads]

/-- Rendering does. -/
theorem exact_templating (mode : Mode) : (templating mode).Exact := by
  cases mode with
  | prod => exact exact_ofPure _ fun _ _ => rfl
  | dev =>
    intro first second q h project template source hreads
    show SampleData.stage.run first project template source =
      SampleData.stage.run second project template source
    dsimp only [SampleData.stage, SampleData.stageWith]
    rw [SampleData.context_of_alike (Project.searchPath_of_revised h _) fun p hp =>
      FileTree.alike_of_misses h (hreads p hp)]

/-- A pipe gives the same in two such trees if nothing that it reads in the one is the file. -/
theorem run_of_revised (h : first.Revised second q) {readers : List Reader}
    (hexact : ∀ reader ∈ readers, reader.Exact) {source : String}
    (hreads : ∀ p ∈ inputs readers first project template source, first.Misses q p) :
    Pipe.run first project template (readers.map Reader.stage) source =
      Pipe.run second project template (readers.map Reader.stage) source := by
  induction readers generalizing source with
  | nil => rfl
  | cons reader readers ih =>
    rw [List.forall_mem_cons] at hexact
    rw [inputs, List.forall_mem_append] at hreads
    obtain ⟨hfirst, hrest⟩ := hreads
    have hrun := hexact.1 h project template source hfirst
    show (Pipe.runStage first project template source reader.stage).bind
        (Pipe.run first project template (readers.map Reader.stage)) =
      (Pipe.runStage second project template source reader.stage).bind
        (Pipe.run second project template (readers.map Reader.stage))
    unfold Pipe.runStage
    rw [← hrun]
    cases hnext : reader.stage.run first project template source with
    | error halt => cases halt <;> rfl
    | ok next =>
      -- The stages behind it get the same source in both trees.
      rw [hnext] at hrest
      exact ih hexact.2 hrest

end Reader

/-! ## Pages -/

namespace Pipeline

/-- So the stages before the compiler do, if the registered ones do. -/
theorem exact_readersBefore (mode : Mode) {pre : List Reader}
    (hpre : ∀ reader ∈ pre, reader.Exact) :
    ∀ reader ∈ readersBefore mode pre, reader.Exact := by
  unfold readersBefore
  simp only [List.forall_mem_append, List.forall_mem_cons]
  exact ⟨⟨⟨Reader.exact_inclusion, Reader.exact_ofPure _ fun _ _ => rfl, Reader.exact_translation,
    nofun⟩, hpre⟩, Reader.exact_templating mode, nofun⟩

/-- And those behind it. -/
theorem exact_readersBehind {post : List Reader} (hpost : ∀ reader ∈ post, reader.Exact) :
    ∀ reader ∈ readersBehind post, reader.Exact :=
  List.forall_mem_cons.2 ⟨Reader.exact_ofPure _ fun _ _ => rfl, hpost⟩

/-- The page of a template, or the reason that there is none, is the same in two such trees if
nothing that the pipeline reads in the one is the file. -/
theorem pageOf_of_revised (h : first.Revised second q) {project : LoadedProject}
    {pre post : List Reader} {compiler : Compiler}
    (hpre : project.preprocessors = pre.map Reader.stage)
    (hpost : project.postprocessors = post.map Reader.stage)
    (hexact : ∀ reader ∈ pre ++ post, reader.Exact)
    (hinputs : ∀ p ∈ inputs pre post first project compiler template, first.Misses q p) :
    Sync.pageOf first project compiler template = Sync.pageOf second project compiler template := by
  rw [List.forall_mem_append] at hexact
  rw [inputs, List.forall_mem_cons] at hinputs
  obtain ⟨hsource, hstages⟩ := hinputs
  unfold Sync.pageOf
  rw [buildTemplate_eq, buildTemplate_eq, ofProject_of_readers hpre hpost]
  have hread : readSource first project.toProject template =
      readSource second project.toProject template := by
    unfold readSource
    rw [h.readText_eq hsource]
  -- Step by step: as long as no step fails, the next one gets the same text in both trees, and
  -- reads what the list goes on with.
  rw [← hread]
  cases hsourced : readSource first project.toProject template with
  | error halt => rfl
  | ok source =>
    rw [hsourced, List.forall_mem_append] at hstages
    obtain ⟨hbefore, hrest⟩ := hstages
    rw [ok_bind, ok_bind, ← Reader.run_of_revised h (exact_readersBefore _ hexact.1) hbefore]
    cases hdocument : Pipe.run first project.toProject template
        ((readersBefore project.mode pre).map Reader.stage) source with
    | error halt => rfl
    | ok document =>
      rw [hdocument] at hrest
      rw [ok_bind, ok_bind]
      dsimp only at hrest
      cases hpage : compiler document
          (optionsFor project.toProject project.components template) with
      | error halt => cases halt <;> rfl
      | ok page =>
        rw [hpage] at hrest
        exact Reader.run_of_revised h (exact_readersBehind hexact.2) hrest

end Pipeline

end MailTemplates
