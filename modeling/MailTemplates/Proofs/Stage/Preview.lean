import MailTemplates.Proofs.Stage.Marking
import MailTemplates.Proofs.Stage.Running
/-!
# What a preview shows

A project is built for a preview and for publishing by two pipelines that differ in one stage. The
mode is looked at nowhere else (`load_inMode`, `draft_mode`), so without stages of its own both
pipelines bring the same document to that stage, or stop before it with the same failure.

From there on one defers the tags and the other renders them. If the compiler leaves documents alone
then deferring and stripping cancel, and a page for publishing is the document with its tags as they
were written. To render it is then what the preview did before compiling.

The two modes are followed for as long as they do the same (`draft_mode`), and then they are
compared at the one stage that differs. Rendering and deferring are both given a text that is free
of raw markers, and it is this that the condition is for: stripping takes away the markers that
deferring has set, and none other, since there are no others.

A failure before that stage is the same in both modes, its label included, as the stages have the
same names.

Main statement: `preview_shows_published`.
-/

namespace MailTemplates

/-- A step that does not crash succeeds with what it gives. -/
theorem inStage_uncrashed_eq_ok_iff {α : Type} {name label : String} {r : Except Failure α}
    {a : α} :
    inStage name label (uncrashed r) = .ok a ↔ r = .ok a :=
  inStage_eq_ok_iff.trans uncrashed_eq_ok_iff

/-- It fails with its cause under its name. -/
theorem inStage_uncrashed_eq_error_iff {α : Type} {name label : String} {r : Except Failure α}
    {halt : Halt} :
    inStage name label (uncrashed r) = .error halt ↔
      ∃ cause, r = .error cause ∧ halt = .failure (.stage name label cause) := by
  rw [inStage_eq_error_iff]
  constructor
  · rintro ⟨inner, hinner, rfl⟩
    obtain ⟨cause, hcause, rfl⟩ := uncrashed_eq_error_iff.1 hinner
    exact ⟨cause, hcause, rfl⟩
  · rintro ⟨cause, hcause, rfl⟩
    exact ⟨.failure cause, uncrashed_eq_error_iff.2 ⟨cause, hcause, rfl⟩, rfl⟩

/-!
## The mode of a project

Apart from the templating stage nothing asks for the mode, so a project in another mode differs in
this one field.
-/

namespace Project

variable (tree : FileTree) (project : Project) (mode : Mode) (template : Template)

theorem sourceOf_mode : sourceOf { project with mode } template = project.sourceOf template := rfl

theorem directoryOf_mode :
    directoryOf { project with mode } template = project.directoryOf template := rfl

/-- Which file configures something does not depend on the mode. -/
theorem readConfig_mode {α : Type} (parse : String → Except Json.Fault α) (names : List String)
    (directory : Path) :
    readConfig { project with mode } tree parse names directory =
      project.readConfig tree parse names directory := by
  unfold readConfig candidates searchPath
  dsimp only

end Project

namespace LoadedProject

/-- A project in another mode, with everything else the same. -/
def inMode (project : LoadedProject) (mode : Mode) : LoadedProject := { project with mode }

/-- Nor does how the compiler is configured. -/
theorem configure_mode (tree : FileTree) (project : Project) (mode : Mode) :
    configure tree { project with mode } =
      (configure tree project).map fun configured => { configured with mode } := by
  unfold configure
  rw [Project.readConfig_mode]
  rcases Project.readConfig project tree CompilerConfig.parse [CompilerConfig.fileName]
    project.root with _ | (_ | _) <;> rfl

/-- Loading looks at the mode only to keep it. -/
theorem load_inMode (tree : FileTree) (registry : Registry) (mode other : Mode)
    (directory : Path) :
    load tree registry mode directory =
      (load tree registry other directory).map fun project => project.inMode mode := by
  show load tree registry mode directory =
    (fun project => inMode project mode) <$> load tree registry other directory
  unfold load
  simp only [map_bind, map_pure]
  refine bind_congr fun root => bind_congr fun package => bind_congr fun manifest =>
    bind_congr fun preprocessors => bind_congr fun postprocessors => ?_
  have hconfigure := configure_mode tree {
    mode := other, root, package
    configFile := none
    components := []
    templates := sortTemplates manifest.templates } mode
  rw [hconfigure]
  cases configure tree {
    mode := other, root, package
    configFile := none
    components := []
    templates := sortTemplates manifest.templates } <;> rfl

end LoadedProject

namespace SampleData

/-- A page with its tags rendered against what the tags of a template see. -/
def rendered (tree : FileTree) (project : Project) (template : Template) (page : String) :
    Except Failure String := do
  handlebars page (← context tree project template)

end SampleData

/-!
## Up to the templating stage

The stages in front of templating make the same document in both modes, or fail alike.
-/

namespace Pipeline

/-- The stages before those of the project itself. -/
def common : Pipe := [Include.stage, Language.stage, Translation.stage]

/-- The document of a template without its templating tags dealt with. -/
def draft (tree : FileTree) (project : Project) (template : Template) : Outcome String :=
  (readSource tree project template).bind (Pipe.run tree project template common)

/-- The stages before templating do not look at the mode. -/
theorem run_common_mode (tree : FileTree) (project : Project) (mode : Mode) (template : Template)
    {stage : Stage} (h : stage ∈ common) :
    stage.run tree { project with mode } template = stage.run tree project template := by
  simp only [common, List.mem_cons, List.not_mem_nil, or_false] at h
  rcases h with rfl | rfl | rfl
  · dsimp only [Include.stage]
    rw [Project.sourceOf_mode, Project.directoryOf_mode]
  · rfl
  · dsimp only [Translation.stage]
    funext source
    unfold Translation.translate Translation.tableFor
    simp only [Project.readConfig_mode, Project.directoryOf_mode]

/-- So the draft is the same in both modes. -/
theorem draft_mode (tree : FileTree) (project : Project) (mode : Mode) (template : Template) :
    draft tree { project with mode } template = draft tree project template := by
  unfold draft readSource
  rw [Project.sourceOf_mode,
    Pipe.run_congr fun _ hstage => run_common_mode tree project mode template hstage]

variable {tree : FileTree} {project : LoadedProject} {components : Components}
  {template : Template}

/-- Without registered stages, preprocessing is the draft and then templating. -/
theorem preprocess_of_no_stages (h : project.preprocessors = []) :
    (ofProject project).preprocess tree project.toProject template =
      (draft tree project.toProject template).bind fun document =>
        Pipe.runStage tree project.toProject template document (templatingStage project.mode) := by
  have hstages : (ofProject project).pre = common ++ [templatingStage project.mode] := by
    simp [ofProject, common, h]
  show (readSource tree project.toProject template).bind
    (Pipe.run tree project.toProject template (ofProject project).pre) = _
  rw [hstages, draft]
  cases readSource tree project.toProject template with
  | error halt => rfl
  | ok source =>
    show Pipe.run tree project.toProject template (common ++ _) source =
      (Pipe.run tree project.toProject template common source).bind _
    rw [Pipe.run_append]
    congr 1
    funext document
    exact Pipe.run_singleton ..

/-!
## From the templating stage on

For a preview the tags are rendered here. For publishing they are wrapped, compiled around, and
unwrapped.
-/

/-- In development, templating renders with sample data. -/
theorem runStage_dev (tree : FileTree) (project : Project) (template : Template)
    (document : String) :
    Pipe.runStage tree project template document (templatingStage .dev) =
      inStage "templating" template.label
        (uncrashed (SampleData.rendered tree project template document)) := by
  dsimp only [Pipe.runStage, templatingStage, SampleData.stage, SampleData.stageWith,
    SampleData.rendered]

/-- For publishing it defers the tags. -/
theorem runStage_prod (tree : FileTree) (project : Project) (template : Template)
    (document : String) :
    Pipe.runStage tree project template document (templatingStage .prod) =
      .ok (String.ofList (RawMarker.defer document.toList)) := rfl

/-- Without a compiler of its own and without registered stages, a build strips what was
preprocessed. -/
theorem buildTemplate_of_no_stages (h : project.postprocessors = []) :
    (ofProject project).buildTemplate tree project.toProject (fun document _ => .ok document)
        components template =
      ((ofProject project).preprocess tree project.toProject template).map fun document =>
        String.ofList (RawMarker.strip document.toList) := by
  have hstages : (ofProject project).post = [RawMarker.stripStage] := by
    rw [ofProject, h]
  unfold buildTemplate
  rw [hstages]
  cases (ofProject project).preprocess tree project.toProject template with
  | error halt => rfl
  | ok document => rfl

/-- Stripping changes no page without markers. -/
theorem map_strip_eq_self {built : Outcome String}
    (h : ∀ page, built = .ok page → RawMarker.Unmarked page.toList) :
    (built.map fun page => String.ofList (RawMarker.strip page.toList)) = built := by
  cases built with
  | error halt => rfl
  | ok page =>
    show Except.ok (String.ofList (RawMarker.strip page.toList)) = .ok page
    rw [RawMarker.strip_of_unmarked (h page rfl), String.ofList_toList]

/-- Without stages of its own, and with a compiler that leaves documents alone, a project is the
same in both modes up to its templating tags, and a preview shows what rendering the published page
would show, if no raw marker is written in the document or comes out of rendering it. Loaded in the
other mode a project is the same project in that mode. -/
theorem preview_shows_published (tree : FileTree) {project : LoadedProject}
    (hpre : project.preprocessors = []) (hpost : project.postprocessors = [])
    (components : Components) (template : Template) :
    let identity : Compiler := fun document _ => .ok document
    let build := fun mode => (ofProject (project.inMode mode)).buildTemplate tree
      (project.inMode mode).toProject identity components template
    let document := fun mode => draft tree (project.inMode mode).toProject template
    let rendered := SampleData.rendered tree (project.inMode .dev).toProject template
    (∀ registry directory, LoadedProject.load tree registry project.mode directory = .ok project →
      ∀ mode, LoadedProject.load tree registry mode directory = .ok (project.inMode mode)) ∧
    document .dev = document .prod ∧
    (∀ halt, document .prod = .error halt → build .dev = .error halt ∧ build .prod = .error halt) ∧
    ∀ x, document .prod = .ok x →
      (∀ mode, (ofProject (project.inMode mode)).preprocess tree (project.inMode mode).toProject
          template =
        Pipe.runStage tree (project.inMode mode).toProject template x (templatingStage mode)) ∧
      (RawMarker.Unmarked x.toList →
        (∀ shown, rendered x = .ok shown → RawMarker.Unmarked shown.toList) →
        build .prod = .ok x ∧
        ∀ page, build .prod = .ok page →
          (∀ shown, build .dev = .ok shown ↔ rendered page = .ok shown) ∧
          (∀ halt, build .dev = .error halt ↔ ∃ cause, rendered page = .error cause ∧
            halt = .failure (.stage "templating" template.label cause))) := by
  intro identity build document rendered
  have hbuild : ∀ mode, build mode = ((ofProject (project.inMode mode)).preprocess tree
      (project.inMode mode).toProject template).map fun document =>
        String.ofList (RawMarker.strip document.toList) :=
    fun mode => buildTemplate_of_no_stages hpost
  have hpreprocess : ∀ mode, (ofProject (project.inMode mode)).preprocess tree
      (project.inMode mode).toProject template = (document mode).bind fun x =>
        Pipe.runStage tree (project.inMode mode).toProject template x (templatingStage mode) :=
    fun mode => preprocess_of_no_stages hpre
  have hsame : ∀ mode, document mode = document .prod := by
    intro mode
    exact (draft_mode tree project.toProject mode template).trans
      (draft_mode tree project.toProject .prod template).symm
  refine ⟨fun registry directory hload mode => ?_, hsame .dev, ?_, ?_⟩
  · rw [LoadedProject.load_inMode tree registry mode project.mode, hload]
    rfl
  · intro halt hdocument
    have hfail : ∀ mode, build mode = .error halt := by
      intro mode
      rw [hbuild, hpreprocess, hsame, hdocument]
      rfl
    exact ⟨hfail .dev, hfail .prod⟩
  · -- From here on only the templating stage depends on the mode.
    intro x hx
    have hstage : ∀ mode, (ofProject (project.inMode mode)).preprocess tree
        (project.inMode mode).toProject template =
          Pipe.runStage tree (project.inMode mode).toProject template x (templatingStage mode) := by
      intro mode
      rw [hpreprocess, hsame, hx]
      rfl
    refine ⟨hstage, fun hunmarked hshown => ?_⟩
    -- Stripping takes away what deferring has added, and finds nothing else to take away.
    have hprod : build .prod = .ok x := by
      rw [hbuild, hstage, runStage_prod]
      show Except.ok (String.ofList (RawMarker.strip (String.ofList _).toList)) = _
      rw [String.toList_ofList, RawMarker.strip_defer, RawMarker.strip_of_unmarked hunmarked,
        String.ofList_toList]
    -- What is rendered has no markers, so stripping does nothing to it.
    have hdev : build .dev = inStage "templating" template.label (uncrashed (rendered x)) := by
      rw [hbuild, hstage, runStage_dev]
      apply map_strip_eq_self
      intro page hpage
      exact hshown page (inStage_uncrashed_eq_ok_iff.1 hpage)
    refine ⟨hprod, fun page hpage => ?_⟩
    obtain rfl : x = page := by
      rw [hprod] at hpage
      exact Except.ok.inj hpage
    rw [hdev]
    exact ⟨fun _ => inStage_uncrashed_eq_ok_iff, fun _ => inStage_uncrashed_eq_error_iff⟩

/-! ## A greeting -/

def greeting : Template := ⟨"g", "greeting", "greeting", some "en", none, []⟩

/-- A project with a greeting that says more to some. -/
def greetings : LoadedProject where
  mode := .prod
  root := ⟨"/p"⟩
  package := ⟨none, none, []⟩
  configFile := none
  components := []
  templates := [greeting]
  preprocessors := []
  postprocessors := []

/-- The source of the greeting. -/
def greetingSource : String :=
  "<%= hi %>\x7b\x7b#if vip\x7d\x7d dear \x7b\x7bname\x7d\x7d\x7b\x7b/if\x7d\x7d"

/-- The greeting, with its translations and sample data. -/
def greetingFiles : FileTree := ⟨[
  (["p"], .directory),
  (["p", "greeting"], .file greetingSource.toUTF8 false),
  (["p", "translations.json"], .file "\x7b\"en\":\x7b\"hi\":\"Hello\"\x7d\x7d".toUTF8 false),
  (["p", "data.json"], .file "\x7b\"vip\":true\x7d".toUTF8 false)]⟩

/-- The greeting with its translation, the tags as they were written. -/
def greetingPage : String :=
  "Hello\x7b\x7b#if vip\x7d\x7d dear \x7b\x7bname\x7d\x7d\x7b\x7b/if\x7d\x7d"

/-- A greeting that is built for publishing, and shown with sample data in development. -/
theorem preview_shows_greeting :
    let build := fun mode => (ofProject (greetings.inMode mode)).buildTemplate greetingFiles
      (greetings.inMode mode).toProject (fun document _ => .ok document) [] greeting
    build .prod = .ok greetingPage ∧ build .dev = .ok "Hello dear greeting" := by
  intro build
  have hdocument : draft greetingFiles (greetings.inMode .prod).toProject greeting =
      .ok greetingPage := eq_ok_of_toOption (by decide +kernel)
  have hrendered : SampleData.rendered greetingFiles (greetings.inMode .dev).toProject greeting
      greetingPage = .ok "Hello dear greeting" := eq_ok_of_toOption (by decide +kernel)
  obtain ⟨-, -, -, hpreview⟩ := @preview_shows_published greetingFiles greetings rfl rfl [] greeting
  have hpage : RawMarker.Unmarked greetingPage.toList := ⟨by decide +kernel, by decide +kernel⟩
  have hshown : ∀ shown, SampleData.rendered greetingFiles (greetings.inMode .dev).toProject
      greeting greetingPage = .ok shown → RawMarker.Unmarked shown.toList := by
    intro shown hshown
    obtain rfl := Except.ok.inj (hrendered.symm.trans hshown)
    exact ⟨by decide +kernel, by decide +kernel⟩
  obtain ⟨hprod, hdev⟩ := (hpreview greetingPage hdocument).2 hpage hshown
  exact ⟨hprod, ((hdev _ hprod).1 _).2 hrendered⟩

end Pipeline

end MailTemplates
