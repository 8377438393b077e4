import MailTemplates.Proofs.Build.Progress
/-!
# What a failed build says

A build that has its components and its output directory fails at one template: the first that
cannot be made, or whose files cannot be written. If it cannot be made then one step has stopped it,
looking up its subject or a step of its pipeline, and the failure names that step and the template
(`make_eq_error_iff`). A file that cannot be written is reported by its own problem alone, so there
the failure names neither (`failed_write_names_no_template`).

Main statement: `build_failure_names_step`.
-/

namespace MailTemplates

namespace Build

/-- The step at which a template cannot be made, and how: looking up its subject, which comes first,
or a step of its pipeline. -/
inductive HaltsAt (project : LoadedProject) (compiler : Compiler) (components : Components)
    (tree : FileTree) (template : Template) : String → Halt → Prop where
  | subject {cause : Failure}
      (hsubject : Translation.subject tree project.toProject template = .error cause) :
      HaltsAt project compiler components tree template "subject" (.failure cause)
  | page {subject step : String} {halt : Halt}
      (hsubject : Translation.subject tree project.toProject template = .ok subject)
      (hpage : (Pipeline.ofProject project).HaltsAt tree project.toProject compiler components
        template step halt) :
      HaltsAt project compiler components tree template step halt

section Template

variable {project : LoadedProject} {compiler : Compiler} {components : Components}
  {tree final : FileTree} {template : Template} {halt : Halt}

/-- A template cannot be made exactly if one step halts, and the halt stands under the name of that
step and the label of the template. -/
theorem make_eq_error_iff :
    make tree project compiler components template = .error halt ↔
      ∃ step inner, HaltsAt project compiler components tree template step inner ∧
        halt = inner.under step template.label := by
  rw [make_eq]
  simp only [bind_eq_error_iff, inStage_eq_error_iff, inStage_eq_ok_iff, uncrashed_eq_error_iff,
    uncrashed_eq_ok_iff, Pipeline.buildTemplate_eq_error_iff]
  constructor
  · rintro (⟨_, ⟨cause, hsubject, rfl⟩, rfl⟩ |
      ⟨subject, hsubject, ⟨step, inner, hpage, rfl⟩ | ⟨_, _, hnever⟩⟩)
    · exact ⟨"subject", .failure cause, .subject hsubject, rfl⟩
    · exact ⟨step, inner, .page hsubject hpage, rfl⟩
    · nomatch hnever
  · rintro ⟨step, inner, hhalts, rfl⟩
    cases hhalts with
    | subject hsubject => exact .inl ⟨_, ⟨_, hsubject, rfl⟩, rfl⟩
    | page hsubject hpage => exact .inr ⟨_, hsubject, .inl ⟨step, inner, hpage, rfl⟩⟩

/-- A template that was made and stops the build all the same has a file that cannot be written, and
that problem is all that is said. -/
theorem Stops.of_made (h : Stops project compiler components tree template final halt)
    (output : Output) (htemplate : output.template = template)
    (hmake : make tree project compiler components template =
      .ok (output.subject, output.page)) :
    ∃ problem, tree.writeAll (output.files project.toProject) = .error problem ∧
      halt = .failure (.io problem) := by
  subst htemplate
  obtain ⟨hsubject', hpage'⟩ := make_eq_ok_iff.1 hmake
  -- Its texts are there, so what has stopped it is one of the two files.
  cases h with
  | noSubject hsubject => nomatch hsubject.symm.trans hsubject'
  | noPage hsubject hpage => nomatch hpage.symm.trans hpage'
  | @pageUnwritten subject page problem hsubject hpage hwrite =>
    cases hpage.symm.trans hpage'
    refine ⟨problem, ?_, rfl⟩
    show ((tree.writeText _ _).bind _) = _
    rw [hwrite]
    rfl
  | @subjectUnwritten subject page problem after hsubject hpage hfirst hwrite =>
    cases hsubject.symm.trans hsubject'
    cases hpage.symm.trans hpage'
    refine ⟨problem, ?_, rfl⟩
    show ((tree.writeText _ _).bind fun next => (next.writeText _ _).bind _) = _
    rw [hfirst]
    show ((final.writeText _ _).bind _) = _
    rw [hwrite]
    rfl

end Template

/-- A build that fails, with its components and its output directory there, has made and written the
templates in front of one that it fails at. If that cannot be made, the failure carries the name of
the step that failed and the label of the template. If it was made, one of its files could not be
written, and the failure is that problem without a step or a template. -/
theorem build_failure_names_step (tree : FileTree) (project : LoadedProject) (compiler : Compiler)
    {components : Components} (hload : Components.load tree project.toProject = .ok components)
    {made : FileTree} {directory : Path}
    (hmade : ensureDirectory tree project.toProject Artifact.directoryName = (made, .ok directory))
    {final : FileTree} {cause : Failure}
    (hbuild : build tree project compiler = (final, .error (.failure cause))) :
    ∃ (outputs : List Output) (template : Template) (later : List Template) (reached : FileTree),
      project.templates = outputs.map Output.template ++ template :: later ∧
      Progress project compiler components made outputs reached ∧
      Stops project compiler components reached template final (.failure cause) ∧
      (∀ halt, make reached project compiler components template = .error halt →
        ∃ step inner,
          HaltsAt project compiler components reached template step (.failure inner) ∧
          cause = .stage step template.label inner) ∧
      ∀ subject page, make reached project compiler components template = .ok (subject, page) →
        ∃ problem, reached.writeAll ((⟨template, subject, page⟩ : Output).files project.toProject) =
            .error problem ∧
          cause = .io problem := by
  rw [build_of_load hload, hmade] at hbuild
  obtain ⟨outputs, template, later, reached, htemplates, hprogress, hstops⟩ :=
    stops_of_buildAll hbuild
  refine ⟨outputs, template, later, reached, htemplates, hprogress, hstops, ?_, ?_⟩
  · -- A template that cannot be made stops at a step, under its name.
    intro halt hmake
    obtain ⟨rfl, -⟩ := hstops.of_not_made hmake
    obtain ⟨step, inner, hhalts, hunder⟩ := make_eq_error_iff.1 hmake
    obtain ⟨inner, rfl, hcause⟩ := Halt.under_eq_failure_iff.1 hunder.symm
    exact ⟨step, inner, hhalts, hcause⟩
  · -- One that is made stops when it is written, and that failure has no name around it.
    intro subject page hmake
    obtain ⟨problem, hwrite, hhalt⟩ := hstops.of_made ⟨template, subject, page⟩ rfl hmake
    exact ⟨problem, hwrite, Halt.failure.inj hhalt⟩

/-! ## Notes -/

/-- A note in a language. -/
def note : Template := ⟨"n", "note", "note", some "en", none, []⟩

/-- A note whose name has a separator in it. -/
def nestedNote : Template := { note with name := "notes/first" }

/-- A memo that includes a file that is not there. -/
def memo : Template := ⟨"m", "memo", "memo", some "en", none, []⟩

/-- A project of some notes and nothing else. -/
def notes (templates : List Template) : LoadedProject where
  mode := .prod
  root := ⟨"/p"⟩
  package := ⟨none, none, []⟩
  configFile := none
  components := []
  templates := templates
  preprocessors := []
  postprocessors := []

/-- The files of the notes. -/
def noteFiles : FileTree := ⟨[
  (["p"], .directory),
  (["p", "note"], .file "N".toUTF8 false),
  (["p", "memo"], .file "<mj-include path=\"seal\" />".toUTF8 false),
  (["p", "translations.json"],
    .file "\x7b\"en\":\x7b\"subject\":\"S\"\x7d\x7d".toUTF8 false)]⟩

/-- Why the memo cannot be made. -/
def memoProblem : Failure := .inclusion (.unresolvable "seal" ⟨"/p"⟩ .notFound)

/-- A memo that cannot be made, behind a note that can: the failure names the memo and its stage. -/
theorem build_failure_names_memo :
    let run := build noteFiles (notes [note, memo]) fun document _ => .ok document
    run.2 = .error (.failure (.stage "inline-includes" "memo (en)" memoProblem)) ∧
      ∃ reached, ∃ template ∈ [note, memo], ∃ step inner,
        HaltsAt (notes [note, memo]) (fun document _ => .ok document) [] reached template step
            (.failure inner) ∧
          .stage "inline-includes" "memo (en)" memoProblem = Failure.stage step template.label
            inner := by
  intro run
  have hrun : run.2 = .error (.failure (.stage "inline-includes" "memo (en)" memoProblem)) :=
    errorOf?_eq_some_iff.1 (by decide +kernel)
  have hload : Components.load noteFiles (notes [note, memo]).toProject = .ok [] :=
    eq_ok_of_toOption (by decide +kernel)
  have hmade : (ensureDirectory noteFiles (notes [note, memo]).toProject
      Artifact.directoryName).2 = .ok ⟨"/p/dist"⟩ := eq_ok_of_toOption (by decide +kernel)
  obtain ⟨outputs, template, later, reached, htemplates, -, -, hnames, hwrites⟩ :=
    build_failure_names_step noteFiles (notes [note, memo]) _ hload (Prod.ext rfl hmade)
      (Prod.ext rfl hrun)
  refine ⟨hrun, reached, template, ?_, ?_⟩
  · show template ∈ (notes [note, memo]).templates
    rw [htemplates]
    exact List.mem_append_right _ List.mem_cons_self
  · cases hmake : make reached (notes [note, memo]) (fun document _ => .ok document) []
        template with
    | error halt => exact hnames halt hmake
    | ok made =>
      obtain ⟨problem, -, hproblem⟩ := hwrites made.1 made.2 hmake
      nomatch hproblem

/-- The directory that a separator in the name asks for is not there, so the note is made and its
page cannot be written. The failure names neither the note nor the step. -/
theorem failed_write_names_no_template :
    let run := build noteFiles (notes [nestedNote]) fun document _ => .ok document
    Components.load noteFiles (notes [nestedNote]).toProject = .ok [] ∧
      (ensureDirectory noteFiles (notes [nestedNote]).toProject Artifact.directoryName).2 =
        .ok ⟨"/p/dist"⟩ ∧
      run.2 = .error (.failure (.io .notFound)) ∧
      ∀ step label inner, run.2 ≠ .error (.failure (.stage step label inner)) := by
  intro run
  have hrun : run.2 = .error (.failure (.io .notFound)) :=
    errorOf?_eq_some_iff.1 (by decide +kernel)
  refine ⟨eq_ok_of_toOption (by decide +kernel), eq_ok_of_toOption (by decide +kernel), hrun, ?_⟩
  intro step label inner hstage
  nomatch hrun.symm.trans hstage

end Build

end MailTemplates
