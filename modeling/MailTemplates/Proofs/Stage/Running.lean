import MailTemplates.Build.Pipeline
import MailTemplates.Proofs.Fallible
/-!
# Which step stops a template

A template is read, goes through the stages before compiling, is compiled, and goes through the
stages behind it. These are the steps of its pipeline, and each starts from what the one before it
has given. The first that halts stops the template (`Pipe.run_eq_error_iff`): if it fails, the
failure of the pipeline is its own under the name of the step and the label of the template, and if
it crashes, so does the pipeline.

A stage gives a text, fails, or crashes, and naming it changes neither a text nor a crash. So every
lemma comes twice: once for success, where the name can be ignored, and once for halts, where it is
put around the cause (`Halt.under`). A pipe is then a `bind` for each of its stages, and the first
stage that halts is the one at which `List.foldlM` stops.

Main statement: `Pipeline.buildTemplate_eq_error_iff`.
-/

namespace MailTemplates

/-! ## Results that never crash -/

section Uncrashed

variable {α : Type}

theorem uncrashed_eq_ok_iff {r : Except Failure α} {a : α} :
    uncrashed r = .ok a ↔ r = .ok a := by
  cases r with
  | ok b => simp only [uncrashed, Except.ok.injEq]
  | error cause => exact ⟨nofun, nofun⟩

/-- What does not crash fails with a cause. -/
theorem uncrashed_eq_error_iff {r : Except Failure α} {halt : Halt} :
    uncrashed r = .error halt ↔ ∃ cause, r = .error cause ∧ halt = .failure cause := by
  cases r with
  | ok b => exact ⟨nofun, fun ⟨_, h, _⟩ => nomatch h⟩
  | error cause =>
    constructor
    · intro h
      cases h
      exact ⟨cause, rfl, rfl⟩
    · rintro ⟨_, h, rfl⟩
      cases h
      rfl

theorem uncrashed_inj {r s : Except Failure α} : uncrashed r = uncrashed s ↔ r = s := by
  refine ⟨fun h => ?_, congrArg uncrashed⟩
  cases s with
  | ok b => exact uncrashed_eq_ok_iff.1 h
  | error cause =>
    obtain ⟨_, hr, hcause⟩ := uncrashed_eq_error_iff.1 h
    cases hcause
    exact hr

end Uncrashed

/-!
## Halts under a name

A failure goes through one layer for each stage, which adds the name of the stage and the label of
the template.
-/

/-- What a halt of a step is outside of it: a failure is put under the name of the step and the
label of the template, a crash stays what it is. -/
def Halt.under (name label : String) : Halt → Halt
  | .crash => .crash
  | .failure cause => .failure (.stage name label cause)

/-- A failure under a name has its cause within; a crash stays one. -/
theorem Halt.under_eq_failure_iff {name label : String} {halt : Halt} {cause : Failure} :
    halt.under name label = .failure cause ↔
      ∃ inner, halt = .failure inner ∧ cause = .stage name label inner := by
  cases halt with
  | crash => exact ⟨nofun, fun ⟨_, h, _⟩ => nomatch h⟩
  | failure inner =>
    constructor
    · intro h
      cases h
      exact ⟨inner, rfl, rfl⟩
    · rintro ⟨_, h, rfl⟩
      cases h
      rfl

section InStage

variable {α : Type} {name label : String} {r : Outcome α}

/-- Naming a step does not change what it gives. -/
theorem inStage_eq_ok_iff {a : α} : inStage name label r = .ok a ↔ r = .ok a := by
  rcases r with (_ | _) | b
  · exact ⟨nofun, nofun⟩
  · exact ⟨nofun, nofun⟩
  · exact Iff.rfl

theorem inStage_error (name label : String) (halt : Halt) :
    inStage name label (.error halt : Outcome α) = .error (halt.under name label) := by
  cases halt <;> rfl

/-- A named step fails with a halt under its name. -/
theorem inStage_eq_error_iff {halt : Halt} :
    inStage name label r = .error halt ↔
      ∃ inner, r = .error inner ∧ halt = inner.under name label := by
  cases r with
  | ok a => exact ⟨nofun, fun ⟨_, h, _⟩ => nomatch h⟩
  | error inner =>
    rw [inStage_error, Except.error.injEq]
    constructor
    · intro h
      exact ⟨inner, rfl, h.symm⟩
    · rintro ⟨_, h, rfl⟩
      cases h
      rfl

end InStage

/-!
## Pipes

A pipe gives a text or halts. The first stage that halts is found by what the stages before it have
made.
-/

namespace Pipe

variable {tree : FileTree} {project : Project} {template : Template}

/-- A pipe runs its first stage, and the others on what that gives. -/
theorem run_cons (tree : FileTree) (project : Project) (template : Template) (stage : Stage)
    (pipe : Pipe) (source : String) :
    run tree project template (stage :: pipe) source =
      (runStage tree project template source stage).bind (run tree project template pipe) := rfl

theorem run_singleton (tree : FileTree) (project : Project) (template : Template)
    (stage : Stage) (source : String) :
    run tree project template [stage] source = runStage tree project template source stage := by
  rw [run_cons]
  cases runStage tree project template source stage <;> rfl

/-- A pipe does in two places what each of its stages does in both. -/
theorem run_congr {tree' : FileTree} {project' : Project} {pipe : Pipe}
    (h : ∀ stage ∈ pipe, stage.run tree project template = stage.run tree' project' template) :
    run tree project template pipe = run tree' project' template pipe := by
  induction pipe with
  | nil => rfl
  | cons stage pipe ih =>
    rw [List.forall_mem_cons] at h
    funext source
    rw [run_cons, run_cons, runStage, runStage, h.1, ih h.2]

/-- A pipe halts at the first of its stages that halts on what those before it have made. -/
theorem run_eq_error_iff {pipe : Pipe} {source : String} {halt : Halt} :
    run tree project template pipe source = .error halt ↔
      ∃ before stage later reached inner, pipe = before ++ stage :: later ∧
        run tree project template before source = .ok reached ∧
        stage.run tree project template reached = .error inner ∧
        halt = inner.under stage.name template.label := by
  constructor
  · intro h
    induction pipe generalizing source with
    | nil => nomatch h
    | cons stage pipe ih =>
      rw [run_cons] at h
      rcases bind_eq_error_iff.1 h with hstage | ⟨next, hstage, hrest⟩
      · obtain ⟨inner, hrun, rfl⟩ := inStage_eq_error_iff.1 hstage
        exact ⟨[], stage, pipe, source, inner, rfl, rfl, hrun, rfl⟩
      · obtain ⟨before, failing, later, reached, inner, rfl, hbefore, hrun, rfl⟩ := ih hrest
        refine ⟨stage :: before, failing, later, reached, inner, rfl, ?_, hrun, rfl⟩
        rw [run_cons]
        exact bind_eq_ok_iff.2 ⟨next, hstage, hbefore⟩
  · rintro ⟨before, stage, later, reached, inner, rfl, hbefore, hrun, rfl⟩
    rw [run_append, hbefore]
    show run tree project template (stage :: later) reached = _
    rw [run_cons, runStage, hrun, inStage_error]
    rfl

end Pipe

/-!
## Pipelines

A pipeline is two pipes with the compiler between them, and reading in front.
-/

namespace Pipeline

/-- A build reads the source, preprocesses it, compiles it and postprocesses it, and each gets what
the one before gives. -/
theorem buildTemplate_eq (pipeline : Pipeline) (tree : FileTree) (project : Project)
    (compiler : Compiler) (components : Components) (template : Template) :
    pipeline.buildTemplate tree project compiler components template =
      (readSource tree project template).bind fun source =>
        (pipeline.pre.run tree project template source).bind fun document =>
          (inStage "compile" template.label
              (compiler document (optionsFor project components template))).bind
            (pipeline.post.run tree project template) := by
  unfold buildTemplate preprocess
  cases readSource tree project template <;> rfl

/-- The step at which a template stops, and how: what the steps before it have made is what it halts
on. -/
inductive HaltsAt (pipeline : Pipeline) (tree : FileTree) (project : Project) (compiler : Compiler)
    (components : Components) (template : Template) : String → Halt → Prop where
  | read {problem : FileProblem}
      (hread : tree.readText (project.sourceOf template) = .error problem) :
      HaltsAt pipeline tree project compiler components template "read" (.failure (.io problem))
  | before {source reached : String} {front later : Pipe} {stage : Stage} {halt : Halt}
      (hread : tree.readText (project.sourceOf template) = .ok source)
      (hstages : pipeline.pre = front ++ stage :: later)
      (hfront : Pipe.run tree project template front source = .ok reached)
      (hstage : stage.run tree project template reached = .error halt) :
      HaltsAt pipeline tree project compiler components template stage.name halt
  | compile {source document : String} {halt : Halt}
      (hread : tree.readText (project.sourceOf template) = .ok source)
      (hpre : Pipe.run tree project template pipeline.pre source = .ok document)
      (hcompile : compiler document (optionsFor project components template) = .error halt) :
      HaltsAt pipeline tree project compiler components template "compile" halt
  | behind {source document page reached : String} {front later : Pipe} {stage : Stage}
      {halt : Halt}
      (hread : tree.readText (project.sourceOf template) = .ok source)
      (hpre : Pipe.run tree project template pipeline.pre source = .ok document)
      (hcompile : compiler document (optionsFor project components template) = .ok page)
      (hstages : pipeline.post = front ++ stage :: later)
      (hfront : Pipe.run tree project template front page = .ok reached)
      (hstage : stage.run tree project template reached = .error halt) :
      HaltsAt pipeline tree project compiler components template stage.name halt

section Halts

variable {pipeline : Pipeline} {tree : FileTree} {project : Project} {compiler : Compiler}
  {components : Components} {template : Template} {halt : Halt}

/-- The source is read if its file is. -/
theorem readSource_eq_ok_iff {source : String} :
    readSource tree project template = .ok source ↔
      tree.readText (project.sourceOf template) = .ok source := by
  unfold readSource
  rw [inStage_eq_ok_iff]
  cases tree.readText (project.sourceOf template) with
  | ok text => simp only [Except.ok.injEq]
  | error problem => exact ⟨nofun, nofun⟩

/-- If not, the failure is one of reading, under the name of the step. -/
theorem readSource_eq_error_iff :
    readSource tree project template = .error halt ↔
      ∃ problem, tree.readText (project.sourceOf template) = .error problem ∧
        halt = .failure (.stage "read" template.label (.io problem)) := by
  unfold readSource
  rw [inStage_eq_error_iff]
  cases tree.readText (project.sourceOf template) with
  | ok text => exact ⟨fun ⟨_, h, _⟩ => (nomatch h), fun ⟨_, h, _⟩ => (nomatch h)⟩
  | error problem =>
    constructor
    · rintro ⟨_, h, rfl⟩
      cases h
      exact ⟨problem, rfl, rfl⟩
    · rintro ⟨_, h, rfl⟩
      cases h
      exact ⟨_, rfl, rfl⟩

/-- A pipeline stops at one of its steps, and only there; outside, the halt stands under the name of
the step and the label of the template. -/
theorem buildTemplate_eq_error_iff :
    pipeline.buildTemplate tree project compiler components template = .error halt ↔
      ∃ step inner, HaltsAt pipeline tree project compiler components template step inner ∧
        halt = inner.under step template.label := by
  rw [buildTemplate_eq]
  simp only [bind_eq_error_iff, readSource_eq_error_iff, readSource_eq_ok_iff,
    inStage_eq_error_iff, inStage_eq_ok_iff, Pipe.run_eq_error_iff]
  constructor
  · rintro (⟨problem, hread, rfl⟩ | ⟨source, hread,
      ⟨front, stage, later, reached, inner, hstages, hfront, hstage, rfl⟩ | ⟨document, hpre,
        ⟨inner, hcompile, rfl⟩ | ⟨page, hcompile, front, stage, later, reached, inner, hstages,
          hfront, hstage, rfl⟩⟩⟩)
    · exact ⟨"read", _, .read hread, rfl⟩
    · exact ⟨stage.name, inner, .before hread hstages hfront hstage, rfl⟩
    · exact ⟨"compile", inner, .compile hread hpre hcompile, rfl⟩
    · exact ⟨stage.name, inner, .behind hread hpre hcompile hstages hfront hstage, rfl⟩
  · rintro ⟨step, inner, hhalts, rfl⟩
    cases hhalts with
    | read hread => exact .inl ⟨_, hread, rfl⟩
    | before hread hstages hfront hstage =>
      exact .inr ⟨_, hread, .inl ⟨_, _, _, _, inner, hstages, hfront, hstage, rfl⟩⟩
    | compile hread hpre hcompile =>
      exact .inr ⟨_, hread, .inr ⟨_, hpre, .inl ⟨inner, hcompile, rfl⟩⟩⟩
    | behind hread hpre hcompile hstages hfront hstage =>
      exact .inr ⟨_, hread, .inr ⟨_, hpre, .inr ⟨_, hcompile, _, _, _, _, inner, hstages, hfront,
        hstage, rfl⟩⟩⟩

/-- What a pipeline fails with names the stage and the template. -/
theorem stage_of_buildTemplate_error {cause : Failure}
    (h : pipeline.buildTemplate tree project compiler components template =
      .error (.failure cause)) :
    ∃ name inner, cause = .stage name template.label inner := by
  obtain ⟨step, halt, -, hunder⟩ := buildTemplate_eq_error_iff.1 h
  obtain ⟨inner, -, hcause⟩ := Halt.under_eq_failure_iff.1 hunder.symm
  exact ⟨step, inner, hcause⟩

end Halts

end Pipeline

end MailTemplates
