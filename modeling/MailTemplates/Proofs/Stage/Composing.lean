import MailTemplates.Proofs.Stage.Running
/-!
# A pipe as the composition of its stages

The stages of a pipe make one text after another, each from the one before it (`Pipe.Makes`). A pipe
that is cut in two anywhere is the first part and then the second on what that has made
(`Pipe.makes_append_iff`). If a stage halts on the text that it is given, the pipe has come to its
end there: which stages stand behind it is of no account (`Pipe.HaltsBehind.run_eq`), and there is
one such stage at most (`Pipe.HaltsBehind.unique`). So there is one step at most at which a template
stops, and that step gives its name to the failure.

The reading of the source and the compiling are made into stages (`readStage`, `compileStage`), so
that a build is one pipe and one set of lemmas applies to all of it. Where it halts is described by
the text in front of the stage that halts; two such descriptions are compared by where they cut the
pipe, and the shorter front would have to make a text and to halt on it at once
(`HaltsBehind.unique`).

Main statement: `Pipeline.failure_names_first_step`.
-/

namespace MailTemplates

namespace Pipe

variable {tree : FileTree} {project : Project} {template : Template} {pipe : Pipe}
  {source : String}

/-- The text that the stages of a pipe make of another one, each from what the stage before it has
made. -/
inductive Makes (tree : FileTree) (project : Project) (template : Template) :
    Pipe → String → String → Prop where
  | done (source : String) : Makes tree project template [] source source
  | stage {stage : Stage} {pipe : Pipe} {source next out : String}
      (hstage : stage.run tree project template source = .ok next)
      (hrest : Makes tree project template pipe next out) :
      Makes tree project template (stage :: pipe) source out

/-- A pipe gives what its stages make, one after the other. -/
theorem run_eq_ok_iff {out : String} :
    run tree project template pipe source = .ok out ↔
      Makes tree project template pipe source out := by
  constructor
  · intro h
    induction pipe generalizing source with
    | nil =>
      cases h
      exact .done _
    | cons stage pipe ih =>
      rw [run_cons, bind_eq_ok_iff] at h
      obtain ⟨next, hstage, hrest⟩ := h
      exact .stage (inStage_eq_ok_iff.1 hstage) (ih hrest)
  · intro h
    induction h with
    | done source => rfl
    | stage hstage _ ih =>
      rw [run_cons, bind_eq_ok_iff]
      exact ⟨_, inStage_eq_ok_iff.2 hstage, ih⟩

/-- Two pipes in a row make what the second makes of what the first does. -/
theorem makes_append_iff {p q : Pipe} {out : String} :
    Makes tree project template (p ++ q) source out ↔
      ∃ middle, Makes tree project template p source middle ∧
        Makes tree project template q middle out := by
  simp only [← run_eq_ok_iff]
  rw [run_append, bind_eq_ok_iff]

/-- That a pipe comes to a stage that halts on what the stages before it have made. -/
def HaltsBehind (tree : FileTree) (project : Project) (template : Template) (pipe : Pipe)
    (source : String) (before : Pipe) (stage : Stage) (halt : Halt) : Prop :=
  ∃ later reached, pipe = before ++ stage :: later ∧
    Makes tree project template before source reached ∧
    stage.run tree project template reached = .error halt

/-- A pipe fails with the halt of the stage at which it ends, under the name of that stage. -/
theorem run_eq_error_iff_haltsBehind {halt : Halt} :
    run tree project template pipe source = .error halt ↔
      ∃ before stage inner, HaltsBehind tree project template pipe source before stage inner ∧
        halt = inner.under stage.name template.label := by
  rw [run_eq_error_iff]
  constructor
  · rintro ⟨before, stage, later, reached, inner, hpipe, hbefore, hstage, rfl⟩
    exact ⟨before, stage, inner, ⟨later, reached, hpipe, run_eq_ok_iff.1 hbefore, hstage⟩, rfl⟩
  · rintro ⟨before, stage, inner, ⟨later, reached, hpipe, hbefore, hstage⟩, rfl⟩
    exact ⟨before, stage, later, reached, inner, hpipe, run_eq_ok_iff.2 hbefore, hstage, rfl⟩

namespace HaltsBehind

variable {before : Pipe} {stage : Stage} {halt : Halt}

/-- What would come behind the stage that halts makes no difference. -/
theorem run_eq (h : HaltsBehind tree project template pipe source before stage halt)
    (later : Pipe) :
    run tree project template (before ++ stage :: later) source =
      .error (halt.under stage.name template.label) := by
  obtain ⟨-, reached, -, hbefore, hstage⟩ := h
  exact run_eq_error_iff_haltsBehind.2
    ⟨before, stage, halt, ⟨later, reached, rfl, hbefore, hstage⟩, rfl⟩

/-- A pipe that ends behind its first stage ends there in the rest. -/
theorem of_cons {first : Stage} {next : String}
    (h : HaltsBehind tree project template (first :: pipe) source (first :: before) stage halt)
    (hfirst : first.run tree project template source = .ok next) :
    HaltsBehind tree project template pipe next before stage halt := by
  obtain ⟨later, reached, hpipe, hbefore, hstage⟩ := h
  refine ⟨later, reached, (List.cons.inj hpipe).2, ?_, hstage⟩
  cases hbefore with
  | stage hother hrest =>
    cases hfirst.symm.trans hother
    exact hrest

/-- The first stage either halts, or makes a text on which the others go on. -/
theorem cases_cons {first : Stage}
    (h : HaltsBehind tree project template (first :: pipe) source before stage halt) :
    (before = [] ∧ stage = first ∧ first.run tree project template source = .error halt) ∨
      ∃ rest next, before = first :: rest ∧ first.run tree project template source = .ok next ∧
        HaltsBehind tree project template pipe next rest stage halt := by
  cases before with
  | nil =>
    obtain ⟨later, reached, hpipe, hbefore, hstage⟩ := h
    cases hpipe
    cases hbefore
    exact .inl ⟨rfl, rfl, hstage⟩
  | cons other rest =>
    obtain ⟨later, reached, hpipe, hbefore, hstage⟩ := id h
    cases hpipe
    cases hbefore with
    | stage hfirst _ => exact .inr ⟨rest, _, rfl, hfirst, h.of_cons hfirst⟩

/-- There is one stage at which a pipe ends. -/
theorem unique {before' : Pipe} {stage' : Stage} {halt' : Halt}
    (h : HaltsBehind tree project template pipe source before stage halt)
    (h' : HaltsBehind tree project template pipe source before' stage' halt') :
    before' = before ∧ stage' = stage ∧ halt' = halt := by
  induction pipe generalizing source before before' with
  | nil =>
    obtain ⟨later, -, hpipe, -⟩ := h
    exact absurd hpipe.symm (by simp)
  | cons first pipe ih =>
    rcases h.cases_cons with ⟨rfl, rfl, hhalts⟩ | ⟨rest, next, rfl, hmakes, hrest⟩
    · rcases h'.cases_cons with ⟨rfl, rfl, hhalts'⟩ | ⟨rest', next', rfl, hmakes', -⟩
      · exact ⟨rfl, rfl, Except.error.inj (hhalts'.symm.trans hhalts)⟩
      · nomatch hhalts.symm.trans hmakes'
    · rcases h'.cases_cons with ⟨rfl, rfl, hhalts'⟩ | ⟨rest', next', rfl, hmakes', hrest'⟩
      · nomatch hhalts'.symm.trans hmakes
      · cases hmakes'.symm.trans hmakes
        obtain ⟨rfl, rfl, rfl⟩ := ih hrest hrest'
        exact ⟨rfl, rfl, rfl⟩

end HaltsBehind

end Pipe

namespace Pipeline

variable {pipeline : Pipeline} {tree : FileTree} {project : Project} {compiler : Compiler}
  {components : Components} {template : Template} {step : String} {halt : Halt}

/-- Reading the source of a template as a stage, which looks at no text before it. -/
def readStage : Stage where
  name := "read"
  run tree project template _ :=
    match tree.readText (project.sourceOf template) with
    | .ok source => .ok source
    | .error problem => .error (.failure (.io problem))

/-- Compiling as a stage. -/
def compileStage (compiler : Compiler) (components : Components) : Stage where
  name := "compile"
  run _ project template document := compiler document (optionsFor project components template)

/-- All steps by which a template becomes a page, as one pipe. -/
def steps (pipeline : Pipeline) (compiler : Compiler) (components : Components) : Pipe :=
  readStage :: (pipeline.pre ++ compileStage compiler components :: pipeline.post)

/-- A template is read, preprocessed, compiled and postprocessed. -/
theorem names_steps (pipeline : Pipeline) (compiler : Compiler) (components : Components) :
    (pipeline.steps compiler components).names =
      "read" :: (pipeline.pre.names ++ "compile" :: pipeline.post.names) := by
  simp [steps, Pipe.names, readStage, compileStage]

/-- Building a template runs these steps as one pipe. -/
theorem buildTemplate_eq_run (pipeline : Pipeline) (tree : FileTree) (project : Project)
    (compiler : Compiler) (components : Components) (template : Template) :
    pipeline.buildTemplate tree project compiler components template =
      Pipe.run tree project template (pipeline.steps compiler components) "" := by
  rw [buildTemplate_eq, steps, Pipe.run_cons]
  show (readSource tree project template).bind _ = (readSource tree project template).bind _
  congr 1
  funext source
  rw [Pipe.run_append]
  congr 1

/-- The first step gives the source. -/
theorem makes_read {source : String} (h : tree.readText (project.sourceOf template) = .ok source) :
    Pipe.Makes tree project template [readStage] "" source := by
  refine .stage ?_ (.done source)
  simp only [readStage, h]

/-- Stopping at a step is halting at the stage of that name. -/
theorem HaltsAt.haltsBehind
    (h : pipeline.HaltsAt tree project compiler components template step halt) :
    ∃ before stage, Pipe.HaltsBehind tree project template (pipeline.steps compiler components) ""
      before stage halt ∧ stage.name = step := by
  -- In front of the stage that halts stand the steps before it, and what they make is put together
  -- part by part.
  cases h with
  | read hread =>
    refine ⟨[], readStage, ⟨_, "", rfl, .done "", ?_⟩, rfl⟩
    simp only [readStage, hread]
  | @before source reached front later stage _ hread hstages hfront hstage =>
    refine ⟨[readStage] ++ front, stage,
      ⟨later ++ compileStage compiler components :: pipeline.post, reached, ?_, ?_, hstage⟩, rfl⟩
    · simp [steps, hstages]
    · exact Pipe.makes_append_iff.2 ⟨_, makes_read hread, Pipe.run_eq_ok_iff.1 hfront⟩
  | @compile source document _ hread hpre hcompile =>
    refine ⟨[readStage] ++ pipeline.pre, compileStage compiler components,
      ⟨pipeline.post, document, rfl, ?_, hcompile⟩, rfl⟩
    exact Pipe.makes_append_iff.2 ⟨_, makes_read hread, Pipe.run_eq_ok_iff.1 hpre⟩
  | @behind source document page reached front later stage _ hread hpre hcompile hstages hfront
      hstage =>
    refine ⟨[readStage] ++ (pipeline.pre ++ ([compileStage compiler components] ++ front)), stage,
      ⟨later, reached, ?_, ?_, hstage⟩, rfl⟩
    · simp [steps, hstages]
    · have hcompiled : Pipe.Makes tree project template [compileStage compiler components]
          document page := .stage hcompile (.done page)
      exact Pipe.makes_append_iff.2 ⟨_, makes_read hread, Pipe.makes_append_iff.2
        ⟨_, Pipe.run_eq_ok_iff.1 hpre, Pipe.makes_append_iff.2
          ⟨_, hcompiled, Pipe.run_eq_ok_iff.1 hfront⟩⟩⟩

/-- A build ends at one step. -/
theorem HaltsAt.unique {step' : String} {halt' : Halt}
    (h : pipeline.HaltsAt tree project compiler components template step halt)
    (h' : pipeline.HaltsAt tree project compiler components template step' halt') :
    step' = step ∧ halt' = halt := by
  obtain ⟨before, stage, hbehind, rfl⟩ := h.haltsBehind
  obtain ⟨before', stage', hbehind', rfl⟩ := h'.haltsBehind
  obtain ⟨-, rfl, rfl⟩ := hbehind.unique hbehind'
  exact ⟨rfl, rfl⟩

/-- That is one of its steps. -/
theorem HaltsAt.mem_steps
    (h : pipeline.HaltsAt tree project compiler components template step halt) :
    step = "read" ∨ step ∈ pipeline.pre.names ∨ step = "compile" ∨ step ∈ pipeline.post.names := by
  obtain ⟨before, stage, ⟨later, -, hsteps, -⟩, rfl⟩ := h.haltsBehind
  have hmem : stage.name ∈ (pipeline.steps compiler components).names := by
    rw [hsteps]
    exact List.mem_map.2 ⟨stage, List.mem_append_right _ List.mem_cons_self, rfl⟩
  rw [names_steps, List.mem_cons, List.mem_append, List.mem_cons] at hmem
  exact hmem

/-- A pipe is the composition of its stages, cut in two anywhere. It halts exactly if one of them
halts on what those before it have made; that one alone decides, what stands behind it does not
matter, and its halt is put once under its name and the label of the template. A template goes
through one pipe: reading, the stages before compiling, compiling, and the stages behind. So a
failure is that of the one step that stops the template, once under the name of that step and the
label of the template. -/
theorem failure_names_first_step (tree : FileTree) (project : Project) (template : Template) :
    (∀ p q source, Pipe.run tree project template (p ++ q) source =
        (Pipe.run tree project template p source).bind (Pipe.run tree project template q)) ∧
      (∀ pipe source out, Pipe.run tree project template pipe source = .ok out ↔
        Pipe.Makes tree project template pipe source out) ∧
      (∀ pipe source halt, Pipe.run tree project template pipe source = .error halt ↔
        ∃ before stage inner,
          Pipe.HaltsBehind tree project template pipe source before stage inner ∧
          halt = inner.under stage.name template.label) ∧
      (∀ pipe source before stage halt,
        Pipe.HaltsBehind tree project template pipe source before stage halt →
          (∀ later, Pipe.run tree project template (before ++ stage :: later) source =
            .error (halt.under stage.name template.label)) ∧
          ∀ before' stage' halt',
            Pipe.HaltsBehind tree project template pipe source before' stage' halt' →
              before' = before ∧ stage' = stage ∧ halt' = halt) ∧
      ∀ (pipeline : Pipeline) (compiler : Compiler) (components : Components),
        pipeline.buildTemplate tree project compiler components template =
            Pipe.run tree project template (pipeline.steps compiler components) "" ∧
          (pipeline.steps compiler components).names =
            "read" :: (pipeline.pre.names ++ "compile" :: pipeline.post.names) ∧
          (∀ cause, pipeline.buildTemplate tree project compiler components template =
              .error (.failure cause) ↔
            ∃ step inner, pipeline.HaltsAt tree project compiler components template step
              (.failure inner) ∧ cause = .stage step template.label inner) ∧
          ∀ step halt, pipeline.HaltsAt tree project compiler components template step halt →
            (step = "read" ∨ step ∈ pipeline.pre.names ∨ step = "compile" ∨
              step ∈ pipeline.post.names) ∧
            ∀ step' halt',
              pipeline.HaltsAt tree project compiler components template step' halt' →
                step' = step ∧ halt' = halt := by
  refine ⟨fun p q source => Pipe.run_append tree project template p q source,
    fun pipe source out => Pipe.run_eq_ok_iff,
    fun pipe source halt => Pipe.run_eq_error_iff_haltsBehind,
    fun pipe source before stage halt hbehind =>
      ⟨hbehind.run_eq, fun _ _ _ hother => hbehind.unique hother⟩,
    fun pipeline compiler components => ?_⟩
  refine ⟨buildTemplate_eq_run _ _ _ _ _ _, names_steps _ _ _, fun cause => ?_,
    fun step halt hhalts => ⟨hhalts.mem_steps, fun _ _ hother => hhalts.unique hother⟩⟩
  rw [buildTemplate_eq_error_iff]
  constructor
  · rintro ⟨step, halt, hhalts, hunder⟩
    obtain ⟨inner, rfl, hcause⟩ := Halt.under_eq_failure_iff.1 hunder.symm
    exact ⟨step, inner, hhalts, hcause⟩
  · rintro ⟨step, inner, hhalts, rfl⟩
    exact ⟨step, .failure inner, hhalts, rfl⟩

end Pipeline

end MailTemplates
