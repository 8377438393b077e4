import MailTemplates.Failure
import MailTemplates.Project.Basic
/-!
# Stages and pipes

A stage turns the source of a template into another one or fails. A pipe runs stages one after the
other; a failure is put under the name of the stage and the label of the template, and nothing
behind it is run.

Main statement: `run_append` (running two pipes joined is running the one and then the other).
-/

namespace MailTemplates

/-- A named transformation of a template's source. It may read files and never writes any. -/
structure Stage where
  name : String
  run : FileTree → Project → Template → String → Outcome String

/-- A stage that only looks at the source. -/
def Stage.ofText (name : String) (f : List Char → List Char) : Stage :=
  ⟨name, fun _ _ _ source => .ok (String.ofList (f source.toList))⟩

/-- Stages in the order in which they run. -/
abbrev Pipe := List Stage

namespace Pipe

/-- The names of the stages. -/
def names (pipe : Pipe) : List String := List.map Stage.name pipe

/-- Runs one stage on the source; its failure is put under its name. -/
def runStage (tree : FileTree) (project : Project) (template : Template) (source : String)
    (stage : Stage) : Outcome String :=
  inStage stage.name template.label (stage.run tree project template source)

/-- Feeds the source through all stages. -/
def run (tree : FileTree) (project : Project) (template : Template) (pipe : Pipe)
    (source : String) : Outcome String :=
  List.foldlM (runStage tree project template) source pipe

/-- Stages one after the other: the later ones get what the earlier ones give, if they succeed. -/
theorem run_append (tree : FileTree) (project : Project) (template : Template) (p q : Pipe)
    (source : String) :
    run tree project template (p ++ q) source =
      (run tree project template p source).bind (run tree project template q) := by
  unfold run
  rw [List.foldlM_append]
  rfl

end Pipe

end MailTemplates
