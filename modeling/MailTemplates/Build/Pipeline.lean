import MailTemplates.Compiler.Basic
import MailTemplates.Project.Load
import MailTemplates.Stage.SampleData
/-!
# The pipeline of a project

A template's source is read, goes through the stages before compiling, is compiled, and goes through
the stages behind it. The stages of the project itself stand between the fixed ones.
-/

namespace MailTemplates

/-- The stages before and after compiling. -/
structure Pipeline where
  pre : Pipe
  post : Pipe

namespace Pipeline

/-- The pipeline of a project. -/
def ofProject (project : LoadedProject) : Pipeline where
  pre := [Include.stage, Language.stage, Translation.stage] ++ project.preprocessors ++
    [templatingStage project.mode]
  post := RawMarker.stripStage :: project.postprocessors

/-- The source of a template. -/
def readSource (tree : FileTree) (project : Project) (template : Template) : Outcome String :=
  inStage "read" template.label <|
    match tree.readText (project.sourceOf template) with
    | .ok source => .ok source
    | .error problem => .error (.failure (.io problem))

/-- The document of a template that is given to the compiler. -/
def preprocess (pipeline : Pipeline) (tree : FileTree) (project : Project) (template : Template) :
    Outcome String := do
  pipeline.pre.run tree project template (← readSource tree project template)

/-- What a compiler is told about a template. -/
def optionsFor (project : Project) (components : Components) (template : Template) :
    CompileOptions :=
  ⟨project.sourceOf template, project.configFile, components⟩

/-- The page of a template. -/
def buildTemplate (pipeline : Pipeline) (tree : FileTree) (project : Project) (compiler : Compiler)
    (components : Components) (template : Template) : Outcome String := do
  let document ← pipeline.preprocess tree project template
  let page ← inStage "compile" template.label
    (compiler document (optionsFor project components template))
  pipeline.post.run tree project template page

end Pipeline

end MailTemplates
