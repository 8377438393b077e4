import MailTemplates.Handlebars.Render
import MailTemplates.Json.Parser
import MailTemplates.Project.Cascade
import MailTemplates.Stage.RawMarker
/-!
# Previewing with sample data

For a preview the templating tags of a document are rendered. What they see is the descriptor of the
template with the nearest sample data laid over it: the file named after the template, the one named
after its source document, or the common one.
-/

namespace MailTemplates.SampleData

/-- The file with data for all templates. -/
def fileName : String := "data.json"

/-- The names that sample data for a template may have, the most particular first. -/
def names (template : Template) : List String :=
  let own := template.name ++ ".json"
  let document := match (⟨template.source⟩ : Path).fileStem with
    | some stem => stem ++ ".json"
    | none => own
  [own, document, fileName]

/-- The members that sample data adds; only an object adds any. -/
def membersOf : Option (Configured Json) → Members
  | some ⟨.object members, _⟩ => members
  | _ => []

/-- What the tags of a template see. -/
def context (tree : FileTree) (project : Project) (template : Template) : Except Failure Json :=
  (project.readConfig tree Json.parse (names template) (project.directoryOf template)).map
    fun found => .object (template.members.overlay (membersOf found))

/-- Renders a source against a context. -/
abbrev Renderer := String → Json → Except Failure String

/-- The renderer of templating tags. -/
def handlebars : Renderer := fun source context =>
  match Handlebars.render source context with
  | .ok output => .ok output
  | .error fault => .error (.templating fault)

/-- The stage that renders templating tags. -/
def stageWith (renderer : Renderer) : Stage where
  name := "templating"
  run tree project template source := uncrashed do
    renderer source (← context tree project template)

/-- The stage that renders templating tags with the renderer for them. -/
def stage : Stage := stageWith handlebars

end MailTemplates.SampleData

namespace MailTemplates

/-- What is done to templating tags in a mode. -/
def templatingStage : Mode → Stage
  | .dev => SampleData.stage
  | .prod => RawMarker.deferStage

end MailTemplates
