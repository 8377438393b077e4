import MailTemplates.FileTree.Resolve
import MailTemplates.Manifest.Template
import MailTemplates.Project.Package
/-!
# Projects

A project is a directory with a package descriptor and a manifest. It is built in one of two modes:
for a preview its templating tags are evaluated, for publishing they are kept.
-/

namespace MailTemplates

/-- What becomes of templating tags: evaluated against sample data, or kept for the time of
sending. -/
inductive Mode where
  | dev
  | prod
deriving DecidableEq, Repr

/-- The name of a mode. -/
def Mode.name : Mode → String
  | dev => "dev"
  | prod => "prod"

/-- What every stage may know about the project it works for. -/
structure Project where
  mode : Mode
  root : Path
  package : Package
  /-- The compiler's configuration, if there is one. -/
  configFile : Option Path
  /-- The files of the custom components. -/
  components : List Path
  /-- In order of their names. -/
  templates : List Template
deriving DecidableEq, Repr

namespace Project

/-- The path of a name that is written relative to the root. -/
def resolve (project : Project) (name : String) : Path := project.root.join ⟨name⟩

/-- A path as seen from the root; one outside stays as it is. -/
def relative (project : Project) (path : Path) : Path :=
  (path.stripPrefix project.root).getD path

/-- Whether there is anything at a name. -/
def contains (project : Project) (tree : FileTree) (name : String) : Bool :=
  tree.pathExists (project.resolve name)

/-- The source document of a template. -/
def sourceOf (project : Project) (template : Template) : Path := project.resolve template.source

/-- The directory of the source document of a template. -/
def directoryOf (project : Project) (template : Template) : Path :=
  (project.sourceOf template).parent.getD project.root

end Project

end MailTemplates
