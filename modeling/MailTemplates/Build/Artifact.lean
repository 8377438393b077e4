import MailTemplates.FileTree.Write
import MailTemplates.Failure
import MailTemplates.Project.Basic
/-!
# Where built templates go

A built template is two files in the output directory, one with its page and one with its subject.
Both are named after the template and its language.
-/

namespace MailTemplates

namespace Artifact

/-- The output directory, relative to the root. -/
def directoryName : String := "dist"

/-- What the names of the two files start with. -/
def stem (template : Template) : String := template.name ++ "." ++ template.language.getD ""

/-- The output directory of a project. -/
def directory (project : Project) : Path := project.resolve directoryName

/-- The file for the page of a template. -/
def pagePath (project : Project) (template : Template) : Path :=
  (directory project).join ⟨stem template ++ ".html"⟩

/-- The file for the subject of a template. -/
def subjectPath (project : Project) (template : Template) : Path :=
  (directory project).join ⟨stem template ++ ".subject.hbs"⟩

end Artifact

/-- Makes a directory of a project, with those above it, unless there is something of that name. -/
def ensureDirectory (tree : FileTree) (project : Project) (name : String) :
    FileTree × Except Failure Path :=
  let path := project.resolve name
  if project.contains tree name then (tree, .ok path)
  else
    match tree.makeDirectories path with
    | (tree, .ok ()) => (tree, .ok path)
    | (tree, .error problem) => (tree, .error (.io problem))

end MailTemplates
