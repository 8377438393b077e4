import MailTemplates.Build.Artifact
import MailTemplates.Build.Pipeline
/-!
# Building a project

All templates are built in order. For each its subject is looked up, its page is made, and both are
written; the first failure ends the run, and what was written before stays.

Main statement: `buildAll_append` (building two lists of templates is building the one and then the
other).
-/

namespace MailTemplates

/-- One template that was built. -/
structure Built where
  name : String
  language : Option String
  source : Path
  page : Path
  subject : Path
  /-- The size of the page in bytes. -/
  size : Nat
deriving DecidableEq, Repr

namespace Build

/-- Writes a file; a failure leaves the tree as it is. -/
def writeFile (tree : FileTree) (path : Path) (content : String) : FileTree × Outcome Unit :=
  match tree.writeText path content with
  | .ok tree => (tree, .ok ())
  | .error problem => (tree, .error (.failure (.io problem)))

/-- The subject and the page of a template. -/
def make (tree : FileTree) (project : LoadedProject) (compiler : Compiler)
    (components : Components) (template : Template) : Outcome (String × String) := do
  let subject ← inStage "subject" template.label
    (uncrashed (Translation.subject tree project.toProject template))
  let page ← (Pipeline.ofProject project).buildTemplate tree project.toProject compiler components
    template
  return (subject, page)

/-- Writes the page and the subject of a template. -/
def store (tree : FileTree) (project : Project) (template : Template) (subject page : String) :
    FileTree × Outcome Built :=
  let pagePath := Artifact.pagePath project template
  let subjectPath := Artifact.subjectPath project template
  match writeFile tree pagePath page with
  | (tree, .error halt) => (tree, .error halt)
  | (tree, .ok ()) =>
    match writeFile tree subjectPath subject with
    | (tree, .error halt) => (tree, .error halt)
    | (tree, .ok ()) =>
      (tree, .ok {
        name := template.name
        language := template.language
        source := project.sourceOf template
        page := pagePath
        subject := subjectPath
        size := page.utf8ByteSize })

/-- Builds one template. -/
def buildOne (project : LoadedProject) (compiler : Compiler) (components : Components)
    (tree : FileTree) (template : Template) : FileTree × Outcome Built :=
  match make tree project compiler components template with
  | .error halt => (tree, .error halt)
  | .ok (subject, page) => store tree project.toProject template subject page

/-- Builds templates until one fails. -/
def buildAll (project : LoadedProject) (compiler : Compiler) (components : Components) :
    FileTree → List Template → FileTree × Outcome (List Built)
  | tree, [] => (tree, .ok [])
  | tree, template :: rest =>
    match buildOne project compiler components tree template with
    | (tree, .error halt) => (tree, .error halt)
    | (tree, .ok built) =>
      match buildAll project compiler components tree rest with
      | (tree, .error halt) => (tree, .error halt)
      | (tree, .ok more) => (tree, .ok (built :: more))

/-- Building two lists of templates one after the other: the second starts on the tree that the
first has left, and only if the first succeeded. -/
theorem buildAll_append (project : LoadedProject) (compiler : Compiler) (components : Components)
    (tree : FileTree) (xs ys : List Template) :
    buildAll project compiler components tree (xs ++ ys) =
      match buildAll project compiler components tree xs with
      | (tree, .error halt) => (tree, .error halt)
      | (tree, .ok built) =>
        match buildAll project compiler components tree ys with
        | (tree, .error halt) => (tree, .error halt)
        | (tree, .ok more) => (tree, .ok (built ++ more)) := by
  induction xs generalizing tree with
  | nil =>
    simp only [List.nil_append, buildAll]
    rcases buildAll project compiler components tree ys with ⟨t, h | m⟩ <;> simp
  | cons x xs ih =>
    simp only [List.cons_append, buildAll]
    rcases buildOne project compiler components tree x with ⟨t, h | b⟩
    · rfl
    · simp only [ih]
      rcases buildAll project compiler components t xs with ⟨t', h | m⟩
      · rfl
      · simp only
        rcases buildAll project compiler components t' ys with ⟨t'', h | m'⟩ <;> rfl

end Build

/-- Builds every template of a project. If a component is missing nothing is made at all. -/
def build (tree : FileTree) (project : LoadedProject) (compiler : Compiler) :
    FileTree × Outcome (List Built) :=
  match Components.load tree project.toProject with
  | .error failure => (tree, .error (.failure failure))
  | .ok components =>
    match ensureDirectory tree project.toProject Artifact.directoryName with
    | (tree, .error failure) => (tree, .error (.failure failure))
    | (tree, .ok _) => Build.buildAll project compiler components tree project.templates

end MailTemplates
