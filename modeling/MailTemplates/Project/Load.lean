import MailTemplates.Project.Cascade
import MailTemplates.Stage.Registry
/-!
# Loading a project

A project is loaded from a directory in or below it. Its descriptor and its manifest are read, the
stages that the manifest names are looked up in a registry, the templates are put in the order of
their names, and the compiler's configuration is read if there is one.

Main statements: `perm_sortTemplates` (sorting loses no template) and `pairwise_sortTemplates`.
-/

namespace MailTemplates

/-- A project and the stages it adds before and after compiling. -/
structure LoadedProject extends Project where
  preprocessors : List Stage
  postprocessors : List Stage

namespace LoadedProject

/-- The file with the manifest. -/
def manifestName : String := "templates.json"

/-- Reads a manifest. -/
def readManifest (tree : FileTree) (file : Path) : Except Failure Manifest :=
  match tree.readText file with
  | .error problem => .error (.manifest file (.unreadable problem))
  | .ok content =>
    match Manifest.parse content with
    | .ok manifest => .ok manifest
    | .error problem => .error (.manifest file problem)

/-- Whether the name of a template is not behind that of another one. -/
def nameLe (a b : Template) : Bool := decide (a.name ≤ b.name)

/-- Templates in the order of their names; those of equal name stay in their order. -/
def sortTemplates (templates : List Template) : List Template := templates.mergeSort nameLe

theorem perm_sortTemplates (templates : List Template) :
    (sortTemplates templates).Perm templates := List.mergeSort_perm templates nameLe

/-- Sorted templates ascend by their names. -/
theorem pairwise_sortTemplates (templates : List Template) :
    (sortTemplates templates).Pairwise fun a b => nameLe a b = true :=
  List.pairwise_mergeSort
    (fun a b c hab hbc => by
      simp only [nameLe, decide_eq_true_eq] at *
      exact String.le_trans hab hbc)
    (fun a b => by
      simp only [nameLe, Bool.or_eq_true, decide_eq_true_eq]
      exact String.le_total a.name b.name)
    templates

/-- Adds what the compiler's configuration says, if there is one. -/
def configure (tree : FileTree) (project : Project) : Except Failure Project := do
  match ← project.readConfig tree CompilerConfig.parse [CompilerConfig.fileName] project.root with
  | none => return project
  | some found => return { project with
      configFile := some found.file
      components := found.value.packages.map project.resolve }

/-- Loads the project that a directory belongs to. -/
def load (tree : FileTree) (registry : Registry) (mode : Mode) (directory : Path) :
    Except Failure LoadedProject := do
  let root ← findRoot tree directory
  let package ← readWith tree Package.parse (root.join ⟨Package.fileName⟩)
  let manifest ← readManifest tree (root.join ⟨manifestName⟩)
  let preprocessors ← registry.resolveAll manifest.preprocessors
  let postprocessors ← registry.resolveAll manifest.postprocessors
  let project ← configure tree {
    mode, root, package
    configFile := none
    components := []
    templates := sortTemplates manifest.templates }
  return { project with preprocessors, postprocessors }

end LoadedProject

end MailTemplates
