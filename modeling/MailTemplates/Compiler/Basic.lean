import MailTemplates.Failure
import MailTemplates.Project.Basic
/-!
# Compilers

A compiler turns a preprocessed document into a page. Besides the document it is told which file the
document comes from, where the compiler's configuration is, and which components there are.

Main statement: `Components.load_eq_ok_iff` (components load exactly if all of them are files).
-/

namespace MailTemplates

/-- The files of the custom components of a project, all of which are there. -/
abbrev Components := List Path

namespace Components

/-- Checks the components of a project; the first that is no file is reported. -/
def load (tree : FileTree) (project : Project) : Except Failure Components :=
  match project.components.find? fun c => !tree.isFile c with
  | some missing => .error (.config (.missingComponent (project.relative missing) missing))
  | none => .ok project.components

/-- The components of a project can be used if all of them are files, and then in their order. -/
theorem load_eq_ok_iff (tree : FileTree) (project : Project) (components : Components) :
    load tree project = .ok components ↔
      components = project.components ∧ ∀ c ∈ project.components, tree.isFile c = true := by
  unfold load
  cases h : project.components.find? fun c => !tree.isFile c with
  | some missing =>
    have hm := List.mem_of_find?_eq_some h
    have hf : (!tree.isFile missing) = true := by simpa using List.find?_some h
    simp only [reduceCtorEq, false_iff, not_and]
    intro _ hall
    simp [hall missing hm] at hf
  | none =>
    simp only [List.find?_eq_none, Bool.not_eq_true, Bool.not_eq_false'] at h
    constructor
    · intro he
      cases he
      exact ⟨rfl, h⟩
    · rintro ⟨rfl, -⟩
      rfl

end Components

/-- What a compiler is told besides the document. -/
structure CompileOptions where
  file : Path
  configFile : Option Path
  components : Components
deriving DecidableEq, Repr

/-- Compiles a document. -/
abbrev Compiler := String → CompileOptions → Outcome String

end MailTemplates
