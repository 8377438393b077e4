import MailTemplates.Failure
import MailTemplates.Project.Basic
/-!
# Searching upwards

The root of a project is the nearest directory, going up, that has a package descriptor. A
configuration file is searched for in a directory, then in the one above it, and so on up to the
root; the nearest directory wins, and in it the first of the names.

Main statements: `searchPath_within` (no directory outside the root is searched) and
`readConfig_eq_none` (nothing is found exactly if none of the candidates is a file).
-/

namespace MailTemplates

/-- The nearest directory at or above `directory` that has a package descriptor. -/
def findRoot (tree : FileTree) (directory : Path) : Except Failure Path :=
  match tree.canonical directory with
  | .error problem => .error (.io problem)
  | .ok start =>
    match start.ancestors.find? fun d => tree.isFile (d.join ⟨Package.fileName⟩) with
    | some root => .ok root
    | none => .error (.projectNotFound directory)

/-- Reads a file with a reader of its text. -/
def readWith {α : Type} (tree : FileTree) (parse : String → Except Json.Fault α) (file : Path) :
    Except Failure α :=
  match tree.readText file with
  | .error problem => .error (.io problem)
  | .ok content =>
    match parse content with
    | .ok a => .ok a
    | .error fault => .error (.config (.unreadable file fault))

/-- What a configuration file says, and which file it was. -/
structure Configured (α : Type) where
  value : α
  file : Path

namespace Project

/-- The directories that are searched: the given one, its links followed if it exists, and those
above it, as long as they lie in the root. -/
def searchPath (project : Project) (tree : FileTree) (directory : Path) : List Path :=
  let start := match tree.canonical directory with
    | .ok d => d
    | .error _ => directory
  start.ancestors.takeWhile fun d => d.startsWith project.root

/-- The search stays in the root, as paths are compared part by part. -/
theorem searchPath_within (project : Project) (tree : FileTree) (directory : Path) :
    ∀ d ∈ project.searchPath tree directory, d.startsWith project.root = true := by
  intro d hd
  exact List.all_eq_true.1 (List.all_takeWhile ..) d hd

/-- The files that are searched for, in the order of the search. -/
def candidates (project : Project) (tree : FileTree) (names : List String) (directory : Path) :
    List Path :=
  (project.searchPath tree directory).flatMap fun d => names.map fun name => d.join ⟨name⟩

/-- Reads the first candidate that is a file; one that cannot be read is a failure even if there is
another farther up. -/
def readConfig {α : Type} (project : Project) (tree : FileTree)
    (parse : String → Except Json.Fault α) (names : List String) (directory : Path) :
    Except Failure (Option (Configured α)) :=
  match (project.candidates tree names directory).find? tree.isFile with
  | none => .ok none
  | some file => (readWith tree parse file).map fun value => some ⟨value, file⟩

/-- Nothing is read if none of the candidates is a file. -/
theorem readConfig_eq_none {α : Type} (project : Project) (tree : FileTree)
    (parse : String → Except Json.Fault α) (names : List String) (directory : Path) :
    project.readConfig tree parse names directory = .ok none ↔
      ∀ file ∈ project.candidates tree names directory, tree.isFile file = false := by
  unfold readConfig
  cases h : (project.candidates tree names directory).find? tree.isFile with
  | none => simpa using h
  | some file =>
    have hf := List.find?_some h
    have hm := List.mem_of_find?_eq_some h
    constructor
    · intro he
      cases hr : readWith tree parse file <;> simp [hr, Except.map] at he
    · intro hall
      simp [hall file hm] at hf

/-- What is found is the first candidate that is a file, whatever comes of reading it. -/
theorem readConfig_of_first {α : Type} {project : Project} {tree : FileTree}
    {parse : String → Except Json.Fault α} {names : List String} {directory file : Path}
    (h : (project.candidates tree names directory).find? tree.isFile = some file) :
    project.readConfig tree parse names directory =
      (readWith tree parse file).map fun value => some ⟨value, file⟩ := by
  unfold readConfig
  rw [h]

end Project

end MailTemplates
