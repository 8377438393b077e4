import MailTemplates.Project.Cascade
import MailTemplates.Stage.Basic
/-!
# Translations of a template

A translations file holds an object for each language. The nearest one counts for a template, even
if it lacks the template's language: then the table is empty. The body of the template and its
subject come from the same table.

Main statements: `translate_of_no_table` (without a table the source stays as it is) and
`subject_ne_empty` (a subject is never empty).
-/

namespace MailTemplates.Translation

/-- The file with the translations. -/
def fileName : String := "translations.json"

/-- The table of a language in the members of a translations file. -/
def tableOf (language : String) (file : Path) (languages : Members) :
    Except TranslationProblem Members :=
  match languages.get? language with
  | some (.object table) => .ok table
  | some _ => .error (.notObject language file)
  | none => .ok []

/-- The table of a template and the file it comes from; nothing for a template without a language,
and nothing if there is no file. -/
def tableFor (tree : FileTree) (project : Project) (template : Template) :
    Except Failure (Option (Members × Path)) :=
  match template.language with
  | none => .ok none
  | some language =>
    match project.readConfig tree (Json.readAll (Json.Cursor.plainObject Json.Cursor.depthLimit))
        [fileName] (project.directoryOf template) with
    | .error failure => .error failure
    | .ok none => .ok none
    | .ok (some found) =>
      match tableOf language found.file found.value with
      | .ok table => .ok (some (table, found.file))
      | .error problem => .error (.translation problem)

/-- The source with its placeholders filled. -/
def translate (tree : FileTree) (project : Project) (template : Template) (source : String) :
    Except Failure String :=
  match tableFor tree project template with
  | .error failure => .error failure
  | .ok none => .ok source
  | .ok (some (table, file)) =>
    match interpolate table source.toList with
    | .ok cs => .ok (String.ofList cs)
    | .error problem => .error (.translation (.placeholderFrom problem file))

/-- Without a table a source stays as it is. -/
theorem translate_of_no_table {tree : FileTree} {project : Project} {template : Template}
    (h : tableFor tree project template = .ok none) (source : String) :
    translate tree project template source = .ok source := by
  simp [translate, h]

/-- The stage that fills the placeholders of a source. -/
def stage : Stage where
  name := "translations"
  run tree project template source := uncrashed (translate tree project template source)

/-- The subject of a template: the text under `subject` in its table. -/
def subject (tree : FileTree) (project : Project) (template : Template) : Except Failure String :=
  match template.language with
  | none => .error (.translation (.noLanguage template.name))
  | some language =>
    match tableFor tree project template with
    | .error failure => .error failure
    | .ok none => .error (.translation (.noFile fileName template.name))
    | .ok (some (table, file)) =>
      match table.get? "subject" with
      | some (.string s) =>
        if s.isEmpty then .error (.translation (.noSubject file language template.name)) else .ok s
      | _ => .error (.translation (.noSubject file language template.name))

/-- A subject that is found is not empty, wherever it comes from. -/
theorem subject_ne_empty {tree : FileTree} {project : Project} {template : Template} {s : String}
    (h : subject tree project template = .ok s) : s.isEmpty = false := by
  unfold subject at h
  split at h
  · cases h
  · split at h
    · cases h
    · cases h
    · split at h
      · split at h
        · cases h
        · next hs =>
          cases h
          simpa using hs
      · cases h

end MailTemplates.Translation
