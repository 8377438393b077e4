import MailTemplates.Json.Schema
import MailTemplates.Manifest.Template
import MailTemplates.FileTree.Basic
/-!
# Manifests

The manifest lists the templates of a project and names the processors that run on them. A text is a
manifest if it is JSON, if the whole satisfies one schema and if every template entry satisfies
another; the entries are looked at one by one, so that a violation names its entry.

Main statements: `firstViolation_eq_none_iff` (a value is accepted exactly if neither the whole nor
any entry has a violation) and `ofJson_eq_ok_iff` (which values describe which manifest).
-/

namespace MailTemplates

open Json (Problem Fault Schema Violation)

/-- The templates of a project, and the processors it adds before and after compiling. -/
structure Manifest where
  templates : List Template
  preprocessors : List String
  postprocessors : List String
deriving DecidableEq, Repr

/-- The part of a manifest that a violation is in. -/
inductive ManifestField where
  | whole
  | entry (index : Nat)
deriving DecidableEq, Repr

/-- The name of a part in messages. -/
def ManifestField.name : ManifestField → String
  | whole => "manifest"
  | entry index => s!"templates[{index}]"

/-- Why a text is not a manifest. -/
inductive ManifestProblem where
  | unreadable (problem : FileProblem)
  | notJson (fault : Fault)
  | violation (field : ManifestField) (violation : Violation)
  | mistyped (problem : Problem)
deriving DecidableEq, Repr

/-- The wording of a problem. -/
def ManifestProblem.message : ManifestProblem → String
  | unreadable problem => problem.message
  | notJson fault => s!"invalid JSON: {fault.message}"
  | violation field v => s!"{field.name}: {v.message}"
  | mistyped problem => problem.message

namespace Manifest

/-- What the whole has to be. -/
def schema : Schema :=
  .record ["templates"] [
    ("postprocessors", .list 0 (.text 0)),
    ("preprocessors", .list 0 (.text 0)),
    ("templates", .list 1 .any)]

/-- What every template entry has to be. -/
def entrySchema : Schema :=
  .record ["id", "name", "template"] [
    ("id", .text 1),
    ("language", .text 0),
    ("name", .text 1),
    ("subject", .text 0),
    ("template", .text 1)]

/-- The template entries of a value. -/
def entriesOf (v : Json) : List Json :=
  match v.get? "templates" with
  | some (.array entries) => entries
  | _ => []

/-- The first violation among entries, the first of which has an index. -/
def entryViolation : Nat → List Json → Option (ManifestField × Violation)
  | _, [] => none
  | index, entry :: entries =>
    match entrySchema.violation entry with
    | some v => some (.entry index, v)
    | none => entryViolation (index + 1) entries

/-- The first violation: by the whole, else by the first entry that has one. -/
def firstViolation (v : Json) : Option (ManifestField × Violation) :=
  match schema.violation v with
  | some problem => some (.whole, problem)
  | none => entryViolation 0 (entriesOf v)

/-- No violation is found among entries if each of them follows the schema. -/
theorem entryViolation_eq_none_iff (entries : List Json) :
    ∀ index, entryViolation index entries = none ↔
      ∀ e ∈ entries, entrySchema.violation e = none := by
  induction entries with
  | nil => simp [entryViolation]
  | cons e entries ih =>
    intro index
    unfold entryViolation
    cases h : entrySchema.violation e with
    | some v => simp [h]
    | none => simp [h, ih]

/-- A manifest follows its schema if the whole does and each entry does. -/
theorem firstViolation_eq_none_iff (v : Json) :
    firstViolation v = none ↔
      schema.violation v = none ∧ ∀ e ∈ entriesOf v, entrySchema.violation e = none := by
  unfold firstViolation
  cases schema.violation v with
  | some p => simp
  | none => simp [entryViolation_eq_none_iff]

/-! ## Reading -/

private def namesOf (v : Json) (key : String) : Except Problem (List String) :=
  match v.get? key with
  | none => .ok []
  | some (.array names) => names.mapM fun
    | .string s => .ok s
    | w => .error (.invalidType w.found "a string")
  | some w => .error (.invalidType w.found "a sequence")

/-- The manifest that a value describes. -/
def ofJson (v : Json) : Except Problem Manifest := do
  match v.get? "templates" with
  | some (.array entries) =>
    return {
      templates := ← entries.mapM Template.ofJson
      preprocessors := ← namesOf v "preprocessors"
      postprocessors := ← namesOf v "postprocessors" }
  | some w => throw (.invalidType w.found "a sequence")
  | none => throw (.missingField "templates")

/-- Items are read as names if they are strings. -/
private theorem mapM_textOf_eq_ok_iff {items : List Json} {names : List String} :
    (items.mapM fun
      | .string s => Except.ok s
      | w => Except.error (Problem.invalidType w.found "a string")) = .ok names ↔
      items = names.map Json.string := by
  induction items generalizing names with
  | nil => cases names <;> simp [pure, Except.pure]
  | cons item items ih =>
    rw [List.mapM_cons]
    cases names with
    | nil =>
      refine ⟨fun h => ?_, nofun⟩
      cases item with
      | string s => revert h; cases List.mapM (m := Except Problem) _ items <;> nofun
      | _ => nomatch h
    | cons name names =>
      rw [List.map_cons, List.cons.injEq, ← ih]
      cases item with
      | string s =>
        cases List.mapM (m := Except Problem) _ items <;>
          simp [bind, Except.bind, pure, Except.pure]
      | _ => exact ⟨nofun, fun h => nomatch h.1⟩

/-- A list of names may be missing, which is the empty one; else it holds strings only. -/
private theorem namesOf_eq_ok_iff {v : Json} {key : String} {names : List String} :
    namesOf v key = .ok names ↔
      v.get? key = none ∧ names = [] ∨ v.get? key = some (.array (names.map Json.string)) := by
  unfold namesOf
  cases v.get? key with
  | none => simp [eq_comm]
  | some w =>
    cases w with
    | array items => simpa using mapM_textOf_eq_ok_iff
    | _ => simp

/-- What has to be under the keys of a value for it to describe a manifest. -/
theorem ofJson_eq_ok_iff {v : Json} {manifest : Manifest} :
    ofJson v = .ok manifest ↔
      (∃ entries, v.get? "templates" = some (.array entries) ∧
        entries.mapM Template.ofJson = .ok manifest.templates) ∧
      (v.get? "preprocessors" = none ∧ manifest.preprocessors = [] ∨
        v.get? "preprocessors" = some (.array (manifest.preprocessors.map Json.string))) ∧
      (v.get? "postprocessors" = none ∧ manifest.postprocessors = [] ∨
        v.get? "postprocessors" = some (.array (manifest.postprocessors.map Json.string))) := by
  simp only [← namesOf_eq_ok_iff]
  obtain ⟨templates, preprocessors, postprocessors⟩ := manifest
  unfold ofJson
  cases v.get? "templates" with
  | none => simp [throw, throwThe, MonadExceptOf.throw]
  | some w =>
    cases w with
    | array entries =>
      cases hentries : entries.mapM Template.ofJson <;> cases namesOf v "preprocessors" <;>
        cases namesOf v "postprocessors" <;>
        simp [bind, Except.bind, pure, Except.pure, hentries]
    | _ => simp [throw, throwThe, MonadExceptOf.throw]

/-- The manifest that a text writes. -/
def parse (content : String) : Except ManifestProblem Manifest :=
  match Json.parse content with
  | .error fault => .error (.notJson fault)
  | .ok v =>
    match firstViolation v with
    | some (field, problem) => .error (.violation field problem)
    | none =>
      match ofJson v with
      | .ok m => .ok m
      | .error problem => .error (.mistyped problem)

end Manifest

end MailTemplates
