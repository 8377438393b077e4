import MailTemplates.Json.Decode
/-!
# Template descriptors

One template of a project: its key in the remote store, its name, the path of its source document,
and, where they are given, its language and default subject. All other keys of its entry are kept.

Main statement: `ofJson_object_eq_ok_iff` (which objects describe a template).
-/

namespace MailTemplates

open Json (Problem Fault Cursor)

/-- A named template, perhaps for one language. -/
structure Template where
  /-- Key of the template in the remote store. -/
  id : String
  name : String
  /-- Path of the source document, relative to the project root. -/
  source : String
  language : Option String
  /-- The subject that is published with a version of the template. -/
  subject : Option String
  /-- The other keys of the entry. -/
  extra : Members
deriving DecidableEq, Repr

namespace Template

/-- The name, with the language in brackets if there is one. -/
def label (t : Template) : String :=
  match t.language with
  | some language => s!"{t.name} ({language})"
  | none => t.name

/-! ## As JSON -/

/-- The keys with a meaning of their own. -/
def knownKeys : List String := ["id", "name", "template", "language", "subject"]

/-- The entry of a template, known keys first. -/
def entries (t : Template) : List (String × Json) :=
  [("id", .string t.id), ("name", .string t.name), ("template", .string t.source)] ++
    (t.language.map fun l => ("language", Json.string l)).toList ++
    (t.subject.map fun s => ("subject", Json.string s)).toList ++ t.extra

/-- The entry of a template with its keys in order. -/
def members (t : Template) : Members := Members.ofList t.entries

/-- The descriptor as a JSON value. -/
def toJson (t : Template) : Json := .object t.members

/-- The descriptor as JSON text, known keys first. -/
def text (t : Template) : List Char := '{' :: Json.membersText t.entries ++ ['}']

private def stringOf : Json → Except Problem String
  | .string s => .ok s
  | v => .error (.invalidType v.found "a string")

private def required (ms : Members) (key : String) : Except Problem String :=
  match ms.get? key with
  | some v => stringOf v
  | none => .error (.missingField key)

private def optional (ms : Members) (key : String) : Except Problem (Option String) :=
  match ms.get? key with
  | none => .ok none
  | some .null => .ok none
  | some v => (stringOf v).map some

/-- The descriptor that an entry describes. -/
def ofJson : Json → Except Problem Template
  | .object ms => do
    return {
      id := ← required ms "id"
      name := ← required ms "name"
      source := ← required ms "template"
      language := ← optional ms "language"
      subject := ← optional ms "subject"
      extra := ms.filter fun m => !knownKeys.contains m.1 }
  | v => .error (.invalidType v.found "struct Template")

/-- A required member is read if it is there and a string. -/
private theorem required_eq_ok_iff {ms : Members} {key s : String} :
    required ms key = .ok s ↔ ms.get? key = some (.string s) := by
  unfold required
  cases ms.get? key with
  | none => exact ⟨nofun, nofun⟩
  | some v => cases v <;> simp [stringOf]

/-- An optional member may also be missing or null. -/
private theorem optional_eq_ok_iff {ms : Members} {key : String} {o : Option String} :
    optional ms key = .ok o ↔
      ms.get? key = o.map Json.string ∨ o = none ∧ ms.get? key = some .null := by
  unfold optional
  cases ms.get? key with
  | none => cases o <;> simp
  | some v => cases v <;> cases o <;> simp [stringOf, Except.map]

/-- What the members of an entry must be for it to describe a template. An optional text may be
`null`. -/
theorem ofJson_object_eq_ok_iff {ms : Members} {t : Template} :
    ofJson (.object ms) = .ok t ↔
      ms.get? "id" = some (.string t.id) ∧ ms.get? "name" = some (.string t.name) ∧
      ms.get? "template" = some (.string t.source) ∧
      (ms.get? "language" = t.language.map Json.string ∨
        t.language = none ∧ ms.get? "language" = some .null) ∧
      (ms.get? "subject" = t.subject.map Json.string ∨
        t.subject = none ∧ ms.get? "subject" = some .null) ∧
      t.extra = ms.filter fun m => !knownKeys.contains m.1 := by
  simp only [← required_eq_ok_iff, ← optional_eq_ok_iff]
  obtain ⟨id, name, source, language, subject, extra⟩ := t
  simp only [ofJson]
  cases required ms "id" <;> cases required ms "name" <;> cases required ms "template" <;>
    cases optional ms "language" <;> cases optional ms "subject" <;>
    simp [bind, Except.bind, pure, Except.pure, eq_comm]

/-! ## From JSON text -/

/-- The keys of an entry read so far. -/
structure Draft where
  id : Option String := none
  name : Option String := none
  source : Option String := none
  language : Option (Option String) := none
  subject : Option (Option String) := none
  extra : Members := []

/-- Reads the value of one key into a draft; a known key may be there only once. -/
def Draft.member (depth : Nat) (d : Draft) (key : String) (c : Cursor) :
    Except Fault (Draft × Cursor) := do
  let once {α : Type} (seen : Option α) : Except Fault Unit :=
    if seen.isSome then .error (Cursor.duplicate key c) else .ok ()
  match key with
  | "id" =>
    once d.id
    let (s, c) ← (← c.colon).stringValue
    return ({ d with id := some s }, c)
  | "name" =>
    once d.name
    let (s, c) ← (← c.colon).stringValue
    return ({ d with name := some s }, c)
  | "template" =>
    once d.source
    let (s, c) ← (← c.colon).stringValue
    return ({ d with source := some s }, c)
  | "language" =>
    once d.language
    let (s, c) ← (← c.colon).optionalString
    return ({ d with language := some s }, c)
  | "subject" =>
    once d.subject
    let (s, c) ← (← c.colon).optionalString
    return ({ d with subject := some s }, c)
  | _ =>
    let (extra, c) ← Cursor.setMember depth d.extra key c
    return ({ d with extra }, c)

/-- Reads a descriptor. -/
def read (depth : Nat) (c : Cursor) : Except Fault (Template × Cursor) := do
  let (d, c) ← c.objectAs "struct Template" Draft.member {} depth
  let required (key : String) (v : Option String) : Except Fault String :=
    match v with
    | some s => .ok s
    | none => .error (c.here (.missingField key))
  let id ← required "id" d.id
  let name ← required "name" d.name
  let source ← required "template" d.source
  return ({ id, name, source, language := d.language.join, subject := d.subject.join,
            extra := d.extra }, c)

/-- The descriptor that a text writes. -/
def parse (s : String) : Except Fault Template :=
  Json.readAll (read Cursor.depthLimit) s

/-- The descriptors that a text writes as an array. -/
def parseList (s : String) : Except Fault (List Template) :=
  Json.readAll (fun c => c.listOf read Cursor.depthLimit) s

end Template

end MailTemplates
