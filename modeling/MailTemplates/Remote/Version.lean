import MailTemplates.Json.Decode
/-!
# Versions of a remote template

The store describes a template by its versions. A version counts as active if its mark is the
integer one or true; of several active ones the first counts.
-/

namespace MailTemplates.Remote

open Json (Fault Cursor)

/-- A version: its mark, and its content if that is given. -/
structure Version where
  active : Json := .null
  content : Option String := none
deriving DecidableEq, Repr

namespace Version

/-- Whether a version is the active one. -/
def isActive (v : Version) : Bool :=
  v.active == .number (.integer 1) || v.active == .bool true

/-- The content of the first active version; empty if it has none, or if there is no such
version. -/
def activeContent (versions : List Version) : String :=
  match versions.find? isActive with
  | some v => v.content.getD ""
  | none => ""

/-! ## Reading -/

/-- The members of a version read so far. -/
structure Draft where
  active : Option Json := none
  content : Option (Option String) := none

private def readActive (depth : Nat) (d : Draft) (c : Cursor) : Except Fault (Draft × Cursor) := do
  let (v, c) ← c.value depth
  return ({ d with active := some v }, c)

private def readContent (d : Draft) (c : Cursor) : Except Fault (Draft × Cursor) := do
  let (s, c) ← c.optionalString
  return ({ d with content := some s }, c)

private def member (depth : Nat) (d : Draft) (key : String) (c : Cursor) :
    Except Fault (Draft × Cursor) := do
  match key with
  | "active" =>
    if d.active.isSome then throw (Cursor.duplicate key c)
    readActive depth d (← c.colon)
  | "html_content" =>
    if d.content.isSome then throw (Cursor.duplicate key c)
    readContent d (← c.colon)
  | _ => return (d, ← (← c.colon).skip)

private def item (depth index : Nat) (d : Draft) (c : Cursor) : Except Fault (Draft × Cursor) :=
  if index = 0 then readActive depth d c else readContent d c

/-- Reads a version. -/
def read (depth : Nat) (c : Cursor) : Except Fault (Version × Cursor) := do
  let (d, c) ← c.recordAs "struct TemplateVersion" member item 2 {} depth
  return (⟨d.active.getD .null, d.content.join⟩, c)

private def listMember (depth : Nat) (seen : Option (List Version)) (key : String) (c : Cursor) :
    Except Fault (Option (List Version) × Cursor) := do
  if key = "versions" then
    if seen.isSome then throw (Cursor.duplicate key c)
    let (vs, c) ← (← c.colon).listOf read depth
    return (some vs, c)
  else return (seen, ← (← c.colon).skip)

/-- Reads the versions of a template. -/
def readList (depth : Nat) (c : Cursor) : Except Fault (List Version × Cursor) := do
  let (seen, c) ← c.recordAs "struct TemplateResponse" listMember
    (fun depth _ _ c => do
      let (vs, c) ← c.listOf read depth
      return (some vs, c)) 1 none depth
  return (seen.getD [], c)

/-- The versions that a text describes. -/
def parseList (s : String) : Except Fault (List Version) :=
  Json.readAll (readList Cursor.depthLimit) s

end Version

end MailTemplates.Remote
