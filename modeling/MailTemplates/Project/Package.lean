import MailTemplates.Json.Decode
/-!
# Descriptor files

A directory is a project if it has a package descriptor, an object whose name and version are texts
if they are given. The compiler's configuration, if there is one, lists packages of components.
-/

namespace MailTemplates

open Json (Problem Fault Cursor)

/-- A package descriptor. -/
structure Package where
  name : Option String
  version : Option String
  /-- The other members of the descriptor. -/
  other : Members
deriving DecidableEq, Repr

namespace Package

/-- The file that makes a directory a project. -/
def fileName : String := "package.json"

/-- The members of a descriptor read so far. -/
structure Draft where
  name : Option (Option String) := none
  version : Option (Option String) := none
  other : Members := []

/-- Reads one member; name and version may be there only once. -/
def Draft.member (depth : Nat) (d : Draft) (key : String) (c : Cursor) :
    Except Fault (Draft × Cursor) := do
  match key with
  | "name" =>
    if d.name.isSome then throw (Cursor.duplicate key c)
    let (s, c) ← (← c.colon).optionalString
    return ({ d with name := some s }, c)
  | "version" =>
    if d.version.isSome then throw (Cursor.duplicate key c)
    let (s, c) ← (← c.colon).optionalString
    return ({ d with version := some s }, c)
  | _ =>
    let (other, c) ← Cursor.setMember depth d.other key c
    return ({ d with other }, c)

/-- The descriptor that a text writes. -/
def parse (s : String) : Except Fault Package := do
  let d ← Json.readAll (Cursor.objectAs "struct PackageDescriptor" Draft.member {}
    Cursor.depthLimit) s
  return ⟨d.name.join, d.version.join, d.other⟩

end Package

/-- The compiler's configuration of a project. -/
structure CompilerConfig where
  packages : List String
deriving DecidableEq, Repr

namespace CompilerConfig

/-- The file with the compiler's configuration. -/
def fileName : String := ".mjmlconfig"

private def member (depth : Nat) (seen : Option (List String)) (key : String) (c : Cursor) :
    Except Fault (Option (List String) × Cursor) := do
  if key = "packages" then
    if seen.isSome then throw (Cursor.duplicate key c)
    let (names, c) ← (← c.colon).stringList depth
    return (some names, c)
  else return (seen, ← (← c.colon).skip)

/-- Reads a configuration, an object or a list of what its members would be. -/
def read (depth : Nat) (c : Cursor) : Except Fault (CompilerConfig × Cursor) := do
  let (seen, c) ← c.recordAs "struct MjmlConfig" member
    (fun depth _ _ c => do
      let (names, c) ← c.stringList depth
      return (some names, c)) 1 none depth
  return (⟨seen.getD []⟩, c)

/-- The configuration that a text writes. -/
def parse (s : String) : Except Fault CompilerConfig := Json.readAll (read Cursor.depthLimit) s

end CompilerConfig

end MailTemplates
