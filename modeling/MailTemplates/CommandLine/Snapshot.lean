import MailTemplates.FileTree.Write
import MailTemplates.Json.Parser
import MailTemplates.Json.Printer
/-!
# Snapshots

A snapshot is a JSON object that describes a directory: `directory` is the working directory,
`files` and `programs` give the contents of files by their paths, and `time` is the time. Paths are
relative to the working directory unless they are absolute.
-/

namespace MailTemplates

/-- A directory with what is in it, at a time. -/
structure Snapshot where
  directory : Path
  tree : FileTree
  time : String

namespace Snapshot

/-- Puts a file into a tree, with the directories above it. What cannot be put is left out. -/
def addFile (directory : Path) (executable : Bool) (tree : FileTree) (name : String)
    (content : String) : FileTree :=
  let path := directory.join ⟨name⟩
  let tree := match path.parent with
    | some above => (tree.makeDirectories above).1
    | none => tree
  match tree.writeText path content, tree.locate path with
  | .ok tree, .ok place => if executable then tree.put place (.file content.toUTF8 true) else tree
  | _, _ => tree

private def textOf (v : Json) (key default : String) : String :=
  match v.get? key with
  | some (.string s) => s
  | _ => default

private def filesOf (v : Json) (key : String) : List (String × String) :=
  match v.get? key with
  | some (.object members) => members.filterMap fun (name, content) =>
    match content with
    | .string s => some (name, s)
    | _ => none
  | _ => []

/-- The snapshot that a value describes. -/
def ofJson (v : Json) : Snapshot :=
  let directory : Path := ⟨textOf v "directory" "/"⟩
  let tree := (FileTree.empty.makeDirectories directory).1
  let tree := (filesOf v "files").foldl (fun t f => addFile directory false t f.1 f.2) tree
  let tree := (filesOf v "programs").foldl (fun t f => addFile directory true t f.1 f.2) tree
  { directory, tree, time := textOf v "time" "" }

/-- The files of a tree that another one does not have, or not with the same content. -/
def changed (before after : FileTree) : List (Place × String) :=
  (after.entries.filter fun e => before.node? e.1 != after.node? e.1).filterMap fun (place, _) =>
    match after.node? place with
    | some (.file content _) => (String.fromUTF8? content).map fun s => (place, s)
    | _ => none

/-- Files by their paths as a JSON text. -/
def filesText (files : List (Place × String)) : String :=
  (Json.object (Members.ofList (files.map fun (place, s) => (place.path.text, .string s)))).compact

end Snapshot

end MailTemplates
