import MailTemplates.FileTree.Resolve
/-!
# Writing files and making directories

Writing replaces the content of the file a path names, or creates it in a directory that exists; a
link to nowhere is written through. Making directories makes every missing one on the way.
-/

namespace MailTemplates.FileTree

/-- Writes a file that is not executable when it is new. -/
def write (t : FileTree) (p : Path) (content : ByteArray) : Except FileProblem FileTree := do
  if Path.maxBytes < p.text.utf8ByteSize then throw .nameTooLong
  match ← t.target p with
  | .existing place =>
    match t.node? place with
    | some (.file _ executable) => return t.put place (.file content executable)
    | _ => throw .isDirectory
  | .vacant place [] => return t.put place (.file content false)
  | .vacant _ (.stay :: rest) =>
    throw (if rest.all (· == .stay) then .isDirectory else .notFound)
  | .vacant _ _ => throw .notFound

/-- `write` of a text. -/
def writeText (t : FileTree) (p : Path) (content : String) : Except FileProblem FileTree :=
  t.write p content.toUTF8

/-- The steps of a path up to its last one, and that one; idle steps at the end do not count. -/
def splitLast (steps : List Step) : List Step × Option Step :=
  match steps.reverse.dropWhile (· == .stay) with
  | [] => (steps, none)
  | last :: before => (before.reverse, some last)

/-- Makes one directory, in one that exists. -/
def makeDirectory (t : FileTree) (p : Path) : Except FileProblem FileTree := do
  if p.hasNul then throw .nulInName
  if p.text.isEmpty then throw .notFound
  if Path.maxBytes < p.text.utf8ByteSize then throw .nameTooLong
  let (before, last) := splitLast p.steps
  match ← t.follow (maxLinks + 1) [] before with
  | .vacant _ _ => throw .notFound
  | .existing place =>
    if t.node? place ≠ some .directory then throw .notDirectory
    match last with
    | some (.into name) =>
      if maxNameBytes < name.utf8ByteSize then throw .nameTooLong
      if (t.node? (place ++ [name])).isSome then throw .alreadyExists
      return t.put (place ++ [name]) .directory
    | _ => throw .alreadyExists

/-- Makes a directory and those above it that are missing, going up at most `depth` times. What was
made before a problem was met stays. -/
def makeDirectoriesFrom : Nat → FileTree → Path → FileTree × Except FileProblem Unit
  | 0, t, _ => (t, .error .notFound)
  | depth + 1, t, p =>
    match t.makeDirectory p with
    | .ok t => (t, .ok ())
    | .error .notFound =>
      match p.parent with
      | none => (t, .error .notFound)
      | some above =>
        match makeDirectoriesFrom depth t above with
        | (t, .error problem) => (t, .error problem)
        | (t, .ok ()) =>
          match t.makeDirectory p with
          | .ok t => (t, .ok ())
          | .error problem => (t, if t.isDirectory p then .ok () else .error problem)
    | .error problem => (t, if t.isDirectory p then .ok () else .error problem)

/-- Makes a directory and those above it that are missing. -/
def makeDirectories (t : FileTree) (p : Path) : FileTree × Except FileProblem Unit :=
  makeDirectoriesFrom (p.written.length + 2) t p

end MailTemplates.FileTree
