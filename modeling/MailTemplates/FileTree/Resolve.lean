import MailTemplates.FileTree.Basic
/-!
# Following a path

A walk starts at the root and takes one step for each written part of the path: into a name, up for
`..`, or staying for `.` and an empty part. Every step starts in a directory. A link is replaced by
the steps of its target, and at most 40 links are followed on one walk.

Main statement: `resolve_root` (the root leads to itself).
-/

namespace MailTemplates

/-- One step of a walk. -/
inductive Step where
  | into (name : String)
  | up
  | stay
deriving DecidableEq, Repr

namespace Path

/-- The steps of a path. -/
def steps (p : Path) : List Step :=
  p.written.map fun part =>
    if idle part then .stay
    else if part == ['.', '.'] then .up
    else .into (String.ofList part)

/-- A path that no walk can take because of the characters in it. -/
def hasNul (p : Path) : Bool := p.text.toList.any fun c => c.toNat == 0

/-- The greatest number of bytes in a path that is opened. -/
def maxBytes : Nat := 4095

end Path

/-- The greatest number of bytes in a name. -/
def maxNameBytes : Nat := 255

/-- How many links one walk follows. -/
def maxLinks : Nat := 40

namespace FileTree

/-- How far a walk gets before it ends or meets a link. -/
inductive Progress where
  /-- All steps were taken. -/
  | arrived (here : Place)
  /-- The next name is not in the directory; these steps would follow. -/
  | vacant (here : Place) (rest : List Step)
  /-- The next name is that of a link in the directory; these steps would follow. -/
  | atLink (directory : Place) (target : Path) (rest : List Step)
  | failed (problem : FileProblem)

/-- Walks until the steps end or a link is met. -/
def walk (t : FileTree) : Place → List Step → Progress
  | here, [] => .arrived here
  | here, step :: rest =>
    match t.node? here with
    | some .directory =>
      match step with
      | .stay => walk t here rest
      | .up => walk t here.dropLast rest
      | .into name =>
        if maxNameBytes < name.utf8ByteSize then .failed .nameTooLong
        else
          match t.node? (here ++ [name]) with
          | none => .vacant (here ++ [name]) rest
          | some (.link target) => .atLink here target rest
          | some _ => walk t (here ++ [name]) rest
    | _ => .failed .notDirectory

/-- Where a walk ends: at a place where something is, or at one where the last name is not. -/
inductive Target where
  | existing (here : Place)
  | vacant (here : Place) (rest : List Step)
deriving DecidableEq, Repr

/-- Walks through at most a number of links. -/
def follow (t : FileTree) : Nat → Place → List Step → Except FileProblem Target
  | 0, _, _ => .error .tooManyLinks
  | links + 1, here, steps =>
    match t.walk here steps with
    | .arrived place => .ok (.existing place)
    | .vacant place rest => .ok (.vacant place rest)
    | .failed problem => .error problem
    | .atLink directory target rest =>
      follow t links (if target.isAbsolute then [] else directory) (target.steps ++ rest)

/-- Where an absolute path leads. -/
def target (t : FileTree) (p : Path) : Except FileProblem Target :=
  if p.hasNul then .error .nulInName
  else if p.text.isEmpty then .error .notFound
  else t.follow (maxLinks + 1) [] p.steps

/-- The place an absolute path names, all links followed. -/
def resolve (t : FileTree) (p : Path) : Except FileProblem Place := do
  match ← t.target p with
  | .existing place => return place
  | .vacant _ _ => throw .notFound

/-- The root is there in every tree. -/
theorem resolve_root (t : FileTree) : t.resolve ⟨"/"⟩ = .ok [] := by
  simp [resolve, target]
  rfl

/-- The canonical path of a place that a path names. -/
def canonical (t : FileTree) (p : Path) : Except FileProblem Path :=
  (t.resolve p).map Place.path

/-- `resolve` for a path that is about to be opened. -/
def locate (t : FileTree) (p : Path) : Except FileProblem Place :=
  if Path.maxBytes < p.text.utf8ByteSize then .error .nameTooLong else t.resolve p

/-- What an absolute path names. -/
def lookup (t : FileTree) (p : Path) : Except FileProblem Node := do
  match t.node? (← t.locate p) with
  | some node => return node
  | none => throw .notFound

/-- Whether a path names anything. -/
def pathExists (t : FileTree) (p : Path) : Bool := (t.lookup p).isOk

/-- Whether a path names a file. -/
def isFile (t : FileTree) (p : Path) : Bool :=
  match t.lookup p with
  | .ok (.file _ _) => true
  | _ => false

/-- Whether a path names a directory. -/
def isDirectory (t : FileTree) (p : Path) : Bool :=
  match t.lookup p with
  | .ok .directory => true
  | _ => false

/-- The bytes of the file that a path names. -/
def readBytes (t : FileTree) (p : Path) : Except FileProblem ByteArray := do
  match ← t.lookup p with
  | .file content _ => return content
  | .directory => throw .isDirectory
  | .link _ => throw .notFound

/-- The text of the file that a path names. -/
def readText (t : FileTree) (p : Path) : Except FileProblem String := do
  match String.fromUTF8? (← t.readBytes p) with
  | some s => return s
  | none => throw .notText

end FileTree

end MailTemplates
