import MailTemplates.Text.Piece
/-!
# Paths as they are written

A path is kept as its text, because messages show it that way: nothing is normalised when paths are
joined. Comparing two paths, and going from a path to its parent, look at its parts, and there `.`
and empty parts do not count. `..` is a part like any other: only a walk through a file tree gives
it a meaning.

Main statement: `join_of_isAbsolute` (an absolute path replaces what it is joined to).
-/

namespace MailTemplates

open Text (splitAt)

/-- A path as it is written. -/
structure Path where
  text : String
deriving DecidableEq, Repr

namespace Path

/-- A path that starts at the root of the file tree. -/
def isAbsolute (p : Path) : Bool := p.text.toList.head? == some '/'

/-- The path of `q` as seen from the directory `p`. -/
def join (p q : Path) : Path :=
  if q.isAbsolute then q
  else
    match p.text.toList.getLast? with
    | none => q
    | some '/' => ⟨p.text ++ q.text⟩
    | some _ => ⟨p.text ++ "/" ++ q.text⟩

/-- An absolute path takes no notice of what it is joined to. -/
theorem join_of_isAbsolute {q : Path} (h : q.isAbsolute = true) (p : Path) : p.join q = q := by
  simp [join, h]

/-! ## Parts -/

/-- What stands between the slashes of a path, the empty text before the first slash of an absolute
one excepted. -/
def written (p : Path) : List (List Char) :=
  let parts := splitAt '/' p.text.toList
  if p.isAbsolute then parts.drop 1 else parts

/-- A part that leads nowhere: empty, or a single dot. -/
def idle (part : List Char) : Bool := part.isEmpty || part == ['.']

/-- The parts of a path that lead somewhere. -/
def parts (p : Path) : List (List Char) := p.written.filter fun part => !idle part

/-- A path of written parts. -/
def ofWritten (absolute : Bool) (parts : List (List Char)) : Path :=
  ⟨String.ofList ((if absolute then ['/'] else []) ++ ['/'].intercalate parts)⟩

/-- The written parts without the idle ones at the end. -/
def dropIdleEnd (parts : List (List Char)) : List (List Char) :=
  (parts.reverse.dropWhile idle).reverse

/-- The path without its last part; nothing if it has none. -/
def parent (p : Path) : Option Path :=
  match dropIdleEnd p.written with
  | [] => none
  | parts => some (ofWritten p.isAbsolute (dropIdleEnd parts.dropLast))

/-- A path and those of the directories above it, going up at most so often. -/
def ancestorsFrom : Nat → Path → List Path
  | 0, p => [p]
  | n + 1, p =>
    match p.parent with
    | some above => p :: ancestorsFrom n above
    | none => [p]

/-- A path and those of all directories above it, the nearest first. -/
def ancestors (p : Path) : List Path := ancestorsFrom p.written.length p

/-- The last part of a path, if that is a name. -/
def fileName (p : Path) : Option (List Char) :=
  match p.parts.getLast? with
  | none => none
  | some part => if part == ['.', '.'] then none else some part

/-- The name of a file without what follows its last dot; a dot in front is part of the name. -/
def fileStem (p : Path) : Option String :=
  p.fileName.map fun name =>
    let before := (name.reverse.dropWhile (· != '.')).drop 1
    String.ofList (if before.isEmpty then name else before.reverse)

/-- Whether a path is `base` or lies below it, part by part. -/
def startsWith (p base : Path) : Bool :=
  p.isAbsolute == base.isAbsolute && base.parts.isPrefixOf p.parts

/-- The written parts behind the first `n` that lead somewhere. -/
def dropParts : Nat → List (List Char) → List (List Char)
  | 0, parts => parts.dropWhile idle
  | _ + 1, [] => []
  | n + 1, part :: parts => if idle part then dropParts (n + 1) parts else dropParts n parts

/-- What remains of a path behind `base`, if it starts with that. -/
def stripPrefix (p base : Path) : Option Path :=
  if p.startsWith base then
    some (ofWritten false (dropIdleEnd (dropParts base.parts.length p.written)))
  else none

end Path

end MailTemplates
