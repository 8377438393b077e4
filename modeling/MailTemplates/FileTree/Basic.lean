import MailTemplates.FileTree.Path
/-!
# File trees

A file tree is a list of places with what is there: a file, a link or a directory. The root is a
directory that needs no entry. Reading never changes a tree, and every operation that writes gives
the new one.

Main statements: `node?_put` (what is put at a place is found there, and no other place changes).
-/

namespace MailTemplates

/-- A place in a file tree: the names that lead to it from the root. -/
abbrev Place := List String

/-- What can be at a place. -/
inductive Node where
  | file (content : ByteArray) (executable : Bool)
  | link (target : Path)
  | directory

instance : DecidableEq Node
  | .file c x, .file d y =>
    match ByteArray.decEq c d, decEq x y with
    | isTrue hc, isTrue hx => isTrue (hc ▸ hx ▸ rfl)
    | isFalse hc, _ => isFalse fun h => Node.noConfusion h fun e _ => hc e
    | _, isFalse hx => isFalse fun h => Node.noConfusion h fun _ e => hx e
  | .link p, .link q =>
    match decEq p q with
    | isTrue h => isTrue (h ▸ rfl)
    | isFalse h => isFalse fun e => Node.noConfusion e h
  | .directory, .directory => isTrue rfl
  | .file _ _, .link _ => isFalse nofun
  | .file _ _, .directory => isFalse nofun
  | .link _, .file _ _ => isFalse nofun
  | .link _, .directory => isFalse nofun
  | .directory, .file _ _ => isFalse nofun
  | .directory, .link _ => isFalse nofun

/-- What can go wrong with a path. -/
inductive FileProblem where
  | notFound
  | permissionDenied
  | notExecutable
  | alreadyExists
  | notDirectory
  | isDirectory
  | brokenPipe
  | nameTooLong
  | tooManyLinks
  | nulInName
  | notText
deriving DecidableEq, Repr

/-- The wording of a problem, with the number that the operating system gives it. -/
def FileProblem.message : FileProblem → String
  | notFound => "No such file or directory (os error 2)"
  | permissionDenied => "Permission denied (os error 13)"
  | notExecutable => "Exec format error (os error 8)"
  | alreadyExists => "File exists (os error 17)"
  | notDirectory => "Not a directory (os error 20)"
  | isDirectory => "Is a directory (os error 21)"
  | brokenPipe => "Broken pipe (os error 32)"
  | nameTooLong => "File name too long (os error 36)"
  | tooManyLinks => "Too many levels of symbolic links (os error 40)"
  | nulInName => "file name contained an unexpected NUL byte"
  | notText => "stream did not contain valid UTF-8"

/-- A file tree. Nodes have no owner and no permissions: a read that is refused although the file is
there is outside of this tree, so that reading a file fails only where its bytes are no UTF-8. -/
structure FileTree where
  entries : List (Place × Node)

namespace Place

/-- The path that names a place. -/
def path (here : Place) : Path := ⟨"/" ++ "/".intercalate here⟩

/-- Whether a place is `base` or lies below it. -/
def isWithin (here base : Place) : Bool := base.isPrefixOf here

end Place

namespace FileTree

/-- The tree in which there is nothing but the root. -/
def empty : FileTree := ⟨[]⟩

private def find : List (Place × Node) → Place → Option Node
  | [], _ => none
  | (p, n) :: rest, place => if p = place then some n else find rest place

private def set : List (Place × Node) → Place → Node → List (Place × Node)
  | [], place, node => [(place, node)]
  | (p, n) :: rest, place, node =>
    if p = place then (p, node) :: rest else (p, n) :: set rest place node

/-- An entry that is set is found, and no other changes. -/
private theorem find_set (entries : List (Place × Node)) (place q : Place) (node : Node) :
    find (set entries place node) q = if place = q then some node else find entries q := by
  induction entries with
  | nil => simp [set, find]
  | cons e rest ih =>
    obtain ⟨p, n⟩ := e
    unfold set
    split
    · next h => subst h; by_cases hq : p = q <;> simp [find, hq]
    · next h =>
      by_cases hq : p = q
      · subst hq; simp [find, Ne.symm h]
      · simp [find, hq, ih]

/-- What is at a place. -/
def node? (t : FileTree) : Place → Option Node
  | [] => some .directory
  | place => find t.entries place

/-- The tree with a node put at a place. -/
def put (t : FileTree) (place : Place) (node : Node) : FileTree := ⟨set t.entries place node⟩

/-- A node that is put somewhere is there, and everything else is as before. -/
theorem node?_put (t : FileTree) {place : Place} (h : place ≠ []) (node : Node) (q : Place) :
    (t.put place node).node? q = if place = q then some node else t.node? q := by
  cases q with
  | nil => simp [node?, h]
  | cons a q => simp [node?, put, find_set]

/-- The tree without a place and everything below it. -/
def erase (t : FileTree) (place : Place) : FileTree :=
  ⟨t.entries.filter fun e => !e.1.isWithin place⟩

/-- The places below a place, with what is there. -/
def below (t : FileTree) (place : Place) : List (Place × Node) :=
  t.entries.filter fun e => e.1.isWithin place && e.1 != place

end FileTree

end MailTemplates
