import MailTemplates.Script.Glob
import MailTemplates.Script.Tool.Names
/-!
# Programs for files

The programs that are always there and change the file tree, or show what is in it. What they change
counts for the script only.
-/

namespace MailTemplates.Script.Files

/-- The letters of the options and the names among the arguments of a program. -/
private def divide (args : List String) : List Char × List String :=
  let (options, names) := args.partition fun a => 1 < a.length && a.startsWith "-"
  (options.flatMap fun a => a.toList.drop 1, names)

/-- Fails with a complaint, and goes on. -/
private def fail (m : Machine) (text : String) : Machine := { m.warn text with status := 1 }

/-- Does something for each name. -/
def ofNames (act : Machine → String → Machine) (m : Machine) (names : List String) : Machine :=
  names.foldl act { m with status := 0 }

private def isDirectory (m : Machine) (name : String) : Bool := m.tree.isDirectory (m.path name)

/-- Makes directories. -/
def mkdir (m : Machine) (args : List String) : Machine :=
  let (letters, names) := divide args
  ofNames (fun m name =>
    let p := m.path name
    let made : Except FileProblem FileTree :=
      if letters.contains 'p' then
        match m.tree.makeDirectories p with
        | (t, .ok ()) => .ok t
        | (_, .error problem) => .error problem
      else m.tree.makeDirectory p
    match made with
    | .ok tree => { m with tree }
    | .error p => fail m s!"mkdir: cannot create directory '{name}': {problemText p}") m names

/-- Removes files, and directories if wanted. -/
def rm (m : Machine) (args : List String) : Machine :=
  let (letters, names) := divide args
  let all := letters.contains 'r' || letters.contains 'R'
  ofNames (fun m name =>
    match m.tree.resolve (m.path name) with
    | .ok place =>
      if m.tree.node? place == some .directory && !all then
        fail m s!"rm: cannot remove '{name}': Is a directory"
      else { m with tree := m.tree.erase place }
    | .error p =>
      if letters.contains 'f' then m
      else fail m s!"rm: cannot remove '{name}': {problemText p}") m names

/-- Removes empty directories. -/
def rmdir (m : Machine) (args : List String) : Machine :=
  ofNames (fun m name =>
    match m.tree.resolve (m.path name) with
    | .ok place =>
      if m.tree.node? place != some .directory then
        fail m s!"rmdir: failed to remove '{name}': Not a directory"
      else if !(m.tree.below place).isEmpty then
        fail m s!"rmdir: failed to remove '{name}': Directory not empty"
      else { m with tree := m.tree.erase place }
    | .error p => fail m s!"rmdir: failed to remove '{name}': {problemText p}") m args

/-- Makes the files that are not there. -/
def touch (m : Machine) (args : List String) : Machine :=
  ofNames (fun m name =>
    if m.tree.pathExists (m.path name) then m
    else
      match m.tree.write (m.path name) ByteArray.empty with
      | .ok tree => { m with tree }
      | .error p => fail m s!"touch: cannot touch '{name}': {problemText p}") m (divide args).2

/-- The name that a file has when it is put where a target says. -/
private def into (m : Machine) (source target : String) : String :=
  if isDirectory m target then target ++ "/" ++ Tools.lastPart source else target

/-- Puts the content of one file into another. -/
private def copyFile (program : String) (m : Machine) (source target : String) : Machine :=
  match m.tree.lookup (m.path source) with
  | .ok (.file content executable) =>
    match m.tree.write (m.path target) content with
    | .ok tree =>
      match tree.resolve (m.path target) with
      | .ok place => { m with tree := tree.put place (.file content executable) }
      | .error _ => { m with tree }
    | .error _ =>
      fail m s!"{program}: cannot create regular file '{target}': No such file or directory"
  | .ok _ => fail m s!"{program}: -r not specified; omitting directory '{source}'"
  | .error p => fail m s!"{program}: cannot stat '{source}': {problemText p}"

/-- Copies files. -/
def cp (m : Machine) (args : List String) : Machine :=
  let names := (divide args).2
  let target := names.getLast?.getD ""
  ofNames (fun m name => copyFile "cp" m name (into m name target)) m names.dropLast

/-- Gives files other names. -/
def mv (m : Machine) (args : List String) : Machine :=
  let names := (divide args).2
  let target := names.getLast?.getD ""
  ofNames (fun m name =>
    let r := copyFile "mv" m name (into m name target)
    match r.status, r.tree.resolve (m.path name) with
    | 0, .ok place => { r with tree := r.tree.erase place }
    | _, _ => r) m names.dropLast

/-- Makes links. -/
def ln (m : Machine) (args : List String) : Machine :=
  match divide args with
  | (letters, [source, target]) =>
    if letters.contains 's' then
      match m.tree.target (m.path (into m source target)) with
      | .ok (.vacant place []) =>
        { m with tree := m.tree.put place (.link ⟨ByteText.decode source⟩), status := 0 }
      | _ => fail m s!"ln: failed to create symbolic link '{target}': File exists"
    else copyFile "ln" { m with status := 0 } source (into m source target)
  | _ => fail m "ln: missing file operand"

/-- Says whether files may be executed. -/
def chmod (m : Machine) (args : List String) : Machine :=
  match args with
  | mode :: names =>
    let executable (before : Bool) : Bool :=
      let cs := mode.toList
      if cs.all Char.isDigit then cs.any fun c => (c.toNat - 0x30) % 2 == 1
      else if cs.contains 'x' then !cs.contains '-' else before
    ofNames (fun m name =>
      match m.tree.resolve (m.path name) with
      | .ok place =>
        match m.tree.node? place with
        | some (.file content before) =>
          { m with tree := m.tree.put place (.file content (executable before)) }
        | _ => m
      | .error p => fail m s!"chmod: cannot access '{name}': {problemText p}") m names
  | [] => fail m "chmod: missing operand"

/-- Shows the names of files and of what is in directories. -/
def ls (m : Machine) (args : List String) : Machine :=
  let (letters, names) := divide args
  let names := if names.isEmpty then ["."] else names
  let inside (name : String) : String :=
    let found := (namesIn m.tree (m.path name)).mergeSort fun a b => decide (a ≤ b)
    let hidden := if letters.contains 'a' then [".", ".."] else []
    let shown := found.filter fun n => letters.contains 'a' || letters.contains 'A' ||
      !n.startsWith "."
    String.join ((hidden ++ shown).map (· ++ "\n"))
  let (missing, there) := names.partition fun n => !m.tree.pathExists (m.path n)
  let m := missing.foldl (fun m n =>
    { m.warn s!"ls: cannot access '{n}': No such file or directory" with status := 2 })
    { m with status := 0 }
  let (directories, files) := there.partition fun n => isDirectory m n && !letters.contains 'd'
  let listed := directories.map fun d =>
    (if 1 < names.length then s!"{d}:\n" else "") ++ inside d
  let parts := (if files.isEmpty then [] else [String.join (files.map (· ++ "\n"))]) ++ listed
  m.put ("\n".intercalate parts)

/-- The programs by their names. -/
def all : List (String × (Machine → List String → Machine)) :=
  [("mkdir", mkdir), ("rm", rm), ("rmdir", rmdir), ("touch", touch), ("cp", cp), ("mv", mv),
    ("ln", ln), ("chmod", chmod), ("ls", ls)]

/-- A program by its name. -/
def find? (name : String) : Option (Machine → List String → Machine) := all.lookup name

end MailTemplates.Script.Files
