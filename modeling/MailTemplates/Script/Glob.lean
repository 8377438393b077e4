import MailTemplates.Script.Expansion
/-!
# File names from patterns

A field with a pattern in it stands for the files whose paths it fits, in order. If there are none
it stands for itself. A name with a dot in front is fitted only by a pattern that has one too.
-/

namespace MailTemplates.Script

/-- Whether a field has signs of a pattern in it that are not quoted. -/
def Field.isPattern (f : Field) : Bool :=
  f.any fun (c, quoted) => !quoted && "*?[".toList.contains c

/-- The parts of a field between slashes. -/
def Field.parts : Field → List Field
  | [] => [[]]
  | (c, quoted) :: rest =>
    match Field.parts rest with
    | [] => [[(c, quoted)]]
    | part :: more => if c == '/' then [] :: part :: more else ((c, quoted) :: part) :: more

/-- The names in a directory. -/
def namesIn (tree : FileTree) (p : Path) : List String :=
  match tree.resolve p with
  | .ok place => (tree.below place).filterMap fun (q, _) =>
      if q.length == place.length + 1 then q.getLast?.map ByteText.encode else none
  | .error _ => []

/-- The written paths that a pattern of parts fits, seen from what has been written of them. -/
private def fitting (m : Machine) : List Field → String → List String
  | [], done => [done]
  | part :: parts, done =>
    let rest (name : String) : List String :=
      fitting m parts (done ++ name ++ if parts.isEmpty then "" else "/")
    if !part.isPattern then
      let path := done ++ part.text
      if parts.isEmpty && !path.isEmpty && !m.tree.pathExists (m.path path) then []
      else rest part.text
    else
      let pattern := Pattern.ofChars (part.length + 1) part
      let names := namesIn m.tree (m.path (if done.isEmpty then "." else done))
      let chosen := names.filter fun name =>
        (part.head?.map (·.1) == some '.' || !name.startsWith ".") && pattern.fits name.toList
      (chosen.mergeSort fun a b => decide (a ≤ b)).flatMap rest

/-- The texts that a field stands for. -/
def globbed (m : Machine) (f : Field) : List String :=
  if f.isPattern && !m.has 'f' then
    match fitting m f.parts "" with
    | [] => [f.text]
    | found => found
  else [f.text]

end MailTemplates.Script
