import MailTemplates.Script.Tool.Basic
/-!
# Tools for paths

The last part of a path, and what is in front of it. Slashes at the end do not count.
-/

namespace MailTemplates.Script.Tools

private def withoutEndSlashes (cs : List Char) : List Char :=
  (cs.reverse.dropWhile (· == '/')).reverse

/-- The last part of a path. -/
def lastPart (path : String) : String :=
  let cs := withoutEndSlashes path.toList
  if cs.isEmpty then (if path.isEmpty then "" else "/")
  else String.ofList (cs.reverse.takeWhile (· != '/')).reverse

/-- A path without its last part. -/
def firstParts (path : String) : String :=
  let cs := withoutEndSlashes path.toList
  if cs.isEmpty then (if path.isEmpty then "." else "/")
  else if !cs.contains '/' then "."
  else
    let front := withoutEndSlashes (cs.reverse.dropWhile (· != '/')).reverse
    if front.isEmpty then "/" else String.ofList front

/-- A text without another at its end, unless that is all of it. -/
private def withoutEnd (ending s : String) : String :=
  if s != ending && !ending.isEmpty && s.endsWith ending then
    (s.dropEnd ending.length).toString
  else s

/-- The last parts of paths. -/
def basename : Tool := fun s args =>
  let line (t : String) : List Char := t.toList ++ ['\n']
  match args with
  | [] => .misused s "basename" 1 ["basename: missing operand"]
  | "-s" :: ending :: paths =>
    { output := paths.flatMap fun p => line (withoutEnd ending (lastPart p)), unread := s.input }
  | "-a" :: paths => { output := paths.flatMap fun p => line (lastPart p), unread := s.input }
  | [path] => { output := line (lastPart path), unread := s.input }
  | [path, ending] => { output := line (withoutEnd ending (lastPart path)), unread := s.input }
  | _ :: _ :: extra :: _ =>
    .misused s "basename" 1 [s!"basename: extra operand '{extra}'"]

/-- Paths without their last parts. -/
def dirname : Tool := fun s args =>
  match args with
  | [] => .misused s "dirname" 1 ["dirname: missing operand"]
  | paths => { output := paths.flatMap fun p => (firstParts p).toList ++ ['\n'], unread := s.input }

end MailTemplates.Script.Tools
