import MailTemplates.Script.Tool.Characters
import MailTemplates.Script.Tool.Counting
import MailTemplates.Script.Tool.Fields
import MailTemplates.Script.Tool.Grep
import MailTemplates.Script.Tool.Names
import MailTemplates.Script.Tool.Numbers
import MailTemplates.Script.Tool.Order
import MailTemplates.Script.Tool.Sed
/-!
# The tools that are always there

Tools by their names. A tool may also be called by its path in one of the directories of tools.
-/

namespace MailTemplates.Script.Tools

/-- The directories of tools. -/
def directories : List String := ["/bin", "/usr/bin"]

/-- The name of the tool that a path in one of the directories of tools may be that of. -/
def nameOf? (command : String) : Option String :=
  if command.startsWith "/" && directories.contains (firstParts command) then
    some (lastPart command)
  else none

/-- A tool that does nothing. -/
private def nothing : Tool := fun s _ => { unread := s.input }

/-- The tools. -/
def all : List (String × Tool) :=
  [("base64", base64), ("basename", basename), ("cat", cat), ("cut", cut), ("date", nothing),
    ("dirname", dirname),
    ("echo", echo), ("egrep", fun s args => Grep.run s ("-E" :: args)), ("expr", expr),
    ("fgrep", fun s args => Grep.run s ("-F" :: args)), ("fold", fold), ("grep", Grep.run),
    ("head", head), ("nl", nl), ("od", od), ("paste", paste), ("rev", rev), ("sed", Sed.run),
    ("seq", seq), ("sleep", nothing), ("sort", sort), ("sync", nothing), ("tac", tac),
    ("tail", tail), ("tee", tee), ("tr", tr), ("uname", fun s _ => .saying s "Linux\n"),
    ("uniq", uniq), ("wc", wc), ("yes", yes)]

/-- A tool by its name. -/
def find? (name : String) : Option Tool := all.lookup name

end MailTemplates.Script.Tools
