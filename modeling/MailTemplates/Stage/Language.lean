import MailTemplates.Stage.Basic
import MailTemplates.Text.Piece
/-!
# Declaring the language

The first head of a document gets an attribute that declares the language of the template for every
element in it.
-/

namespace MailTemplates.Language

open Text (replaceFirst)

/-- The tag that opens the head of a document. -/
def head : List Char := "<mj-head>".toList

/-- The head with the declaration of a language. -/
def headFor (language : String) : List Char :=
  head ++ "<mj-attributes><mj-all lang=\"".toList ++ language.toList ++
    "\" /></mj-attributes>".toList

/-- Declares a language in the first head. -/
def declare (language : String) (cs : List Char) : List Char :=
  replaceFirst head (headFor language) cs

/-- The stage that declares the language of a template, the empty one if it has none. -/
def stage : Stage where
  name := "inject-lang"
  run _ _ template source :=
    .ok (String.ofList (declare (template.language.getD "") source.toList))

end MailTemplates.Language
