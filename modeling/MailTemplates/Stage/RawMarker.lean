import MailTemplates.Stage.Basic
import MailTemplates.Text.Blank
import MailTemplates.Text.Piece
import MailTemplates.Text.Word
/-!
# Keeping templating tags

For publishing, the templating tags that open, close or divide a block are kept: they are wrapped in
raw markers, so that the compiler leaves them alone, and afterwards the markers are taken away.
-/

namespace MailTemplates.RawMarker

open Text (Recogniser Piece pieces isBlank isWord eraseAll)

/-- The marker before what the compiler leaves alone. -/
def opening : List Char := "<mj-raw>".toList

/-- The marker behind what the compiler leaves alone. -/
def closing : List Char := "</mj-raw>".toList

/-- The length of the sign or word that a block tag starts with; the word has to end there. -/
def signLength : List Char → Option Nat
  | '#' :: _ => some 1
  | '/' :: _ => some 1
  | '^' :: _ => some 1
  | 'e' :: 'l' :: 's' :: 'e' :: cs =>
    match cs with
    | c :: _ => if isWord c then none else some 4
    | [] => some 4
  | _ => none

/-- Recognises a block tag: two braces, perhaps a tilde, blanks, a sign or `else`, and anything up
to the next brace, which has to be one of two. -/
def blockTag : Recogniser Unit
  | '{' :: '{' :: cs => do
    let tilde := if cs.head? == some '~' then 1 else 0
    let start := tilde + ((cs.drop tilde).takeWhile isBlank).length
    let sign ← signLength (cs.drop start)
    let inner := ((cs.drop (start + sign)).takeWhile (· != '}')).length
    match cs.drop (start + sign + inner) with
    | '}' :: '}' :: _ => some ((), start + sign + inner + 3)
    | _ => none
  | _ => none

/-- What stands for a piece of a document: a block tag between markers, a character as it is. -/
def wrapped : Piece Unit → List Char
  | .plain c => [c]
  | .token source _ => opening ++ source ++ closing

/-- Wraps every block tag in raw markers. -/
def defer (cs : List Char) : List Char := (pieces blockTag cs).flatMap wrapped

/-- Takes all markers away: first those that open, then those that close. -/
def strip (cs : List Char) : List Char := eraseAll closing (eraseAll opening cs)

/-- The stage that keeps templating tags. -/
def deferStage : Stage := .ofText "templating" defer

/-- The stage that takes the markers away. -/
def stripStage : Stage := .ofText "remove-raw-tags" strip

end MailTemplates.RawMarker
