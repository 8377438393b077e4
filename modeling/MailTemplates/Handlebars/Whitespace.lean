import MailTemplates.Handlebars.Token
import MailTemplates.Text.Blank
/-!
# Blanks around tags

A tilde takes the blanks on its side of a tag. A tag that does not show a value and stands alone on
its line takes the whole line: the spaces and tabs before it and everything up to the line break
behind it.
-/

namespace MailTemplates.Handlebars

open Text (trimStart trimEnd)

/-- What has been read: the tokens, the last one first, whether the last tag takes the blanks behind
it, and whether it takes the rest of its line. -/
structure Trimmed where
  done : List Token := []
  afterTilde : Bool := false
  restOfLine : Bool := false

private def isIndent (c : Char) : Bool := c == ' ' || c == '\t'

/-- A text without the spaces and tabs it ends with. -/
def dropIndent (cs : List Char) : List Char := (cs.reverse.dropWhile isIndent).reverse

/-- A text without the spaces and tabs it starts with and one line break behind them. -/
def dropLine (cs : List Char) : List Char :=
  match cs.dropWhile isIndent with
  | '\r' :: '\n' :: rest => rest
  | '\n' :: rest => rest
  | rest => rest

/-- The text as the tag before it leaves it. -/
def Trimmed.text (t : Trimmed) (cs : List Char) : List Char :=
  if t.afterTilde then trimStart cs else if t.restOfLine then dropLine cs else cs

/-- The tokens with the last one changed if it is text. -/
def mapLastText (f : List Char → List Char) : List Token → List Token
  | .text cs :: rest => .text (f cs) :: rest
  | .rawText cs :: rest => .rawText (f cs) :: rest
  | done => done

/-- A tag that does not show a value: whether it stands alone, and the tokens before it. -/
def Trimmed.alone (t : Trimmed) (site : Site) : Trimmed :=
  let alone := site.blankBefore && site.blankAfter
  { t with
    done := if alone then mapLastText dropIndent t.done else t.done
    restOfLine := alone }

/-- Takes one more token. For a tag that does not show a value, `blankBefore` then says whether it
stands alone and has no tilde before it. -/
def Trimmed.take (t : Trimmed) : Token → Trimmed
  | .text cs =>
    if t.afterTilde && (Scan.skipBlanks cs).isEmpty then t
    else { t with done := .text (t.text cs) :: t.done, restOfLine := false }
  | .rawText cs => { t with done := .rawText (t.text cs) :: t.done }
  | .tag site tag =>
    match tag.kind with
    | .comment =>
      let t := t.alone site
      { t with done := .tag site tag :: t.done }
    | .value _ =>
      { t with
        done := .tag site tag :: (if tag.trimBefore then mapLastText trimEnd t.done else t.done)
        afterTilde := tag.trimAfter }
    | _ =>
      let done := if tag.trimBefore then mapLastText trimEnd t.done else t.done
      let t := { t with done, afterTilde := tag.trimAfter }.alone site
      let site := { site with blankBefore := t.restOfLine && !tag.trimBefore }
      { t with done := .tag site tag :: t.done }

/-- The tokens with the blanks around tags taken away. -/
def trimTokens (ts : List Token) : List Token := (ts.foldl Trimmed.take {}).done.reverse

end MailTemplates.Handlebars
