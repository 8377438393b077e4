/-!
# Markup characters as entities

The five characters that mean something in markup, written as entities. Reading the entities back,
in one pass from left to right, undoes the writing.

Main statements: `escape_append` and `unescape_escape`.
-/

namespace MailTemplates.Text.Entities

/-- What stands for a character in markup. -/
def entity (c : Char) : List Char :=
  match c with
  | '&' => "&amp;".toList
  | '<' => "&lt;".toList
  | '>' => "&gt;".toList
  | '"' => "&quot;".toList
  | '\'' => "&#39;".toList
  | c => [c]

/-- The text with every markup character written as its entity. -/
def escape (cs : List Char) : List Char := cs.flatMap entity

/-- The text with the entities of `escape` read back. -/
def unescape : List Char → List Char
  | [] => []
  | '&' :: 'a' :: 'm' :: 'p' :: ';' :: cs => '&' :: unescape cs
  | '&' :: 'l' :: 't' :: ';' :: cs => '<' :: unescape cs
  | '&' :: 'g' :: 't' :: ';' :: cs => '>' :: unescape cs
  | '&' :: 'q' :: 'u' :: 'o' :: 't' :: ';' :: cs => '"' :: unescape cs
  | '&' :: '#' :: '3' :: '9' :: ';' :: cs => '\'' :: unescape cs
  | c :: cs => c :: unescape cs

theorem escape_append (a b : List Char) : escape (a ++ b) = escape a ++ escape b := by
  simp [escape]

/-- Replacing the entities in an escaped text gives the text back, in one pass. -/
theorem unescape_escape (cs : List Char) : unescape (escape cs) = cs := by
  induction cs with
  | nil => simp [escape, unescape]
  | cons c cs ih =>
    have h : escape (c :: cs) = entity c ++ escape cs := by simp [escape]
    rw [h]
    unfold entity
    split <;> simp_all [unescape]

end MailTemplates.Text.Entities
