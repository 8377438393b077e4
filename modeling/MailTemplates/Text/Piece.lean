/-!
# Cutting a text at the matches of a recogniser

A recogniser looks at the front of a text and says whether something it knows starts there. Cutting
a text with it gives the leftmost matches that do not overlap, and every character between them.

Main statements: `source_pieces` (nothing is lost: the pieces read one after another are the text)
and `pieces_eq` (the pieces by recursion on the text, the form that proofs follow).
-/

namespace MailTemplates.Text

/-- A part of a text: a character no match covers, or a match with its characters and what the
recogniser made of them. -/
inductive Piece (α : Type) where
  | plain (c : Char)
  | token (source : List Char) (value : α)
deriving Repr

namespace Piece

variable {α : Type}

/-- The characters a piece was cut from. -/
def source : Piece α → List Char
  | plain c => [c]
  | token s _ => s

end Piece

/-- What is recognised at the front of a text: a value, and how many characters the match takes
after its first. -/
abbrev Recogniser (α : Type) := List Char → Option (α × Nat)

/-- Cuts a text, the first `skip` characters of which belong to the match before. -/
def piecesFrom {α : Type} (recognise : Recogniser α) : Nat → List Char → List (Piece α)
  | _, [] => []
  | skip + 1, _ :: cs => piecesFrom recognise skip cs
  | 0, c :: cs =>
    match recognise (c :: cs) with
    | some (a, n) => .token (c :: cs.take n) a :: piecesFrom recognise n cs
    | none => .plain c :: piecesFrom recognise 0 cs

/-- `piecesFrom` behind the pieces that were cut before, the last one first. -/
def piecesOnto {α : Type} (recognise : Recogniser α) :
    List (Piece α) → Nat → List Char → List (Piece α)
  | done, _, [] => done.reverse
  | done, skip + 1, _ :: cs => piecesOnto recognise done skip cs
  | done, 0, c :: cs =>
    match recognise (c :: cs) with
    | some (a, n) => piecesOnto recognise (.token (c :: cs.take n) a :: done) n cs
    | none => piecesOnto recognise (.plain c :: done) 0 cs

/-- The loop with an accumulator is the recursion without one. -/
theorem piecesOnto_eq {α : Type} (r : Recogniser α) (cs : List Char) :
    ∀ done n, piecesOnto r done n cs = done.reverse ++ piecesFrom r n cs := by
  induction cs with
  | nil => intro done n; cases n <;> simp [piecesOnto, piecesFrom]
  | cons c cs ih =>
    intro done n
    cases n with
    | succ n => simpa [piecesOnto, piecesFrom] using ih done n
    | zero =>
      cases h : r (c :: cs) with
      | none => simp [piecesOnto, piecesFrom, h, ih]
      | some m => simp [piecesOnto, piecesFrom, h, ih]

/-- The leftmost matches that do not overlap, and the characters between them. -/
def pieces {α : Type} (recognise : Recogniser α) (cs : List Char) : List (Piece α) :=
  piecesOnto recognise [] 0 cs

theorem pieces_eq {α : Type} (r : Recogniser α) (cs : List Char) :
    pieces r cs = piecesFrom r 0 cs := by
  simp [pieces, piecesOnto_eq]

/-- The pieces are the text, apart from what is still to be skipped. -/
theorem source_piecesFrom {α : Type} (r : Recogniser α) (cs : List Char) :
    ∀ n, (piecesFrom r n cs).flatMap Piece.source = cs.drop n := by
  induction cs with
  | nil => intro n; cases n <;> simp [piecesFrom]
  | cons c cs ih =>
    intro n
    cases n with
    | succ n => simpa [piecesFrom] using ih n
    | zero =>
      cases h : r (c :: cs) with
      | none => simp [piecesFrom, h, Piece.source, ih 0]
      | some m => simp [piecesFrom, h, Piece.source, ih m.2]

/-- The pieces of a text, read one after another, are the text. -/
theorem source_pieces {α : Type} (r : Recogniser α) (cs : List Char) :
    (pieces r cs).flatMap Piece.source = cs := by
  simpa [pieces_eq] using source_piecesFrom r cs 0

/-! ## Fixed words -/

/-- Recognises one fixed word, which is not empty. -/
def word (w : List Char) : Recogniser Unit := fun cs =>
  match w with
  | [] => none
  | _ :: tail => if w.isPrefixOf cs then some ((), tail.length) else none

/-- Replaces every leftmost occurrence of a word. -/
def replaceAll (w replacement cs : List Char) : List Char :=
  (pieces (word w) cs).flatMap fun
    | .plain c => [c]
    | .token _ _ => replacement

/-- Removes every leftmost occurrence of a word, in one pass. -/
def eraseAll (w cs : List Char) : List Char := replaceAll w [] cs

/-- `replaceFirst` behind characters that were passed before, the last one first. -/
def replaceFirstOnto (w replacement : List Char) : List Char → List Char → List Char
  | passed, [] => passed.reverse
  | passed, c :: cs =>
    if w.isPrefixOf (c :: cs) then passed.reverse ++ (replacement ++ (c :: cs).drop w.length)
    else replaceFirstOnto w replacement (c :: passed) cs

/-- Replaces the first occurrence of a word, if there is one. -/
def replaceFirst (w replacement cs : List Char) : List Char :=
  replaceFirstOnto w replacement [] cs

/-- The parts of a text between the occurrences of a character; there is always one. -/
def splitAt (sep : Char) : List Char → List (List Char)
  | [] => [[]]
  | c :: cs =>
    if c = sep then [] :: splitAt sep cs
    else
      match splitAt sep cs with
      | [] => [[c]]
      | part :: parts => (c :: part) :: parts

/-- There is always a last part. -/
theorem splitAt_ne_nil (sep : Char) (cs : List Char) : splitAt sep cs ≠ [] := by
  cases cs with
  | nil => simp [splitAt]
  | cons c cs =>
    unfold splitAt
    split
    · simp
    · split <;> simp

/-- A text that holds a word. -/
def contains (w : List Char) : List Char → Bool
  | [] => w.isEmpty
  | c :: cs => w.isPrefixOf (c :: cs) || contains w cs

end MailTemplates.Text
