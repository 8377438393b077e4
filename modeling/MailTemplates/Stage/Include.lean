import MailTemplates.Stage.Basic
import MailTemplates.Text.Blank
import MailTemplates.Text.Piece
/-!
# Including files

A document names another file by `<mj-include path="…" />` to have its text in that place. The path
is read from the directory of the file that the directive stands in, and included files may include
others. A file may not be on the way to itself, and the way may not be longer than 32 files.

Main statement: `expand_of_no_directive` (a text without directives stays as it is).
-/

namespace MailTemplates.Include

open Text (Recogniser Piece pieces isBlank)

/-- How many files may be included in one another. -/
def depthLimit : Nat := 32

/-- Recognises a directive; its value is the path as it is written. -/
def directive : Recogniser (List Char) := fun cs =>
  let opening := "<mj-include".toList
  if !opening.isPrefixOf cs then none
  else
    let rest := cs.drop opening.length
    let blanks := rest.takeWhile isBlank
    let key := "path=\"".toList
    let rest' := rest.drop blanks.length
    if blanks.isEmpty || !key.isPrefixOf rest' then none
    else
      let value := rest'.drop key.length
      let path := value.takeWhile (· != '"')
      match value.drop path.length with
      | '"' :: behind =>
        let gap := behind.takeWhile isBlank
        match behind.drop gap.length with
        | '/' :: '>' :: _ =>
          some (path, opening.length + blanks.length + key.length + path.length + gap.length + 2)
        | _ => none
      | _ => none

/-- The file that a directive in a directory names, if it may be included: the files on the way to
it must not hold it, and there must be room for one more. -/
def target (tree : FileTree) (room : Nat) (directory : Path) (chain : List Path)
    (written : String) : Except IncludeProblem Path :=
  match tree.canonical (directory.join ⟨written⟩) with
  | .error problem => .error (.unresolvable written directory problem)
  | .ok file =>
    if file ∈ chain then .error (.cycle chain file)
    else if room = 0 then .error (.tooDeep depthLimit file)
    else .ok file

/-- The text that stands for a piece of a document: a character for itself, a directive for its
file, the directives of which are replaced by `deeper`. -/
def replacement (tree : FileTree) (room : Nat) (directory : Path) (chain : List Path)
    (deeper : Path → List Path → List Char → Except Failure (List Char)) :
    Piece (List Char) → Except Failure (List Char)
  | .plain c => .ok [c]
  | .token _ written =>
    match target tree room directory chain (String.ofList written) with
    | .error problem => .error (.inclusion problem)
    | .ok file =>
      match tree.readText file with
      | .error problem => .error (.io problem)
      | .ok content => deeper (file.parent.getD ⟨""⟩) (chain ++ [file]) content.toList

theorem replacement_plain (tree : FileTree) (room : Nat) (directory : Path) (chain : List Path)
    (deeper : Path → List Path → List Char → Except Failure (List Char)) (c : Char) :
    replacement tree room directory chain deeper (.plain c) = .ok [c] := rfl

/-- Replaces the directives of a text; `chain` holds the files on the way to it, and there may be
`room` more. -/
def expand (tree : FileTree) : Nat → Path → List Path → List Char → Except Failure (List Char)
  | 0, directory, chain, cs =>
    -- there is no room for a target, so none is ever read
    ((pieces directive cs).mapM
      (replacement tree 0 directory chain fun _ _ cs => .ok cs)).map List.flatten
  | room + 1, directory, chain, cs =>
    ((pieces directive cs).mapM
      (replacement tree (room + 1) directory chain (expand tree room))).map List.flatten

/-- What maps each character to itself gives the text back. -/
private theorem mapM_plain {f : Piece (List Char) → Except Failure (List Char)}
    (hf : ∀ c, f (.plain c) = .ok [c]) (ps : List (Piece (List Char)))
    (h : ∀ p ∈ ps, ∃ c, p = .plain c) : ps.mapM f = .ok (ps.map Piece.source) := by
  induction ps with
  | nil => rfl
  | cons p ps ih =>
    obtain ⟨c, rfl⟩ := h p (by simp)
    rw [List.mapM_cons, hf, ih fun q hq => h q (by simp [hq])]
    rfl

/-- A text without a directive stays as it is, at every depth. -/
theorem expand_of_no_directive (tree : FileTree) (room : Nat) (directory : Path)
    (chain : List Path) {cs : List Char}
    (h : ∀ p ∈ pieces directive cs, ∃ c, p = .plain c) :
    expand tree room directory chain cs = .ok cs := by
  have hs : ((pieces directive cs).map Piece.source).flatten = cs := by
    rw [← List.flatMap_def]
    exact Text.source_pieces directive cs
  cases room with
  | zero =>
    unfold expand
    rw [mapM_plain (replacement_plain _ _ _ _ _) _ h]
    exact congrArg Except.ok hs
  | succ room =>
    unfold expand
    rw [mapM_plain (replacement_plain _ _ _ _ _) _ h]
    exact congrArg Except.ok hs

/-- The stage that includes files. -/
def stage : Stage where
  name := "inline-includes"
  run tree project template source := uncrashed do
    let chain := match tree.canonical (project.sourceOf template) with
      | .ok file => [file]
      | .error _ => []
    let cs ← expand tree depthLimit (project.directoryOf template) chain source.toList
    return String.ofList cs

end MailTemplates.Include
