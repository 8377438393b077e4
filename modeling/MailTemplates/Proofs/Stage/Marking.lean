import MailTemplates.Proofs.Stage.BlockTag
import MailTemplates.Proofs.Text.Erasing
/-!
# Stripping what deferring has marked

Deferring puts markers around every block tag, stripping takes all markers away. A block tag starts
and ends with a brace, and no marker holds one, so no occurrence of a marker reaches into a block
tag or out of it. What is before a tag, the tag, and what is behind it are stripped apart, with the
markers that deferring puts around the tag (`strip_wrapped`) and without them (`strip_braced`). So a
text is stripped to the same whether it was deferred or not (`strip_defer`), whatever markers it had
before.

A text without markers is left alone (`strip_of_unmarked`), so deferring it and stripping what comes
of that gives it back.

Main statement: `run_defer_strip`.
-/

namespace MailTemplates.RawMarker

open Text (Piece pieces eraseAll eraseAll_append_cons eraseAll_append_of_head_not_mem
  eraseAll_append_of_not_mem eraseAll_append_word)

/-- A text in which neither of the markers occurs. -/
def Unmarked (cs : List Char) : Prop := ¬opening <:+: cs ∧ ¬closing <:+: cs

/-- Without a marker nothing is stripped. -/
theorem strip_of_unmarked {cs : List Char} (h : Unmarked cs) : strip cs = cs := by
  rw [strip, Text.eraseAll_of_not_infix h.1, Text.eraseAll_of_not_infix h.2]

/-! ## Text between braces -/

/-- A text that starts and ends with a brace. -/
def Braced (cs : List Char) : Prop := ∃ inner, cs = '{' :: (inner ++ ['}'])

/-- Neither pass of stripping reaches over a character that the markers do not have. -/
theorem strip_append_cons {c : Char} (ho : c ∉ opening) (hc : c ∉ closing) (xs ys : List Char) :
    strip (xs ++ c :: ys) = strip xs ++ c :: strip ys := by
  unfold strip
  rw [eraseAll_append_of_not_mem (by decide) ho, eraseAll_append_of_not_mem (by decide) hc]

/-- A character that no marker has stays. -/
theorem strip_cons {c : Char} (ho : c ∉ opening) (hc : c ∉ closing) (cs : List Char) :
    strip (c :: cs) = c :: strip cs := strip_append_cons ho hc [] cs

theorem strip_nil : strip [] = [] := rfl

/-- A text in braces is stripped apart from what is around it, as no marker reaches over a brace. -/
theorem strip_braced {tag : List Char} (h : Braced tag) (xs ys : List Char) :
    strip (xs ++ (tag ++ ys)) = strip xs ++ (strip tag ++ strip ys) := by
  obtain ⟨inner, rfl⟩ := h
  have hopen : ∀ zs, strip ('{' :: zs) = '{' :: strip zs := strip_cons (by decide) (by decide)
  have hclose : ∀ zs, strip (inner ++ '}' :: zs) = strip inner ++ '}' :: strip zs :=
    strip_append_cons (by decide) (by decide) inner
  have htag : '{' :: (inner ++ ['}']) ++ ys = '{' :: (inner ++ '}' :: ys) := by simp
  rw [htag, strip_append_cons (by decide) (by decide), hopen, hclose, hclose]
  simp [strip_nil]

/-- Erasing the opening markers leaves a closing one in front. -/
theorem eraseAll_opening_closing (ys : List Char) :
    eraseAll opening (closing ++ ys) = closing ++ eraseAll opening ys := by
  have hclosing : closing ++ ys = ['<'] ++ '/' :: ("mj-raw>".toList ++ ys) := by
    rw [show closing = ['<', '/'] ++ "mj-raw>".toList by decide]
    rfl
  have hfirst : eraseAll opening ['<'] = ['<'] := by decide
  rw [hclosing, eraseAll_append_of_not_mem (by decide) (by decide), hfirst,
    eraseAll_append_of_head_not_mem (by decide) (by decide)]
  show ['<', '/'] ++ ("mj-raw>".toList ++ eraseAll opening ys) = closing ++ eraseAll opening ys
  rw [← List.append_assoc]
  rfl

/-- The markers around a tag disappear, and nothing else changes for that. -/
theorem strip_wrapped {tag : List Char} (h : Braced tag) (xs ys : List Char) :
    strip (xs ++ (opening ++ (tag ++ (closing ++ ys)))) =
      strip xs ++ (strip tag ++ strip ys) := by
  have hfront : eraseAll opening (xs ++ tag) = eraseAll opening xs ++ eraseAll opening tag := by
    obtain ⟨inner, rfl⟩ := h
    exact eraseAll_append_cons (by decide) (by decide) _ _
  have hopening : eraseAll opening (xs ++ (opening ++ (tag ++ (closing ++ ys)))) =
      eraseAll opening (xs ++ tag) ++ (closing ++ eraseAll opening ys) := by
    calc eraseAll opening (xs ++ (opening ++ (tag ++ (closing ++ ys))))
        = eraseAll opening xs ++ eraseAll opening (tag ++ (closing ++ ys)) :=
          eraseAll_append_word (by decide) (by decide) _ _
      _ = eraseAll opening xs ++ (eraseAll opening tag ++ eraseAll opening (closing ++ ys)) :=
          congrArg _ (eraseAll_append_cons (by decide) (by decide) _ _)
      _ = eraseAll opening (xs ++ tag) ++ (closing ++ eraseAll opening ys) := by
          rw [eraseAll_opening_closing, hfront, List.append_assoc]
  have hboth : strip (xs ++ tag) = strip xs ++ strip tag := by
    simpa [strip_nil] using strip_braced h xs []
  calc strip (xs ++ (opening ++ (tag ++ (closing ++ ys))))
      = eraseAll closing (eraseAll opening (xs ++ tag) ++ (closing ++ eraseAll opening ys)) :=
        congrArg (eraseAll closing) hopening
    _ = strip (xs ++ tag) ++ strip ys := eraseAll_append_word (by decide) (by decide) _ _
    _ = strip xs ++ (strip tag ++ strip ys) := by rw [hboth, List.append_assoc]

/-! ## Deferred texts -/

/-- A marked tag is in braces. -/
theorem IsMarked.braced {m : List Char} (h : IsMarked m) : Braced m := by
  obtain ⟨inner, rfl, -, -⟩ := h
  exact ⟨'{' :: (inner ++ ['}']), by simp⟩

/-- Stripping takes away what deferring has put around the tags. -/
theorem strip_flatMap_wrapped {ps : List (Piece Unit)}
    (h : ∀ source value, Piece.token source value ∈ ps → Braced source) (xs : List Char) :
    strip (xs ++ ps.flatMap wrapped) = strip (xs ++ ps.flatMap Piece.source) := by
  induction ps generalizing xs with
  | nil => rfl
  | cons p ps ih =>
    have hrest : ∀ source value, Piece.token source value ∈ ps → Braced source :=
      fun source value hp => h source value (List.mem_cons_of_mem _ hp)
    cases p with
    | plain c =>
      simpa [wrapped, Piece.source] using ih hrest (xs ++ [c])
    | token source value =>
      have hbraced := h source value List.mem_cons_self
      have htail : strip (ps.flatMap wrapped) = strip (ps.flatMap Piece.source) := ih hrest []
      simp only [List.flatMap_cons, wrapped, Piece.source, List.append_assoc]
      rw [strip_wrapped hbraced, strip_braced hbraced, htail]

/-- Stripping takes away what deferring has added, and else the same as without it. -/
theorem strip_defer (cs : List Char) : strip (defer cs) = strip cs := by
  have hbraced : ∀ source value, Piece.token source value ∈ pieces blockTag cs → Braced source :=
    fun _ _ hp => ((recognises_blockTag.cut_pieces cs).matches_of_mem hp).braced
  have h := strip_flatMap_wrapped hbraced []
  rw [Text.source_pieces] at h
  exact h

/-- As stages, deferring and stripping are stripping, whatever markers the source has; a source
without any is given back. -/
theorem run_defer_strip (tree : FileTree) (project : Project) (template : Template)
    (source : String) :
    Pipe.run tree project template [deferStage, stripStage] source =
        Pipe.run tree project template [stripStage] source ∧
      (Unmarked source.toList →
        Pipe.run tree project template [deferStage, stripStage] source = .ok source) := by
  have hboth : Pipe.run tree project template [deferStage, stripStage] source =
      .ok (String.ofList (strip (String.ofList (defer source.toList)).toList)) := rfl
  have hstrip : Pipe.run tree project template [stripStage] source =
      .ok (String.ofList (strip source.toList)) := rfl
  rw [hboth, hstrip, String.toList_ofList, strip_defer]
  refine ⟨rfl, fun hunmarked => ?_⟩
  rw [strip_of_unmarked hunmarked, String.ofList_toList]

/-- A condition in a letter: it is wrapped, and the markers are gone in the end. -/
theorem run_defer_strip_conditional :
    let project : Project := ⟨.prod, ⟨"/p"⟩, ⟨none, none, []⟩, none, [], []⟩
    let greeting : Template := ⟨"g", "greeting", "greeting", none, none, []⟩
    let source := "\x7b\x7b#if vip\x7d\x7dDear\x7b\x7b/if\x7d\x7d"
    let deferred := "<mj-raw>\x7b\x7b#if vip\x7d\x7d</mj-raw>Dear" ++
      "<mj-raw>\x7b\x7b/if\x7d\x7d</mj-raw>"
    Unmarked source.toList ∧
      Pipe.run .empty project greeting [deferStage] source = .ok deferred ∧
      Pipe.run .empty project greeting [deferStage, stripStage] source = .ok source := by
  intro project greeting source deferred
  have hunmarked : Unmarked source.toList := ⟨by decide +kernel, by decide +kernel⟩
  exact ⟨hunmarked, congrArg Except.ok (by decide +kernel),
    (run_defer_strip .empty project greeting source).2 hunmarked⟩

end MailTemplates.RawMarker
