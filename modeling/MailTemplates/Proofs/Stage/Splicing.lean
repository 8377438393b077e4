import MailTemplates.Proofs.Project.Searching
import MailTemplates.Proofs.Stage.Including
/-!
# Where included texts meet

What including makes of a text is put together from stretches: each of them stands in one document,
in front of, between or behind its directives (`Spliced`). No stretch holds a directive, because
that would have been replaced (`Spliced.directiveFree`). But nobody looks at a text again together
with what is around it in its new place, so a directive may begin in one stretch and end in another
(`infix_or_spans`). Such a directive is left, and including once more replaces it
(`run_makes_directive`). Where there is none, including once more changes nothing; and there is none
if no stretch in front of another one ends in the beginning of a directive (`Opens`).

Main statement: `run_leaves_only_spanning`.
-/

namespace MailTemplates.Include

open Text (Piece Cut pieces)

/-! ## Texts without directives -/

/-- Whether no directive stands anywhere in a text. -/
def DirectiveFree (cs : List Char) : Prop := ∀ m written, IsDirective m written → ¬m <:+: cs

theorem directiveFree_nil : DirectiveFree [] := by
  intro m written hdirective hinfix
  exact recognises_directive.ne_nil hdirective (List.infix_nil.1 hinfix)

/-- Cutting a text says whether there is a directive in it. -/
theorem directiveFree_iff {cs : List Char} :
    DirectiveFree cs ↔ ∀ p ∈ pieces directive cs, ∃ c, p = .plain c :=
  recognises_directive.forall_not_infix_iff

/-- A text in which no directive begins has none. -/
theorem directiveFree_of_not_infix {cs : List Char} (h : ¬"<mj-include".toList <:+: cs) :
    DirectiveFree cs := by
  rintro m written ⟨blanks, gap, -, -, -, -, rfl⟩ hinfix
  exact h ((List.prefix_append _ _).isInfix.trans hinfix)

/-- Without a directive a text stays as it is. -/
theorem expand_of_directiveFree (tree : FileTree) (room : Nat) (directory : Path)
    (chain : List Path) {cs : List Char} (h : DirectiveFree cs) :
    expand tree room directory chain cs = .ok cs :=
  expand_of_no_directive tree room directory chain (directiveFree_iff.1 h)

/-!
## Stretches

The text that comes out is cut at the seams: where a directive stood, the text of its file begins
and ends. What is between two seams comes from one file.
-/

/-- The stretches that the expanded text of a document consists of: the characters up to its first
directive, the stretches of the file that this names, and so on to the end. -/
inductive Spliced (tree : FileTree) :
    Path → List (Piece (List Char)) → List (List Char) → Prop where
  | done (directory : Path) : Spliced tree directory [] [[]]
  | plain {directory : Path} {ps : List (Piece (List Char))} {stretch : List Char}
      {stretches : List (List Char)} (c : Char)
      (hrest : Spliced tree directory ps (stretch :: stretches)) :
      Spliced tree directory (.plain c :: ps) ((c :: stretch) :: stretches)
  | included {directory file within : Path} {m written : List Char} {content : String}
      {inner ps : List (Piece (List Char))} {texts stretches : List (List Char)}
      (htarget : tree.canonical (directory.join ⟨String.ofList written⟩) = .ok file)
      (hread : tree.readText file = .ok content) (hparent : file.parent = some within)
      (hcut : Cut IsDirective content.toList inner) (htexts : Spliced tree within inner texts)
      (hrest : Spliced tree directory ps stretches) :
      Spliced tree directory (.token m written :: ps) ([] :: (texts ++ stretches))

variable {tree : FileTree} {directory : Path} {ps : List (Piece (List Char))}
  {stretches : List (List Char)}

/-- There is a first stretch. -/
theorem Spliced.exists_cons (h : Spliced tree directory ps stretches) :
    ∃ stretch rest, stretches = stretch :: rest := by
  cases h with
  | done => exact ⟨_, _, rfl⟩
  | plain => exact ⟨_, _, rfl⟩
  | included => exact ⟨_, _, rfl⟩

/-- What becomes of a text consists of stretches. -/
theorem exists_spliced {out : List Char} (h : Inlined tree directory ps out) :
    ∃ stretches, Spliced tree directory ps stretches ∧ stretches.flatten = out := by
  induction h with
  | done directory => exact ⟨_, .done directory, rfl⟩
  | plain c _ ih =>
    obtain ⟨stretches, hspliced, rfl⟩ := ih
    obtain ⟨stretch, rest, rfl⟩ := hspliced.exists_cons
    exact ⟨_, .plain c hspliced, rfl⟩
  | included htarget hread hparent hcut _ _ ihtext ihrest =>
    obtain ⟨texts, htexts, rfl⟩ := ihtext
    obtain ⟨stretches, hrest, rfl⟩ := ihrest
    refine ⟨_, .included htarget hread hparent hcut htexts hrest, ?_⟩
    rw [List.flatten_cons, List.nil_append, List.flatten_append]

/-- The first stretch begins a document, and where a directive begins in a document it is cut out.
So no stretch has one. -/
theorem Spliced.directiveFree (h : Spliced tree directory ps stretches) {cs : List Char}
    (hcut : Cut IsDirective cs ps) :
    (∃ stretch rest, stretches = stretch :: rest ∧ stretch <+: cs) ∧
      ∀ stretch ∈ stretches, DirectiveFree stretch := by
  induction h generalizing cs with
  | done =>
    refine ⟨⟨[], [], rfl, List.nil_prefix⟩, ?_⟩
    rw [List.forall_mem_singleton]
    exact directiveFree_nil
  | @plain _ _ stretch rest c _ ih =>
    cases hcut with
    | @plain _ cs _ hnone hcut =>
      -- A directive in the longer stretch starts at the new character or later. At the character it
      -- would be one of the source, since the stretch is the front of it.
      obtain ⟨⟨first, others, hfirst, hprefix⟩, hfree⟩ := ih hcut
      cases hfirst
      have hbegins : c :: stretch <+: c :: cs := List.cons_prefix_cons.2 ⟨rfl, hprefix⟩
      refine ⟨⟨_, _, rfl, hbegins⟩, ?_⟩
      rw [List.forall_mem_cons] at hfree ⊢
      refine ⟨fun m written hdirective hinfix => ?_, hfree.2⟩
      rcases List.infix_cons_iff.1 hinfix with hstart | hlater
      · exact hnone m written hdirective (hstart.trans hbegins)
      · exact hfree.1 m written hdirective hlater
  | included _ _ _ hinner _ _ ihtexts ihrest =>
    cases hcut with
    | token _ hcut =>
      refine ⟨⟨[], _, rfl, List.nil_prefix⟩, ?_⟩
      rw [List.forall_mem_cons, List.forall_mem_append]
      exact ⟨directiveFree_nil, (ihtexts hinner).2, (ihrest hcut).2⟩

/-!
## Directives over several stretches

No stretch has a directive in it. So where there is one in the whole, it goes over a seam, and one
of the stretches ends with the front of it.
-/

/-- Whether a text that stands behind `front` in the stretches, read one after another, begins in
one of them and ends in a later one. -/
def Spans (stretches : List (List Char)) (front m : List Char) : Prop :=
  ∃ before head tail rest after, stretches = before ++ (head ++ tail) :: after ∧
    front = before.flatten ++ head ∧ m = tail ++ rest ∧ tail ≠ [] ∧ rest ≠ []

/-- Whether a text ends in the beginning of a directive. -/
def Opens (cs : List Char) : Prop :=
  ∃ head tail rest written, cs = head ++ tail ∧ tail ≠ [] ∧ rest ≠ [] ∧
    IsDirective (tail ++ rest) written

/-- What spans some stretches does so behind a further one. -/
theorem Spans.cons {front m : List Char} (h : Spans stretches front m) (stretch : List Char) :
    Spans (stretch :: stretches) (stretch ++ front) m := by
  obtain ⟨before, head, tail, rest, after, rfl, rfl, hm, htail, hrest⟩ := h
  refine ⟨stretch :: before, head, tail, rest, after, rfl, ?_, hm, htail, hrest⟩
  rw [List.flatten_cons, List.append_assoc]

/-- A text in the stretches stands in one of them, or in several. -/
theorem infix_or_spans {front m behind : List Char} (hm : m ≠ [])
    (h : stretches.flatten = front ++ (m ++ behind)) :
    (∃ stretch ∈ stretches, m <:+: stretch) ∨ Spans stretches front m := by
  induction stretches generalizing front with
  | nil =>
    rw [List.flatten_nil, List.nil_eq, List.append_eq_nil_iff, List.append_eq_nil_iff] at h
    exact absurd h.2.1 hm
  | cons stretch stretches ih =>
    have hlater : ∀ further, front = stretch ++ further →
        stretches.flatten = further ++ (m ++ behind) →
          (∃ s ∈ stretch :: stretches, m <:+: s) ∨ Spans (stretch :: stretches) front m := by
      rintro further rfl hflatten
      rcases ih hflatten with ⟨s, hs, hinfix⟩ | hspans
      · exact .inl ⟨s, List.mem_cons_of_mem _ hs, hinfix⟩
      · exact .inr (hspans.cons stretch)
    rw [List.flatten_cons] at h
    rcases List.append_eq_append_iff.1 h with ⟨further, hfront, hflatten⟩ | ⟨tail, hstretch, htail⟩
    · exact hlater further hfront hflatten
    · rcases List.append_eq_append_iff.1 htail with ⟨gap, rfl, -⟩ | ⟨rest, rfl, hflatten⟩
      · -- The first stretch reaches over the whole of it.
        refine .inl ⟨stretch, List.mem_cons_self, front, gap, ?_⟩
        rw [hstretch, List.append_assoc]
      · by_cases htail : tail = []
        · -- It begins right behind the first stretch.
          subst htail
          refine hlater [] ?_ hflatten
          rw [hstretch, List.append_nil, List.append_nil]
        · by_cases hrest : rest = []
          · subst hrest
            refine .inl ⟨stretch, List.mem_cons_self, front, [], ?_⟩
            rw [hstretch, List.append_nil, List.append_nil]
          · refine .inr ⟨[], front, tail, rest, stretches, ?_, rfl, rfl, htail, hrest⟩
            rw [hstretch, List.nil_append]

/-- A text that stands in several stretches begins at the end of one in front of another one. -/
theorem Spans.exists_mem_dropLast {front m behind : List Char} (h : Spans stretches front m)
    (hflatten : stretches.flatten = front ++ (m ++ behind)) :
    ∃ head tail rest, head ++ tail ∈ stretches.dropLast ∧ m = tail ++ rest ∧ tail ≠ [] ∧
      rest ≠ [] := by
  obtain ⟨before, head, tail, rest, after, rfl, rfl, rfl, htail, hrest⟩ := h
  refine ⟨head, tail, rest, ?_, rfl, htail, hrest⟩
  have hafter : after ≠ [] := by
    rintro rfl
    simp only [List.flatten_append, List.flatten_cons, List.flatten_nil, List.append_nil,
      List.append_assoc, List.append_cancel_left_eq, List.self_eq_append_right,
      List.append_eq_nil_iff] at hflatten
    exact hrest hflatten.1
  rw [List.dropLast_append_of_ne_nil (List.cons_ne_nil _ _),
    List.dropLast_cons_of_ne_nil hafter]
  exact List.mem_append_right _ List.mem_cons_self

/-- A directive that is left over begins at the end of a stretch in front of another one. -/
theorem exists_opens_of_spans {front m written : List Char} {behind : List Char}
    (hdirective : IsDirective m written) (h : Spans stretches front m)
    (hflatten : stretches.flatten = front ++ (m ++ behind)) :
    ∃ stretch ∈ stretches.dropLast, Opens stretch := by
  obtain ⟨head, tail, rest, hmem, rfl, htail, hrest⟩ := h.exists_mem_dropLast hflatten
  exact ⟨head ++ tail, hmem, head, tail, rest, written, rfl, htail, hrest, hdirective⟩

/-- What including gives consists of stretches without directives, so a directive in it begins in
one stretch and ends in a later one. There is none if no stretch in front of another one ends in the
beginning of a directive. Where there is none, including once more changes nothing. -/
theorem run_leaves_only_spanning (tree : FileTree) (project : Project) (template : Template)
    {source out : String} (h : stage.run tree project template source = .ok out) :
    (∃ ps stretches, Cut IsDirective source.toList ps ∧
        Spliced tree (project.directoryOf template) ps stretches ∧
        stretches.flatten = out.toList ∧
        (∀ stretch ∈ stretches, DirectiveFree stretch) ∧
        (∀ front m behind written, out.toList = front ++ (m ++ behind) →
          IsDirective m written → Spans stretches front m) ∧
        ((∀ stretch ∈ stretches.dropLast, ¬Opens stretch) → DirectiveFree out.toList)) ∧
      (DirectiveFree out.toList → stage.run tree project template out = .ok out) := by
  refine ⟨?_, fun hfree => run_stage_eq_ok_iff.2 (expand_of_directiveFree _ _ _ _ hfree)⟩
  have hcut : Cut IsDirective source.toList (pieces directive source.toList) :=
    recognises_directive.cut_pieces _
  obtain ⟨stretches, hspliced, hflatten⟩ :=
    exists_spliced (inlined_of_expand (run_stage_eq_ok_iff.1 h))
  have hfree := (hspliced.directiveFree hcut).2
  -- No stretch has a directive, so one in the whole reaches over a seam.
  have hspans : ∀ front m behind written, out.toList = front ++ (m ++ behind) →
      IsDirective m written → Spans stretches front m := by
    intro front m behind written hout hdirective
    rcases infix_or_spans (recognises_directive.ne_nil hdirective) (hflatten.trans hout) with
      ⟨stretch, hstretch, hinfix⟩ | hspans
    · exact absurd hinfix (hfree stretch hstretch m written hdirective)
    · exact hspans
  refine ⟨_, stretches, hcut, hspliced, hflatten, hfree, hspans, ?_⟩
  rintro hcloses m written hdirective ⟨front, behind, hout⟩
  rw [List.append_assoc] at hout
  obtain ⟨stretch, hstretch, hopens⟩ := exists_opens_of_spans hdirective
    (hspans front m behind written hout.symm hdirective) (hflatten.trans hout.symm)
  exact hcloses stretch hstretch hopens

/-- A letter in a directory of its own, the parts of which include one another. -/
def letter : Template := ⟨"l", "letter", "mails/letter", none, none, []⟩

def letterFiles : FileTree := ⟨[
  (["p"], .directory),
  (["p", "mails"], .directory),
  (["p", "mails", "parts"], .directory),
  (["p", "mails", "parts", "head"], .file "<h><mj-include path=\"./logo\" /></h>".toUTF8 false),
  (["p", "mails", "parts", "logo"], .file "LOGO".toUTF8 false)]⟩

/-- A letter and its part: no directive is left, and a second pass changes nothing. -/
theorem run_leaves_none_in_letter :
    let run := stage.run letterFiles Project.mails letter
    run "<a><mj-include path=\"./parts/head\" /></a>" = .ok "<a><h>LOGO</h></a>" ∧
      DirectiveFree "<a><h>LOGO</h></a>".toList ∧
      run "<a><h>LOGO</h></a>" = .ok "<a><h>LOGO</h></a>" := by
  intro run
  have hrun : run "<a><mj-include path=\"./parts/head\" /></a>" = .ok "<a><h>LOGO</h></a>" :=
    eq_ok_of_toOption (by decide +kernel)
  have hfree : DirectiveFree "<a><h>LOGO</h></a>".toList :=
    directiveFree_of_not_infix (by decide +kernel)
  exact ⟨hrun, hfree, (run_leaves_only_spanning letterFiles Project.mails letter hrun).2 hfree⟩

/-! ## Directives that are made by including -/

/-- A note and a part of it that goes on with a directive that the note has begun. -/
def note : Template := ⟨"n", "note", "note", none, none, []⟩

def noteFiles : FileTree := ⟨[
  (["p"], .directory),
  (["p", "note"], .file "<mj-<mj-include path=\"part\"/>".toUTF8 false),
  (["p", "part"], .file "include path=\"other\"/>".toUTF8 false),
  (["p", "other"], .file "O".toUTF8 false)]⟩

/-- Including may put a directive together that is in none of the texts. It is left, and including
once more replaces it. -/
theorem run_makes_directive :
    let run := stage.run noteFiles Project.mails note
    run "<mj-<mj-include path=\"part\"/>" = .ok "<mj-include path=\"other\"/>" ∧
      IsDirective "<mj-include path=\"other\"/>".toList "other".toList ∧
      run "<mj-include path=\"other\"/>" = .ok "O" := by
  refine ⟨eq_ok_of_toOption (by decide +kernel), ?_, eq_ok_of_toOption (by decide +kernel)⟩
  exact isDirective_of_eq (by decide) (by decide)

end MailTemplates.Include
