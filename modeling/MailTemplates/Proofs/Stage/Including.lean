import Mathlib.Data.List.TakeWhile
import MailTemplates.Proofs.FileTree.Directories
import MailTemplates.Proofs.FileTree.Parents
import MailTemplates.Proofs.Stage.Reading
import MailTemplates.Proofs.Stage.Running
import MailTemplates.Proofs.Text.Cutting
/-!
# Including files

A directive stands for the text of a file, and the directives in there for the texts of others: the
inclusions of a source form a tree, and a way in it is a list of files, each named by a directive of
the one before (`Way`). Expanding a text succeeds exactly if no directive on any way is in conflict
with the files in front of it (`exists_expand_iff`). The induction is on the room that is left: for
each directive of the text there is one file more on the way and room for one less, and the other
directives do not come into it (`admissible_iff`). So what a directive is replaced by does not
depend on its neighbours either (`expand_append`).

The argument has four parts:

1. The pattern. What `directive` finds in front of a text is a directive, and it finds each that is
   there (`recognises_directive`). With that the cut of a text into characters and directives is
   unique, and the definitions below may speak of any cut.
2. The tree. `Way`, `Admissible` and `Inlined` are written without the code that expands: they know
   of paths, files and cuts only.
3. Success. `admissible_iff` takes the first directive off every way, and
   `replacement_token_eq_ok_iff` says when the code replaces it. Both have the same conditions, with
   the same statement one level deeper, which is the hypothesis of the induction
   (`exists_expand_iff_of_deeper`).
4. The result. It is an inlining (`inlined_of_expand`), and there is one only, because the directory
   of a text and the cut of it leave no choice (`Inlined.unique`).

Main statement: `run_inlines`.
-/

namespace MailTemplates.Include

open Text (Piece Cut Recognises pieces isBlank takeWhile_append_cons)

/-!
## Directives

What a directive looks like is said without the recogniser, and then the two are compared in both
directions.
-/

/-- A directive, with the path that is written in it. -/
def IsDirective (m written : List Char) : Prop :=
  ∃ blanks gap, blanks ≠ [] ∧ (∀ c ∈ blanks, isBlank c = true) ∧ (∀ c ∈ gap, isBlank c = true) ∧
    '"' ∉ written ∧
    m = "<mj-include".toList ++
      (blanks ++ ("path=\"".toList ++ (written ++ '"' :: (gap ++ ['/', '>']))))

/-- The directive with one blank in front of the path and none behind. -/
theorem isDirective_of_eq {m written : List Char} (hquote : '"' ∉ written)
    (hm : m = "<mj-include path=\"".toList ++ (written ++ "\"/>".toList)) :
    IsDirective m written :=
  ⟨[' '], [], List.cons_ne_nil _ _, List.forall_mem_singleton.2 (by decide), nofun, hquote, hm⟩

/-- What is recognised is a directive: the text is put together again from what was taken off its
front, one part after the other. -/
theorem exists_of_directive {cs written : List Char} {n : Nat}
    (h : directive cs = some (written, n)) :
    ∃ m rest, cs = m ++ rest ∧ IsDirective m written := by
  unfold directive at h
  dsimp only at h
  split at h
  · nomatch h
  next hopening =>
  split at h
  · nomatch h
  next hkey =>
  split at h
  · next behind hbehind =>
    split at h
    · next more hmore =>
      cases h
      -- Each part is what was taken while a condition held, so it is followed by what is left.
      rw [Bool.not_eq_true', Bool.not_eq_false, List.isPrefixOf_iff_prefix] at hopening
      obtain ⟨tail, rfl⟩ := hopening
      rw [List.drop_left] at hkey hbehind ⊢
      rw [Bool.not_eq_true, Bool.or_eq_false_iff, Bool.not_eq_false', List.isEmpty_eq_false_iff,
        List.isPrefixOf_iff_prefix] at hkey
      obtain ⟨hne, value, hvalue⟩ := hkey
      rw [← hvalue, List.drop_left] at hbehind ⊢
      refine ⟨_, more, ?_, tail.takeWhile isBlank, behind.takeWhile isBlank, hne, ?_, ?_, ?_, rfl⟩
      · have hwhole (p : Char → Bool) (xs : List Char) :
            xs.takeWhile p ++ xs.drop (xs.takeWhile p).length = xs :=
          List.prefix_iff_eq_append.1 (List.takeWhile_prefix p)
        have htail := hwhole isBlank tail
        have hwritten := hwhole (· != '"') value
        have hgap := hwhole isBlank behind
        rw [hbehind] at hwritten
        rw [hmore] at hgap
        simp only [List.append_assoc, List.cons_append, List.nil_append]
        rw [hgap, hwritten, hvalue, htail]
      · exact List.all_eq_true.1 (List.all_takeWhile ..)
      · exact List.all_eq_true.1 (List.all_takeWhile ..)
      · intro hmem
        have hquote := List.all_eq_true.1 (List.all_takeWhile ..) _ hmem
        nomatch hquote
    · nomatch h
  · nomatch h

/-- And a directive at the front is found, whatever follows it. -/
theorem directive_of_isDirective {m written : List Char} (h : IsDirective m written)
    (rest : List Char) : directive (m ++ rest) = some (written, m.length - 1) := by
  obtain ⟨blanks, gap, hne, hblanks, hgap, hquote, rfl⟩ := h
  have hall : "<mj-include".toList ++ (blanks ++ ("path=\"".toList ++
      (written ++ '"' :: (gap ++ ['/', '>'])))) ++ rest = "<mj-include".toList ++ (blanks ++
        ("path=\"".toList ++ (written ++ '"' :: (gap ++ '/' :: '>' :: rest)))) := by
    simp only [List.append_assoc, List.cons_append, List.nil_append]
  have hopening : ∀ cs, ("<mj-include".toList).isPrefixOf ("<mj-include".toList ++ cs) = true :=
    fun cs => List.isPrefixOf_iff_prefix.2 (List.prefix_append _ cs)
  have hkey : ∀ cs, ("path=\"".toList).isPrefixOf ("path=\"".toList ++ cs) = true :=
    fun cs => List.isPrefixOf_iff_prefix.2 (List.prefix_append _ cs)
  have hspace : ∀ cs, (blanks ++ ("path=\"".toList ++ cs)).takeWhile isBlank = blanks :=
    fun cs => (takeWhile_append_cons (by decide) _ _).trans (List.takeWhile_eq_self_iff.2 hblanks)
  have hunquoted : ∀ c ∈ written, (c != '"') = true := by
    intro c hc
    rw [bne_iff_ne]
    rintro rfl
    exact hquote hc
  have hpath : ∀ cs, (written ++ '"' :: cs).takeWhile (· != '"') = written :=
    fun cs => (takeWhile_append_cons (by decide) _ _).trans
      (List.takeWhile_eq_self_iff.2 hunquoted)
  have hend : (gap ++ '/' :: '>' :: rest).takeWhile isBlank = gap :=
    (takeWhile_append_cons (by decide) _ _).trans (List.takeWhile_eq_self_iff.2 hgap)
  have hempty : blanks.isEmpty = false := List.isEmpty_eq_false_iff.2 hne
  rw [hall]
  unfold directive
  simp only [hopening, hkey, hspace, hpath, hend, hempty, List.drop_left]
  simp
  omega

/-- So the pattern recognises the directives, and cuts a text in one way. -/
theorem recognises_directive : Recognises directive IsDirective where
  ne_nil := by
    rintro m written ⟨blanks, gap, -, -, -, -, rfl⟩
    nofun
  sound := exists_of_directive
  complete := directive_of_isDirective

/-- A directive by itself is one piece. -/
theorem pieces_of_isDirective {m written : List Char} (h : IsDirective m written) :
    pieces directive m = [.token m written] := by
  have hsingle := recognises_directive.pieces_append h []
  rwa [List.append_nil] at hsingle

/-!
## The tree of inclusions

These definitions are about files and texts. Which of the directives on a way is looked at first
does not come into them.
-/

/-- The ways from a text in a directory into the files that its directives name, and those that
theirs name: over some files to a text in the directory of the last one. -/
inductive Way (tree : FileTree) : Path → List Char → List Path → Path → List Char → Prop where
  | here (directory : Path) (cs : List Char) : Way tree directory cs [] directory cs
  | into {directory file within last : Path} {cs m written text : List Char}
      {ps : List (Piece (List Char))} {content : String} {files : List Path}
      (hcut : Cut IsDirective cs ps) (hdirective : .token m written ∈ ps)
      (htarget : tree.canonical (directory.join ⟨String.ofList written⟩) = .ok file)
      (hread : tree.readText file = .ok content) (hparent : file.parent = some within)
      (hway : Way tree within content.toList files last text) :
      Way tree directory cs (file :: files) last text

/-- Whether each directive on each way names a file that can be read, that is not on the way there,
with the files in front of it, and for which there is room. -/
def Admissible (tree : FileTree) (room : Nat) (directory : Path) (chain : List Path)
    (cs : List Char) : Prop :=
  ∀ files last text, Way tree directory cs files last text →
    ∀ ps, Cut IsDirective text ps → ∀ m written, .token m written ∈ ps →
      ∃ file content, tree.canonical (last.join ⟨String.ofList written⟩) = .ok file ∧
        file ∉ chain ++ files ∧ files.length + 1 ≤ room ∧ tree.readText file = .ok content

/-- What becomes of a text that is cut: plain characters stay, and for each directive there is what
becomes of the text of its file. -/
inductive Inlined (tree : FileTree) : Path → List (Piece (List Char)) → List Char → Prop where
  | done (directory : Path) : Inlined tree directory [] []
  | plain {directory : Path} {ps : List (Piece (List Char))} {out : List Char} (c : Char)
      (hrest : Inlined tree directory ps out) : Inlined tree directory (.plain c :: ps) (c :: out)
  | included {directory file within : Path} {m written text out : List Char} {content : String}
      {inner ps : List (Piece (List Char))}
      (htarget : tree.canonical (directory.join ⟨String.ofList written⟩) = .ok file)
      (hread : tree.readText file = .ok content) (hparent : file.parent = some within)
      (hcut : Cut IsDirective content.toList inner) (htext : Inlined tree within inner text)
      (hrest : Inlined tree directory ps out) :
      Inlined tree directory (.token m written :: ps) (text ++ out)

variable {tree : FileTree} {room : Nat} {directory : Path} {chain : List Path} {cs : List Char}

/-- A file that can be read is in some directory. -/
theorem exists_parent_of_readText {file : Path} {content : String}
    (h : tree.readText file = .ok content) : ∃ within, file.parent = some within := by
  obtain ⟨-, place, bytes, executable, hresolve, hfile⟩ :=
    FileTree.isFile_eq_true_iff.1 (FileTree.isFile_of_readText h)
  obtain ⟨within, hparent, -⟩ := FileTree.directory_of_file hresolve hfile
  exact ⟨within, hparent⟩

/-- A text may be expanded if its own directives may be and the texts of their files, each on its
own, with one more file on the way and room for one less. -/
theorem admissible_iff :
    Admissible tree room directory chain cs ↔
      ∀ m written, .token m written ∈ pieces directive cs →
        ∃ file content within fewer,
          tree.canonical (directory.join ⟨String.ofList written⟩) = .ok file ∧ file ∉ chain ∧
          room = fewer + 1 ∧ tree.readText file = .ok content ∧ file.parent = some within ∧
          Admissible tree fewer within (chain ++ [file]) content.toList := by
  have hcut : Cut IsDirective cs (pieces directive cs) := recognises_directive.cut_pieces cs
  constructor
  · -- The ways from the text of the file, with the file in front, are ways from the text.
    intro h m written hdirective
    obtain ⟨file, content, htarget, hnew, hroom, hread⟩ :=
      h [] directory cs (.here directory cs) _ hcut m written hdirective
    obtain ⟨within, hparent⟩ := exists_parent_of_readText hread
    obtain ⟨fewer, rfl⟩ := Nat.exists_eq_succ_of_ne_zero (Nat.ne_of_gt hroom)
    rw [List.append_nil] at hnew
    refine ⟨file, content, within, fewer, htarget, hnew, rfl, hread, hparent, ?_⟩
    intro files last text hway ps hps m' written' hmem
    obtain ⟨file', content', htarget', hnew', hroom', hread'⟩ :=
      h _ last text (.into hcut hdirective htarget hread hparent hway) ps hps m' written' hmem
    refine ⟨file', content', htarget', ?_, ?_, hread'⟩
    · rwa [List.append_assoc]
    · rw [List.length_cons] at hroom'
      omega
  · intro h files last text hway ps hps m written hdirective
    cases hway with
    | here =>
      obtain rfl := recognises_directive.cut_iff.1 hps
      obtain ⟨file, content, within, fewer, htarget, hnew, rfl, hread, -, -⟩ :=
        h m written hdirective
      refine ⟨file, content, htarget, ?_, ?_, hread⟩
      · rwa [List.append_nil]
      · rw [List.length_nil]
        omega
    | into hfirst hmem htarget hread hparent hway =>
      obtain rfl := recognises_directive.cut_iff.1 hfirst
      obtain ⟨file, content, within, fewer, htarget', -, rfl, hread', hparent', hinner⟩ :=
        h _ _ hmem
      -- The way goes into the file that the directive names.
      rw [htarget] at htarget'
      cases htarget'
      rw [hread] at hread'
      cases hread'
      rw [hparent] at hparent'
      cases hparent'
      obtain ⟨file', content', htarget', hnew, hroom, hread'⟩ :=
        hinner _ last text hway ps hps m written hdirective
      refine ⟨file', content', htarget', ?_, ?_, hread'⟩
      · rwa [List.append_assoc] at hnew
      · rw [List.length_cons]
        omega

/-!
## Expanding

The recursion of the code goes into files, and its measure is the room. One level of it is taken
apart here, with what is done deeper as a parameter; the inductions then only have to put levels
together.
-/

/-- What is done with the text of a file when there is room for some more. -/
def deeper (tree : FileTree) : Nat → Path → List Path → List Char → Except Failure (List Char)
  | 0 => fun _ _ cs => .ok cs
  | room + 1 => expand tree room

/-- A text is expanded piece by piece. -/
theorem expand_eq (tree : FileTree) (room : Nat) (directory : Path) (chain : List Path)
    (cs : List Char) :
    expand tree room directory chain cs =
      ((pieces directive cs).mapM
        (replacement tree room directory chain (deeper tree room))).map List.flatten := by
  cases room with
  | zero => rfl
  | succ room => rfl

/-- A directive is replaced if its file is there, is not on the chain, is within the depth and can
be read, and its content can be expanded in turn. -/
theorem replacement_token_eq_ok_iff
    {f : Path → List Path → List Char → Except Failure (List Char)} {m written out : List Char} :
    replacement tree room directory chain f (.token m written) = .ok out ↔
      ∃ file content within, tree.canonical (directory.join ⟨String.ofList written⟩) = .ok file ∧
        file ∉ chain ∧ room ≠ 0 ∧ tree.readText file = .ok content ∧ file.parent = some within ∧
        f within (chain ++ [file]) content.toList = .ok out := by
  unfold replacement target
  dsimp only
  constructor
  · -- Each reason to refuse ends in a failure, so none of them applied.
    intro h
    split at h
    · nomatch h
    next file htarget =>
    split at htarget
    · nomatch htarget
    next hcanonical =>
    split at htarget
    · nomatch htarget
    next hnew =>
    split at htarget
    · nomatch htarget
    next hroom =>
    cases htarget
    split at h
    · nomatch h
    next content hread =>
    obtain ⟨within, hparent⟩ := exists_parent_of_readText hread
    rw [hparent] at h
    exact ⟨file, content, within, hcanonical, hnew, hroom, hread, hparent, h⟩
  · rintro ⟨file, content, within, hcanonical, hnew, hroom, hread, hparent, h⟩
    rw [hcanonical]
    dsimp only
    rw [if_neg hnew, if_neg hroom]
    dsimp only
    rw [hread, hparent]
    exact h

/-- A text is expanded if all its pieces are, and to what they are, joined. -/
theorem expand_eq_ok_iff {out : List Char} :
    expand tree room directory chain cs = .ok out ↔
      ∃ texts : List (List Char), (pieces directive cs).map
          (replacement tree room directory chain (deeper tree room)) = texts.map .ok ∧
        texts.flatten = out := by
  rw [expand_eq, map_eq_ok_iff]
  simp only [mapM_eq_ok_iff]

/-- So there is an expansion if each piece has one. -/
theorem exists_expand_iff_forall :
    (∃ out, expand tree room directory chain cs = .ok out) ↔
      ∀ p ∈ pieces directive cs, ∃ text,
        replacement tree room directory chain (deeper tree room) p = .ok text := by
  rw [← exists_mapM_eq_ok_iff, expand_eq]
  constructor
  · rintro ⟨out, h⟩
    obtain ⟨texts, htexts, -⟩ := map_eq_ok_iff.1 h
    exact ⟨texts, htexts⟩
  · rintro ⟨texts, htexts⟩
    exact ⟨texts.flatten, map_eq_ok_iff.2 ⟨texts, htexts, rfl⟩⟩

/-- The step of the induction: what holds one level deeper holds here. -/
theorem exists_expand_iff_of_deeper
    (hdeeper : ∀ fewer, room = fewer + 1 → ∀ directory chain cs,
      (∃ out, expand tree fewer directory chain cs = .ok out) ↔
        Admissible tree fewer directory chain cs) :
    (∃ out, expand tree room directory chain cs = .ok out) ↔
      Admissible tree room directory chain cs := by
  rw [exists_expand_iff_forall, admissible_iff]
  constructor
  · intro h m written hdirective
    obtain ⟨text, htext⟩ := h _ hdirective
    obtain ⟨file, content, within, htarget, hnew, hroom, hread, hparent, hinner⟩ :=
      replacement_token_eq_ok_iff.1 htext
    -- There was room, so the text of the file has been expanded with one less.
    obtain ⟨fewer, rfl⟩ := Nat.exists_eq_succ_of_ne_zero hroom
    exact ⟨file, content, within, fewer, htarget, hnew, rfl, hread, hparent,
      (hdeeper fewer rfl _ _ _).1 ⟨text, hinner⟩⟩
  · rintro h (c | ⟨m, written⟩) hp
    · exact ⟨[c], rfl⟩
    · obtain ⟨file, content, within, fewer, htarget, hnew, rfl, hread, hparent, hinner⟩ :=
        h m written hp
      obtain ⟨text, htext⟩ := (hdeeper fewer rfl _ _ _).2 hinner
      exact ⟨text, replacement_token_eq_ok_iff.2
        ⟨file, content, within, htarget, hnew, Nat.succ_ne_zero _, hread, hparent, htext⟩⟩

/-- Expanding a text succeeds exactly if every directive that would be replaced may be. -/
theorem exists_expand_iff :
    (∃ out, expand tree room directory chain cs = .ok out) ↔
      Admissible tree room directory chain cs := by
  induction room generalizing directory chain cs with
  | zero => exact exists_expand_iff_of_deeper nofun
  | succ room ih =>
    refine exists_expand_iff_of_deeper ?_
    rintro fewer ⟨⟩ directory chain cs
    exact ih

/-- The texts for the pieces, joined, are an inlining, if deeper expansions are. -/
theorem inlined_of_replacements
    (hdeeper : ∀ fewer, room = fewer + 1 → ∀ directory chain cs out,
      expand tree fewer directory chain cs = .ok out →
        Inlined tree directory (pieces directive cs) out)
    {ps : List (Piece (List Char))} {texts : List (List Char)}
    (h : ps.map (replacement tree room directory chain (deeper tree room)) = texts.map .ok) :
    Inlined tree directory ps texts.flatten := by
  induction ps generalizing texts with
  | nil =>
    obtain rfl := List.map_eq_nil_iff.1 h.symm
    exact .done directory
  | cons p ps ih =>
    cases texts with
    | nil => nomatch h
    | cons text texts =>
      obtain ⟨hfirst, hrest⟩ := List.cons.inj h
      rw [List.flatten_cons]
      cases p with
      | plain c =>
        cases hfirst
        exact .plain c (ih hrest)
      | token m written =>
        obtain ⟨file, content, within, htarget, -, hroom, hread, hparent, htext⟩ :=
          replacement_token_eq_ok_iff.1 hfirst
        obtain ⟨fewer, rfl⟩ := Nat.exists_eq_succ_of_ne_zero hroom
        exact .included htarget hread hparent (recognises_directive.cut_pieces _)
          (hdeeper fewer rfl _ _ _ _ htext) (ih hrest)

/-- What an expanded text is. -/
theorem inlined_of_expand {out : List Char} (h : expand tree room directory chain cs = .ok out) :
    Inlined tree directory (pieces directive cs) out := by
  induction room generalizing directory chain cs out with
  | zero =>
    obtain ⟨texts, htexts, rfl⟩ := expand_eq_ok_iff.1 h
    have hdeeper : ∀ fewer, 0 ≠ fewer + 1 := fun fewer => (Nat.succ_ne_zero fewer).symm
    exact inlined_of_replacements (fun fewer hroom => absurd hroom (hdeeper fewer)) htexts
  | succ room ih =>
    obtain ⟨texts, htexts, rfl⟩ := expand_eq_ok_iff.1 h
    refine inlined_of_replacements ?_ htexts
    rintro fewer ⟨⟩ directory chain cs out hinner
    exact ih hinner

/-- There is one inlining of a text. The induction is on how it is built. -/
theorem Inlined.unique {ps : List (Piece (List Char))} {out other : List Char}
    (h : Inlined tree directory ps out) (hother : Inlined tree directory ps other) :
    out = other := by
  induction h generalizing other with
  | done =>
    cases hother
    rfl
  | plain c _ ih =>
    cases hother with
    | plain _ hrest => rw [ih hrest]
  | included htarget hread hparent hcut _ _ ihtext ihrest =>
    cases hother with
    | included htarget' hread' hparent' hcut' htext hrest =>
      rw [htarget] at htarget'
      cases htarget'
      rw [hread] at hread'
      cases hread'
      rw [hparent] at hparent'
      cases hparent'
      rw [recognises_directive.cut_iff] at hcut hcut'
      obtain rfl := hcut.symm.trans hcut'
      rw [ihtext htext, ihrest hrest]

/-- A directive in front of a text and the text itself are expanded apart from each other. -/
theorem expand_append {m written first rest : List Char} (hdirective : IsDirective m written)
    (hfirst : expand tree room directory chain m = .ok first)
    (hrest : expand tree room directory chain cs = .ok rest) :
    expand tree room directory chain (m ++ cs) = .ok (first ++ rest) := by
  have hpieces : pieces directive (m ++ cs) = pieces directive m ++ pieces directive cs := by
    have hsingle := recognises_directive.pieces_append hdirective []
    rw [List.append_nil] at hsingle
    rw [recognises_directive.pieces_append hdirective, hsingle]
    rfl
  obtain ⟨texts, htexts, rfl⟩ := expand_eq_ok_iff.1 hfirst
  obtain ⟨more, hmore, rfl⟩ := expand_eq_ok_iff.1 hrest
  refine expand_eq_ok_iff.2 ⟨texts ++ more, ?_, List.flatten_append⟩
  rw [hpieces, List.map_append, List.map_append, htexts, hmore]

/-- The stage expands the source from the directory of the template, with the template on the chain.
-/
theorem run_stage_eq_ok_iff {project : Project} {template : Template} {source out : String} :
    stage.run tree project template source = .ok out ↔
      expand tree depthLimit (project.directoryOf template) (start tree project template)
        source.toList = .ok out.toList := by
  rw [run_stage, uncrashed_eq_ok_iff, map_eq_ok_iff]
  constructor
  · rintro ⟨text, htext, rfl⟩
    rw [htext, String.toList_ofList]
  · intro h
    exact ⟨out.toList, h, String.ofList_toList⟩

/-- Including succeeds exactly if every directive on every way from the source names a file that can
be read, that is not on the way and not the template itself, and that is not deeper than the limit.
What comes out is the source with each directive replaced by what becomes of its file. A directive
stands for the same text whatever is included next to it. -/
theorem run_inlines (tree : FileTree) (project : Project) (template : Template) (source : String) :
    ((∃ out, stage.run tree project template source = .ok out) ↔
        Admissible tree depthLimit (project.directoryOf template) (start tree project template)
          source.toList) ∧
      (∀ out, stage.run tree project template source = .ok out →
        ∃ ps, Cut IsDirective source.toList ps ∧
          Inlined tree (project.directoryOf template) ps out.toList ∧
          ∀ other, Inlined tree (project.directoryOf template) ps other → other = out.toList) ∧
      ∀ m written, IsDirective m written → ∀ first out,
        stage.run tree project template (String.ofList m) = .ok first →
          stage.run tree project template source = .ok out →
            stage.run tree project template (String.ofList m ++ source) = .ok (first ++ out) := by
  refine ⟨?_, fun out h => ?_, fun m written hdirective first out hfirst hout => ?_⟩
  · rw [← exists_expand_iff]
    constructor
    · rintro ⟨out, h⟩
      exact ⟨out.toList, run_stage_eq_ok_iff.1 h⟩
    · rintro ⟨out, h⟩
      exact ⟨String.ofList out, run_stage_eq_ok_iff.2 (by rw [h, String.toList_ofList])⟩
  · have hinlined := inlined_of_expand (run_stage_eq_ok_iff.1 h)
    exact ⟨_, recognises_directive.cut_pieces _, hinlined, fun _ hother => hother.unique hinlined⟩
  · rw [run_stage_eq_ok_iff] at hfirst hout ⊢
    rw [String.toList_append, String.toList_append, String.toList_ofList] at *
    exact expand_append hdirective hfirst hout

/-- A file that is included twice is no cycle. -/
example : (stage.run ⟨[(["p"], .directory), (["p", "x"], .file "X".toUTF8 false)]⟩
    ⟨.prod, ⟨"/p"⟩, ⟨none, none, []⟩, none, [], []⟩ ⟨"t", "t", "t", none, none, []⟩
    "<mj-include path=\"x\" />, <mj-include path=\"x\" />").toOption = some "X, X" := by
  decide +kernel

end MailTemplates.Include
