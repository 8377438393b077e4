import MailTemplates.Proofs.Stage.BlockTag
/-!
# What is wrapped and what is not

Deferring should wrap the block tags of a text and leave everything else as it is (`kept`). What it
wraps, from left to right, are the texts that it takes for block tags. These are not always the
same: a block tag may have a closing brace in a string, another tag may start like a block tag, and
in a comment or a string there may be something that looks like one. Nothing else can go wrong
(`Fits`), and whatever goes wrong shows in the result (`defer_eq_iff`): a `<` stands where a `{`
should be, or the marker that closes stands in front of a brace that it should be behind.

What is compared are two texts that are made of one source from left to right: the one that
deferring makes, and the one that it should make. They are equal exactly if they agree part by part,
and this is not obvious, as two differences might cancel. They do not, because a part that is taken
for something else differs at its first character or where its marker ends (`defer_append_eq_iff`,
`defer_append_eq_wrapped_iff`), and all that is behind it is compared from the same place on. So the
induction is on the parts of the source, with the rest of the text as it is read from there.

Main statement: `run_defer_wraps_marked`.
-/

namespace MailTemplates.RawMarker

open Handlebars (IsMustache Mustache UpTo existsUnique_reading)
open Text (Cut Piece pieces)

/-- What should come of a part of a text: a block tag between markers, all else as it is. -/
def kept : Piece Mustache → List Char
  | .plain c => [c]
  | .token m .block => opening ++ m ++ closing
  | .token m _ => m

/-- Whether deferring takes a part of a text, with this behind it, for what it is: a block tag with
no closing brace before its last two, another tag with nothing in it that would be wrapped, or a
character at which nothing starts that would be. -/
def Fits : Piece Mustache → List Char → Prop
  | .plain c, behind => ∀ p, IsMarked p → ¬p <+: c :: behind
  | .token m .block, _ => ∃ inner, m = inner ++ ['}', '}'] ∧ '}' ∉ inner
  | .token m _, _ => ∀ p, IsMarked p → ¬p <:+: m

/-!
## Deferring from the front

One step of the pass: a tag is wrapped, or a character is kept. What a part of the text becomes
depends on what is behind it, as a tag may reach out of the part.
-/

section Front

variable {c : Char} {cs inner m p rest xs : List Char}

/-- A marked tag is wrapped, and the pass goes on behind it. -/
theorem defer_append (h : IsMarked m) (cs : List Char) :
    defer (m ++ cs) = opening ++ m ++ closing ++ defer cs := by
  unfold defer
  rw [recognises_blockTag.pieces_append (a := ()) h]
  rfl

/-- A character at which no marked tag begins is kept. -/
theorem defer_cons (h : ∀ p, IsMarked p → ¬p <+: c :: cs) : defer (c :: cs) = c :: defer cs := by
  unfold defer
  rw [recognises_blockTag.pieces_cons fun m _ => h m]
  rfl

/-- A marked tag begins with a brace. -/
theorem IsMarked.exists_cons (h : IsMarked p) : ∃ tail, p = '{' :: tail := by
  obtain ⟨inner, rfl, -, -⟩ := h
  exact ⟨_, rfl⟩

/-- Where a tag is wrapped, a marker comes first. -/
theorem exists_defer_eq_cons (h : IsMarked p) (hbegin : p <+: cs) :
    ∃ tail, defer cs = '<' :: tail := by
  obtain ⟨behind, rfl⟩ := hbegin
  rw [defer_append h]
  exact ⟨_, rfl⟩

/-- What would be wrapped ends at the first two closing braces at the latest. -/
theorem IsMarked.prefix_append (h : IsMarked p) (hbegin : p <+: xs ++ '}' :: '}' :: cs) :
    p <+: xs ++ ['}', '}'] := by
  obtain ⟨inner, rfl, hbrace, -⟩ := h
  have hwhole : xs ++ ['}', '}'] <+: xs ++ '}' :: '}' :: cs :=
    (List.prefix_append_right_inj xs).2 ⟨cs, rfl⟩
  have hopen : '{' :: '{' :: inner <+: xs ++ '}' :: '}' :: cs :=
    (List.prefix_append ('{' :: '{' :: inner) ['}', '}']).trans hbegin
  have hclose : xs ++ ['}'] <+: xs ++ '}' :: '}' :: cs :=
    (List.prefix_append_right_inj xs).2 ⟨'}' :: cs, rfl⟩
  refine List.prefix_of_prefix_length_le hbegin hwhole ?_
  by_contra hlonger
  -- Else the first of the two braces would stand inside.
  have hinside : xs ++ ['}'] <+: '{' :: '{' :: inner := by
    refine List.prefix_of_prefix_length_le hclose hopen ?_
    simp only [List.length_cons, List.length_append, List.length_nil] at hlonger ⊢
    omega
  have hmem := hinside.subset (List.mem_append_right xs List.mem_cons_self)
  exact hbrace (by simpa using hmem)

/-- Whether nothing that would be wrapped starts in a part of a text with this behind it. -/
def Passes (s cs : List Char) : Prop :=
  ∀ v, v <:+ s → v ≠ [] → ∀ p, IsMarked p → ¬p <+: v ++ cs

/-- Text is passed character by character. -/
theorem passes_cons {s : List Char} :
    Passes (c :: s) cs ↔ (∀ p, IsMarked p → ¬p <+: c :: (s ++ cs)) ∧ Passes s cs := by
  constructor
  · intro h
    exact ⟨h _ List.suffix_rfl (List.cons_ne_nil _ _),
      fun v hv => h v (hv.trans (List.suffix_cons _ _))⟩
  · rintro ⟨hfirst, hrest⟩ v hv
    rcases List.suffix_cons_iff.1 hv with rfl | hv
    · exact fun _ => hfirst
    · exact hrest v hv

/-- A part is left as it is exactly if nothing that would be wrapped starts in it. -/
theorem defer_append_eq_iff {s : List Char} :
    defer (s ++ cs) = s ++ rest ↔ Passes s cs ∧ defer cs = rest := by
  induction s with
  | nil =>
    refine ⟨fun h => ⟨fun v hv hne => absurd (List.suffix_nil.1 hv) hne, h⟩, fun h => h.2⟩
  | cons c s ih =>
    rw [passes_cons]
    by_cases hmarked : ∃ p, IsMarked p ∧ p <+: c :: (s ++ cs)
    · obtain ⟨p, hp, hbegin⟩ := hmarked
      constructor
      · intro h
        obtain ⟨tail, htail⟩ := exists_defer_eq_cons hp hbegin
        obtain ⟨body, rfl⟩ := hp.exists_cons
        rw [List.cons_append, htail] at h
        cases h
        nomatch (List.cons_prefix_cons.1 hbegin).1
      · exact fun h => absurd hbegin (h.1.1 p hp)
    · have hnone : ∀ p, IsMarked p → ¬p <+: c :: (s ++ cs) := fun p hp hbegin =>
        hmarked ⟨p, hp, hbegin⟩
      rw [List.cons_append, defer_cons hnone, List.cons_append, List.cons.injEq, ih,
        and_iff_right rfl, and_iff_right hnone]

/-- Of a text that ends in two closing braces nothing that would be wrapped reaches out. -/
theorem passes_iff (hm : m = '{' :: (inner ++ ['}', '}'])) (cs : List Char) :
    Passes m cs ↔ ∀ p, IsMarked p → ¬p <:+: m := by
  constructor
  · rintro h p hp ⟨front, behind, hinfix⟩
    rw [List.append_assoc] at hinfix
    obtain ⟨tail, rfl⟩ := hp.exists_cons
    refine h _ ⟨front, hinfix⟩ nofun _ hp ?_
    rw [List.append_assoc]
    exact List.prefix_append _ _
  · rintro h v hv hne p hp hbegin
    obtain ⟨tail, rfl⟩ := hp.exists_cons
    obtain ⟨front, hfront⟩ := hv
    rw [hm, ← List.cons_append] at hfront
    rcases List.append_eq_append_iff.1 hfront with ⟨xs, hxs, rfl⟩ | ⟨ys, -, hys⟩
    · rw [List.append_assoc] at hbegin
      refine h _ hp ((hp.prefix_append hbegin).isInfix.trans ⟨front, [], ?_⟩)
      rw [List.append_nil, hm, ← List.cons_append, ← hfront]
    · -- No more than a brace or two is left, and those do not open anything.
      obtain ⟨d, v, rfl⟩ := List.exists_cons_of_ne_nil hne
      obtain ⟨rfl, -⟩ := List.cons_prefix_cons.1 hbegin
      have hmem : '{' ∈ ['}', '}'] := by
        rw [hys]
        exact List.mem_append_right _ List.mem_cons_self
      exact absurd hmem (by decide)

/-- The closing marker is passed: no tag begins in it. -/
theorem passes_closing (cs : List Char) : Passes closing cs := by
  rintro v hv hne p hp hbegin
  obtain ⟨tail, rfl⟩ := hp.exists_cons
  obtain ⟨d, v, rfl⟩ := List.exists_cons_of_ne_nil hne
  obtain ⟨rfl, -⟩ := List.cons_prefix_cons.1 hbegin
  exact absurd (hv.subset List.mem_cons_self) (by decide)

/-- The marker that closes is in front of what comes behind it, a brace among that. -/
theorem closing_append_defer_ne (xs cs rest : List Char) :
    closing ++ defer (xs ++ '}' :: cs) ≠ xs ++ '}' :: rest := by
  induction hlength : xs.length using Nat.strongRecOn generalizing xs with
  | ind n ih =>
    intro h
    -- The marker is at the front of `xs`, and is there again behind it.
    have hagain : ∀ ys, xs = closing ++ ys → defer (xs ++ '}' :: cs) ≠ ys ++ '}' :: rest := by
      rintro ys rfl hdefer
      have hkept := defer_append_eq_iff.2 ⟨passes_closing (ys ++ '}' :: cs), rfl⟩
      rw [List.append_assoc, hkept] at hdefer
      have hshorter : ys.length < n := by
        rw [← hlength, List.length_append]
        exact Nat.lt_add_of_pos_left (by decide)
      exact ih _ hshorter ys rfl hdefer
    rcases List.append_eq_append_iff.1 h with ⟨ys, hxs, hdefer⟩ | ⟨ys, hclosing, hrest⟩
    · exact hagain ys hxs hdefer
    · cases ys with
      | nil => exact hagain [] (by simpa using hclosing.symm) hrest.symm
      | cons y ys =>
        obtain ⟨rfl, -⟩ := List.cons.inj hrest
        have hmem : '}' ∈ closing := hclosing ▸ List.mem_append_right xs List.mem_cons_self
        exact absurd hmem (by decide)

/-- A text between braces is wrapped exactly if it is what is looked for. -/
theorem defer_append_eq_wrapped_iff (hm : m = '{' :: (inner ++ ['}', '}'])) :
    defer (m ++ cs) = opening ++ m ++ closing ++ rest ↔ IsMarked m ∧ defer cs = rest := by
  constructor
  · intro h
    by_cases hmarked : ∃ p, IsMarked p ∧ p <+: m ++ cs
    · obtain ⟨p, hp, hbegin⟩ := hmarked
      have hcs : m ++ cs = '{' :: inner ++ '}' :: '}' :: cs := by simp [hm]
      have hshort : p <+: m := by
        rw [hm]
        exact hp.prefix_append (hcs ▸ hbegin)
      obtain ⟨xs, rfl⟩ := hshort
      rw [List.append_assoc, defer_append hp] at h
      rcases List.eq_nil_or_concat xs with rfl | ⟨xs, d, rfl⟩
      · simp only [List.append_nil, List.nil_append, List.append_cancel_left_eq] at h ⊢
        exact ⟨hp, h⟩
      · -- What is left of the tag ends in a brace.
        rw [List.concat_eq_append] at h hm
        have hends : p ++ xs ++ [d] = '{' :: (inner ++ ['}']) ++ ['}'] := by simpa using hm
        obtain rfl : d = '}' := List.singleton_inj.1 (List.append_inj' hends rfl).2
        simp only [List.append_assoc, List.append_cancel_left_eq] at h
        exact absurd h (closing_append_defer_ne xs cs _)
    · rw [hm, List.cons_append, defer_cons fun p hp hbegin =>
        hmarked ⟨p, hp, by rw [hm]; exact hbegin⟩] at h
      nomatch h
  · rintro ⟨hmarked, rfl⟩
    exact defer_append hmarked cs

end Front

/-!
## The whole text

The parts of a text are its tags and the characters between them, and each of them is asked whether
it fits, with all that is behind it.
-/

/-- Of the block tags those are marked that have no brace before their last two. -/
theorem isMarked_iff {m : List Char} (h : IsMustache m .block) :
    IsMarked m ↔ ∃ inner, m = inner ++ ['}', '}'] ∧ '}' ∉ inner := by
  obtain ⟨inner, rfl, hkind⟩ := h.exists_eq
  have hstarts : startsBlock (Mustache.lead inner) = true := by
    have hopens := Mustache.opensBlock_of_eq_block hkind
    rw [Mustache.opensBlock, Bool.or_eq_true, Bool.and_eq_true] at hopens
    rw [startsBlock, Bool.or_eq_true]
    exact hopens.imp_right And.left
  constructor
  · rintro ⟨inner', heq, hbrace, -⟩
    exact ⟨'{' :: '{' :: inner', heq, by simpa using hbrace⟩
  · rintro ⟨front, heq, hbrace⟩
    obtain rfl : '{' :: '{' :: inner = front := List.append_cancel_right heq
    exact ⟨inner, rfl, by simpa using hbrace, hstarts⟩

/-- What holds at every point of a list holds at its front and at every point of the rest. -/
theorem forall_parts_cons {α : Type} {x : α} {xs : List α} {P : α → List α → Prop} :
    (∀ before a after, x :: xs = before ++ a :: after → P a after) ↔
      P x xs ∧ ∀ before a after, xs = before ++ a :: after → P a after := by
  constructor
  · intro h
    exact ⟨h [] x xs rfl, fun before a after hxs => h (x :: before) a after (by rw [hxs]; rfl)⟩
  · rintro ⟨hfirst, hrest⟩ before a after h
    cases before with
    | nil =>
      cases h
      exact hfirst
    | cons _ before =>
      cases h
      exact hrest before a after rfl

/-- A plain character is kept if it fits, and then the rest counts. -/
theorem defer_plain_eq_iff {c : Char} {cs rest : List Char} :
    defer (c :: cs) = c :: rest ↔ Fits (.plain c) cs ∧ defer cs = rest := by
  have hone : defer ([c] ++ cs) = [c] ++ rest ↔ Passes [c] cs ∧ defer cs = rest :=
    defer_append_eq_iff
  have hnil : Passes [] cs := fun v hv hne => absurd (List.suffix_nil.1 hv) hne
  rwa [passes_cons, and_iff_left hnil] at hone

/-- So it is with a tag as a whole. -/
theorem defer_tag_eq_iff {m cs rest : List Char} {kind : Mustache} (h : IsMustache m kind) :
    defer (m ++ cs) = kept (.token m kind) ++ rest ↔
      Fits (.token m kind) cs ∧ defer cs = rest := by
  obtain ⟨inner, hm, -⟩ := h.exists_eq
  have hends : m = '{' :: ('{' :: inner ++ ['}', '}']) := hm
  cases kind with
  | block =>
    show _ ↔ (∃ inner, m = inner ++ ['}', '}'] ∧ '}' ∉ inner) ∧ _
    rw [← isMarked_iff h]
    exact defer_append_eq_wrapped_iff hends
  | _ =>
    show _ ↔ (∀ p, IsMarked p → ¬p <:+: m) ∧ _
    rw [← passes_iff hends cs]
    exact defer_append_eq_iff

/-- The result is what it should be exactly if every part of the text is taken for what it is. -/
theorem defer_eq_iff {cs : List Char} {tags : List (Piece Mustache)} (h : Cut IsMustache cs tags) :
    defer cs = tags.flatMap kept ↔ ∀ before part after, tags = before ++ part :: after →
      Fits part (after.flatMap Piece.source) := by
  induction h with
  | done => exact ⟨fun _ before _ _ hparts => absurd hparts (by simp), fun _ => rfl⟩
  | plain _ hrest ih =>
    rw [forall_parts_cons (P := fun part after => Fits part (after.flatMap Piece.source)), ← ih,
      hrest.flatMap_source]
    exact defer_plain_eq_iff
  | token hmatch hrest ih =>
    rw [forall_parts_cons (P := fun part after => Fits part (after.flatMap Piece.source)), ← ih,
      hrest.flatMap_source]
    exact defer_tag_eq_iff hmatch

/-- What is wrapped are the leftmost texts that are looked for, each one whole and once, and nothing
else changes. The tags of a source, which are read in one way, are treated as they should be exactly
if each of them, and the text between them, is taken for what it is. -/
theorem run_defer_wraps_marked (tree : FileTree) (project : Project) (template : Template)
    (source : String) :
    ∃ out, deferStage.run tree project template source = .ok out ∧
      (∃ parts : List (Piece Unit),
        (∀ ps, Cut (fun m _ => IsMarked m) source.toList ps ↔ ps = parts) ∧
        out.toList = parts.flatMap wrapped) ∧
      ∃ tags, (∀ ps, Cut IsMustache source.toList ps ↔ ps = tags) ∧
        (out.toList = tags.flatMap kept ↔ ∀ before part after, tags = before ++ part :: after →
          Fits part (after.flatMap Piece.source)) := by
  refine ⟨String.ofList (defer source.toList), rfl, ?_, ?_⟩
  · exact ⟨pieces blockTag source.toList, fun ps => recognises_blockTag.cut_iff.trans eq_comm,
      String.toList_ofList⟩
  · obtain ⟨tags, htags⟩ := existsUnique_reading source.toList
    refine ⟨tags, htags, ?_⟩
    rw [String.toList_ofList]
    exact defer_eq_iff ((htags tags).2 rfl)

/-- A block tag with a brace in a string is not wrapped. A value whose name begins with `else` and a
dash is, and so is what looks like a block tag in a comment. -/
theorem defer_mistakes_tags :
    let project : Project := ⟨.prod, ⟨"/p"⟩, ⟨none, none, []⟩, none, [], []⟩
    let note : Template := ⟨"n", "note", "note", none, none, []⟩
    let run := deferStage.run .empty project note
    let quoting := "\x7b\x7b#if (eq sep \"\x7d\")\x7d\x7d"
    let dashed := "\x7b\x7belse-price\x7d\x7d"
    let comment := "\x7b\x7b!-- \x7b\x7b#if vip\x7d\x7d --\x7d\x7d"
    (IsMustache quoting.toList .block ∧ run quoting = .ok quoting) ∧
      (IsMustache dashed.toList .value ∧ run dashed = .ok ("<mj-raw>" ++ dashed ++ "</mj-raw>")) ∧
      IsMustache comment.toList .longComment ∧ run comment =
        .ok "\x7b\x7b!-- <mj-raw>\x7b\x7b#if vip\x7d\x7d</mj-raw> --\x7d\x7d" := by
  intro project note run quoting dashed comment
  refine ⟨⟨?_, ?_⟩, ⟨?_, ?_⟩, ?_, ?_⟩
  · have hstring : UpTo ['"', '\''] [['}', '}']] none
        ("#if (eq sep ".toList ++ '"' :: '}' :: '"' :: (")".toList ++ ['}', '}'])) := by
      refine .append (by decide) (by decide) (.opened (by decide) ?_)
      refine .quoted (by decide) (by decide) (.unquoted ?_)
      exact .append (by decide) (by decide) (.closed (by decide))
    exact ⟨_, by decide, by decide, hstring⟩
  · exact congrArg Except.ok (by decide +kernel)
  · have hvalue : UpTo ['"', '\''] [['}', '}']] none ("else-price".toList ++ ['}', '}']) :=
      .append (by decide) (by decide) (.closed (by decide))
    exact ⟨_, by decide, by decide, hvalue⟩
  · exact congrArg Except.ok (by decide +kernel)
  · have hcomment : UpTo [] [['-', '-', '}', '}'], ['-', '-', '~', '}', '}']] none
        ("!-- \x7b\x7b#if vip\x7d\x7d ".toList ++ ['-', '-', '}', '}']) :=
      .append (by decide) (by decide) (.closed (by decide))
    exact ⟨_, by decide, by decide, hcomment⟩
  · exact congrArg Except.ok (by decide +kernel)

end MailTemplates.RawMarker
