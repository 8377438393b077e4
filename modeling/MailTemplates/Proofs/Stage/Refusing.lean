import Mathlib.Data.Set.Finite.Lattice
import MailTemplates.Proofs.Project.Searching
import MailTemplates.Proofs.Stage.Including
/-!
# Where including stops

The directives of a text and of the files that it includes form a tree. An address leads to each of
them: the number of a piece of the text, that of a piece of the file which is named there, and so on
(`DirectiveAt`). Addresses are in lexicographic order, so a directive comes before those in its
file, and these before the directives that follow it (`Before`).

A directive is refused for the first of four reasons that there is (`Refusal`): its path leads
nowhere, its file is on the way already, there is no room for one more, or the file is no text.
Including stops at the first directive that is refused, and with its reason (`expand_eq_error_iff`).
The induction is on the room: what is in front of the directive where including stops has been
expanded, so nothing there is refused (`exists_expand_iff_not_refusal`).

A tree without an end is stopped by the files on the way or by the room, because a text has only so
many directives: with a bound on the length of the addresses there is an end to them
(`finite_of_length_le`).

The crux is `firstRefusal_of_expand_of_deeper`. Where an expansion fails there is a first piece that
is not replaced, and what stands in front of it has been. A piece that has been replaced has no
refusal at it nor in its file, by the characterisation of success in the module on including; so
every refusal has an address that starts at this piece or behind it. Either this piece is refused
itself, and then its address is the least one, or the text of its file fails, and then the
hypothesis on the smaller room gives the rest of the address.

That the first refusal is unique is no matter of the code: addresses are in one order, one directive
stands at each, and one reason applies to each.

Main statement: `run_stops_at_first`.
-/

namespace MailTemplates.Include

open Text (Piece Cut pieces)

/-!
## The directives of a tree

The tree may be without an end, so its directives are given as an inductive relation, and not
listed.
-/

/-- The directive at an address in the tree of a text: the files that lead to it, the directory of
the last one, in which it stands, and the path that is written in it. The address says which piece
of which text it is, so that one directive may be there at several addresses, if its file is
included more than once. -/
inductive DirectiveAt (tree : FileTree) :
    Path → List Char → List Nat → List Path → Path → List Char → Prop where
  | here {directory : Path} {cs m written : List Char} {ps : List (Piece (List Char))} {i : Nat}
      (hcut : Cut IsDirective cs ps) (hdirective : ps[i]? = some (.token m written)) :
      DirectiveAt tree directory cs [i] [] directory written
  | into {directory file within last : Path} {cs m written inner : List Char}
      {ps : List (Piece (List Char))} {i : Nat} {content : String} {address : List Nat}
      {files : List Path} (hcut : Cut IsDirective cs ps)
      (hdirective : ps[i]? = some (.token m written))
      (htarget : tree.canonical (directory.join ⟨String.ofList written⟩) = .ok file)
      (hread : tree.readText file = .ok content) (hparent : file.parent = some within)
      (hinner : DirectiveAt tree within content.toList address files last inner) :
      DirectiveAt tree directory cs (i :: address) (file :: files) last inner

/-- Whether an address is in front of another one, from left to right and a directive before those
in its file. This is the order in which a reader comes to the directives who reads each included
file where it is included. -/
def Before (earlier later : List Nat) : Prop := List.Lex (fun i j : Nat => i < j) earlier later

/-- Of two addresses one is before the other, or they are the same. -/
theorem before_trichotomy (a b : List Nat) : Before a b ∨ a = b ∨ Before b a := by
  induction a generalizing b with
  | nil =>
    cases b with
    | nil => exact .inr (.inl rfl)
    | cons j b => exact .inl .nil
  | cons i a ih =>
    cases b with
    | nil => exact .inr (.inr .nil)
    | cons j b =>
      rcases Nat.lt_trichotomy i j with hlt | rfl | hgt
      · exact .inl (.rel hlt)
      · rcases ih b with hbefore | rfl | hbehind
        · exact .inl (.cons hbefore)
        · exact .inr (.inl rfl)
        · exact .inr (.inr (.cons hbehind))
      · exact .inr (.inr (.rel hgt))

/-- Why a directive is not replaced, given the files on the way to it and the room that there is.
Each reason counts only if the ones before it do not hold. -/
inductive Refusal (tree : FileTree) (room : Nat) (chain : List Path) (directory : Path)
    (written : List Char) : Failure → Prop where
  | unresolvable {problem : FileProblem}
      (htarget : tree.canonical (directory.join ⟨String.ofList written⟩) = .error problem) :
      Refusal tree room chain directory written
        (.inclusion (.unresolvable (String.ofList written) directory problem))
  | cycle {file : Path}
      (htarget : tree.canonical (directory.join ⟨String.ofList written⟩) = .ok file)
      (hmem : file ∈ chain) :
      Refusal tree room chain directory written (.inclusion (.cycle chain file))
  | tooDeep {file : Path}
      (htarget : tree.canonical (directory.join ⟨String.ofList written⟩) = .ok file)
      (hnew : file ∉ chain) (hroom : room = 0) :
      Refusal tree room chain directory written (.inclusion (.tooDeep depthLimit file))
  | unreadable {file : Path} {problem : FileProblem}
      (htarget : tree.canonical (directory.join ⟨String.ofList written⟩) = .ok file)
      (hnew : file ∉ chain) (hroom : room ≠ 0) (hread : tree.readText file = .error problem) :
      Refusal tree room chain directory written (.io problem)

/-- Whether a failure is the reason why the first of all directives that are refused is. Directives
behind it may be refused as well, for other reasons; nothing is said of them. -/
def FirstRefusal (tree : FileTree) (room : Nat) (directory : Path) (chain : List Path)
    (cs : List Char) (problem : Failure) : Prop :=
  ∃ address files last written, DirectiveAt tree directory cs address files last written ∧
    Refusal tree (room - files.length) (chain ++ files) last written problem ∧
    ∀ earlier others within path, Before earlier address →
      DirectiveAt tree directory cs earlier others within path →
        ∀ other, ¬Refusal tree (room - others.length) (chain ++ others) within path other

variable {tree : FileTree} {room : Nat} {directory last : Path} {chain files : List Path}
  {cs written : List Char} {address : List Nat}

/-- A directive is not replaced if it is refused, or if the text of its file is not. -/
theorem replacement_token_eq_error_iff
    {f : Path → List Path → List Char → Except Failure (List Char)} {m : List Char}
    {problem : Failure} :
    replacement tree room directory chain f (.token m written) = .error problem ↔
      Refusal tree room chain directory written problem ∨
        ∃ file content within, tree.canonical (directory.join ⟨String.ofList written⟩) = .ok file ∧
          file ∉ chain ∧ room ≠ 0 ∧ tree.readText file = .ok content ∧
          file.parent = some within ∧
          f within (chain ++ [file]) content.toList = .error problem := by
  unfold replacement target
  dsimp only
  constructor
  · -- The four reasons, in the order in which the code looks for them; behind them only the text of
    -- the file can fail.
    intro h
    split at h
    · next reason htarget =>
      cases h
      left
      split at htarget
      · next hcanonical =>
        cases htarget
        exact .unresolvable hcanonical
      next file hcanonical =>
      split at htarget
      · next hmem =>
        cases htarget
        exact .cycle hcanonical hmem
      next hnew =>
      split at htarget
      · next hroom =>
        cases htarget
        exact .tooDeep hcanonical hnew hroom
      · nomatch htarget
    next file htarget =>
    split at htarget
    · nomatch htarget
    next hcanonical =>
    split at htarget
    · nomatch htarget
    next hnew =>
    split at htarget
    · nomatch htarget
    next hroom =>
    cases htarget
    split at h
    · next reason hread =>
      cases h
      exact .inl (.unreadable hcanonical hnew hroom hread)
    next content hread =>
    -- Nothing is wrong with the directive itself, so the failure comes from the text of its file.
    obtain ⟨within, hparent⟩ := exists_parent_of_readText hread
    rw [hparent] at h
    exact .inr ⟨file, content, within, hcanonical, hnew, hroom, hread, hparent, h⟩
  · rintro (hrefusal | ⟨file, content, within, hcanonical, hnew, hroom, hread, hparent, h⟩)
    · cases hrefusal with
      | unresolvable hcanonical => rw [hcanonical]
      | cycle hcanonical hmem =>
        rw [hcanonical]
        dsimp only
        rw [if_pos hmem]
      | tooDeep hcanonical hnew hroom =>
        rw [hcanonical]
        dsimp only
        rw [if_neg hnew, if_pos hroom]
      | unreadable hcanonical hnew hroom hread =>
        rw [hcanonical]
        dsimp only
        rw [if_neg hnew, if_neg hroom]
        dsimp only
        rw [hread]
    · rw [hcanonical]
      dsimp only
      rw [if_neg hnew, if_neg hroom]
      dsimp only
      rw [hread, hparent]
      exact h

/-- A directive is refused for one reason. -/
theorem Refusal.unique {problem other : Failure}
    (h : Refusal tree room chain directory written problem)
    (hother : Refusal tree room chain directory written other) : problem = other := by
  have hproblem : ∀ {reason}, Refusal tree room chain directory written reason →
      replacement tree room directory chain (fun _ _ cs => .ok cs) (.token [] written) =
        .error reason :=
    fun hreason => replacement_token_eq_error_iff.2 (.inl hreason)
  exact Except.error.inj ((hproblem h).symm.trans (hproblem hother))

/-- A directive is not refused if its file can be read, is new on the way, and there is room. -/
theorem not_refusal_iff :
    (∀ problem, ¬Refusal tree room chain directory written problem) ↔
      ∃ file content, tree.canonical (directory.join ⟨String.ofList written⟩) = .ok file ∧
        file ∉ chain ∧ room ≠ 0 ∧ tree.readText file = .ok content := by
  constructor
  · intro h
    cases htarget : tree.canonical (directory.join ⟨String.ofList written⟩) with
    | error problem => exact absurd (.unresolvable htarget) (h _)
    | ok file =>
      have hnew : file ∉ chain := fun hmem => h _ (.cycle htarget hmem)
      have hroom : room ≠ 0 := fun hzero => h _ (.tooDeep htarget hnew hzero)
      cases hread : tree.readText file with
      | error problem => exact absurd (.unreadable htarget hnew hroom hread) (h _)
      | ok content => exact ⟨file, content, rfl, hnew, hroom, hread⟩
  · rintro ⟨file, content, htarget, hnew, hroom, hread⟩ problem hrefusal
    cases hrefusal with
    | unresolvable htarget' => nomatch htarget.symm.trans htarget'
    | cycle htarget' hmem =>
      cases htarget.symm.trans htarget'
      exact hnew hmem
    | tooDeep _ _ hzero => exact hroom hzero
    | unreadable htarget' _ _ hread' =>
      cases htarget.symm.trans htarget'
      nomatch hread.symm.trans hread'

/-!
## Addresses

An address determines its directive, and an address that begins with the number of a directive goes
on in the file of that one.
-/

/-- An address is one longer than the way of files to it. -/
theorem DirectiveAt.length_eq (h : DirectiveAt tree directory cs address files last written) :
    address.length = files.length + 1 := by
  induction h with
  | here => rfl
  | into _ _ _ _ _ _ ih => rw [List.length_cons, List.length_cons, ih]

/-- An address begins with the number of a directive of the text. -/
theorem DirectiveAt.exists_token {i : Nat}
    (h : DirectiveAt tree directory cs (i :: address) files last written) :
    ∃ m path, (pieces directive cs)[i]? = some (.token m path) := by
  cases h with
  | here hcut hdirective => exact ⟨_, _, by rwa [recognises_directive.cut_iff.1 hcut]⟩
  | into hcut hdirective => exact ⟨_, _, by rwa [recognises_directive.cut_iff.1 hcut]⟩

/-- An address that begins with a directive is that of the directive, or goes on in its file. This
is the inversion that the proofs below use: the first number decides between the pieces of the text,
the rest of the address is one in the text of a file. -/
theorem DirectiveAt.here_or_into {i : Nat} {m path : List Char}
    (hpiece : (pieces directive cs)[i]? = some (.token m path))
    (h : DirectiveAt tree directory cs (i :: address) files last written) :
    (address = [] ∧ files = [] ∧ last = directory ∧ written = path) ∨
      ∃ file content within others, files = file :: others ∧
        tree.canonical (directory.join ⟨String.ofList path⟩) = .ok file ∧
        tree.readText file = .ok content ∧ file.parent = some within ∧
        DirectiveAt tree within content.toList address others last written := by
  cases h with
  | here hcut hdirective =>
    obtain rfl := recognises_directive.cut_iff.1 hcut
    cases hpiece.symm.trans hdirective
    exact .inl ⟨rfl, rfl, rfl, rfl⟩
  | into hcut hdirective htarget hread hparent hinner =>
    obtain rfl := recognises_directive.cut_iff.1 hcut
    cases hpiece.symm.trans hdirective
    exact .inr ⟨_, _, _, _, rfl, htarget, hread, hparent, hinner⟩

/-- There is one directive at an address. -/
theorem DirectiveAt.unique {others : List Path} {within : Path} {path : List Char}
    (h : DirectiveAt tree directory cs address files last written)
    (hother : DirectiveAt tree directory cs address others within path) :
    files = others ∧ last = within ∧ written = path := by
  induction h generalizing others with
  | here hcut hdirective =>
    cases hother with
    | here hcut' hdirective' =>
      rw [recognises_directive.cut_iff] at hcut hcut'
      obtain rfl := hcut.symm.trans hcut'
      cases hdirective.symm.trans hdirective'
      exact ⟨rfl, rfl, rfl⟩
    | into _ _ _ _ _ hinner => nomatch hinner
  | into hcut hdirective htarget hread hparent hinner ih =>
    cases hother with
    | here => nomatch hinner
    | into hcut' hdirective' htarget' hread' hparent' hinner' =>
      rw [recognises_directive.cut_iff] at hcut hcut'
      obtain rfl := hcut.symm.trans hcut'
      cases hdirective.symm.trans hdirective'
      cases htarget.symm.trans htarget'
      cases hread.symm.trans hread'
      cases hparent.symm.trans hparent'
      obtain ⟨rfl, rfl, rfl⟩ := ih hinner'
      exact ⟨rfl, rfl, rfl⟩

/-- The directives of the tree are those of the texts at the ends of the ways. -/
theorem exists_directiveAt_iff :
    (∃ address, DirectiveAt tree directory cs address files last written) ↔
      ∃ text ps m, Way tree directory cs files last text ∧ Cut IsDirective text ps ∧
        .token m written ∈ ps := by
  constructor
  · rintro ⟨address, h⟩
    induction h with
    | here hcut hdirective =>
      exact ⟨_, _, _, .here _ _, hcut, List.mem_of_getElem? hdirective⟩
    | into hcut hdirective htarget hread hparent _ ih =>
      obtain ⟨text, ps, m, hway, hps, hmem⟩ := ih
      exact ⟨text, ps, m, .into hcut (List.mem_of_getElem? hdirective) htarget hread hparent hway,
        hps, hmem⟩
  · rintro ⟨text, ps, m, hway, hcut, hmem⟩
    induction hway with
    | here =>
      obtain ⟨i, hi⟩ := List.mem_iff_getElem?.1 hmem
      exact ⟨[i], .here hcut hi⟩
    | into hfirst hdirective htarget hread hparent _ ih =>
      obtain ⟨i, hi⟩ := List.mem_iff_getElem?.1 hdirective
      obtain ⟨address, hinner⟩ := ih hcut
      exact ⟨i :: address, .into hfirst hi htarget hread hparent hinner⟩

/-!
## The first refusal

Success and failure are complements: nothing is refused, or there is a first one. That the code
stops at this one needs the order of the pieces.
-/

/-- Expanding a text succeeds exactly if no directive in its tree is refused. -/
theorem exists_expand_iff_not_refusal :
    (∃ out, expand tree room directory chain cs = .ok out) ↔
      ∀ address files last written, DirectiveAt tree directory cs address files last written →
        ∀ problem, ¬Refusal tree (room - files.length) (chain ++ files) last written problem := by
  rw [exists_expand_iff]
  constructor
  · intro h address files last written hat
    obtain ⟨text, ps, m, hway, hcut, hmem⟩ := exists_directiveAt_iff.1 ⟨address, hat⟩
    obtain ⟨file, content, htarget, hnew, hroom, hread⟩ :=
      h files last text hway ps hcut m written hmem
    exact not_refusal_iff.2 ⟨file, content, htarget, hnew, by omega, hread⟩
  · intro h files last text hway ps hcut m written hmem
    obtain ⟨address, hat⟩ := exists_directiveAt_iff.2 ⟨text, ps, m, hway, hcut, hmem⟩
    obtain ⟨file, content, htarget, hnew, hroom, hread⟩ :=
      not_refusal_iff.1 (h address files last written hat)
    exact ⟨file, content, htarget, hnew, by omega, hread⟩

/-- A text fails to be expanded at one of its directives, and all pieces in front of that have been
replaced. The pieces are expanded from left to right, so the failure is that of the first one that
fails. -/
theorem exists_of_expand_eq_error {problem : Failure}
    (h : expand tree room directory chain cs = .error problem) :
    ∃ (i : Nat) (m path : List Char), (pieces directive cs)[i]? = some (.token m path) ∧
      replacement tree room directory chain (deeper tree room) (.token m path) = .error problem ∧
      ∀ j < i, ∀ p, (pieces directive cs)[j]? = some p →
        ∃ text, replacement tree room directory chain (deeper tree room) p = .ok text := by
  rw [expand_eq, map_eq_error_iff, mapM_eq_error_iff, List.findSome?_eq_some_iff] at h
  obtain ⟨front, p, later, hpieces, hproblem, hfront⟩ := h
  rw [errorOf?_eq_some_iff] at hproblem
  rw [hpieces]
  cases p with
  | plain c =>
    rw [replacement_plain] at hproblem
    nomatch hproblem
  | token m path =>
    refine ⟨front.length, m, path, by simp, hproblem, fun j hj p hp => ?_⟩
    rw [List.getElem?_append_left hj] at hp
    exact errorOf?_eq_none_iff.1 (hfront p (List.mem_of_getElem? hp))

/-- At a directive that is not refused, and behind which nothing is refused, there is no refusal. -/
theorem not_refusal_of_cons {i : Nat} {m path : List Char} {file within : Path} {content : String}
    (hpiece : (pieces directive cs)[i]? = some (.token m path))
    (htarget : tree.canonical (directory.join ⟨String.ofList path⟩) = .ok file)
    (hnew : file ∉ chain) (hread : tree.readText file = .ok content)
    (hparent : file.parent = some within)
    (hinner : ∀ files last written,
      DirectiveAt tree within content.toList address files last written →
        ∀ problem,
          ¬Refusal tree (room - files.length) (chain ++ [file] ++ files) last written problem)
    (hat : DirectiveAt tree directory cs (i :: address) files last written) (problem : Failure) :
    ¬Refusal tree (room + 1 - files.length) (chain ++ files) last written problem := by
  rcases hat.here_or_into hpiece with
    ⟨rfl, rfl, rfl, rfl⟩ | ⟨_, _, _, others, rfl, htarget', hread', hparent', hdeeper⟩
  · rw [List.append_nil]
    exact not_refusal_iff.2 ⟨file, content, htarget, hnew, Nat.succ_ne_zero room, hread⟩ problem
  · cases htarget.symm.trans htarget'
    cases hread.symm.trans hread'
    cases hparent.symm.trans hparent'
    rw [List.length_cons, Nat.succ_sub_succ, List.append_cons]
    exact hinner others last written hdeeper problem

/-- A directive that has been replaced is not refused, nor is any in its file. Since expanding its
file has succeeded, the characterisation of success applies there, with the smaller room. -/
theorem not_refusal_of_replacement {i : Nat} {m path text : List Char}
    (hpiece : (pieces directive cs)[i]? = some (.token m path))
    (h : replacement tree room directory chain (deeper tree room) (.token m path) = .ok text)
    (hat : DirectiveAt tree directory cs (i :: address) files last written) (problem : Failure) :
    ¬Refusal tree (room - files.length) (chain ++ files) last written problem := by
  obtain ⟨file, content, within, htarget, hnew, hroom, hread, hparent, hinner⟩ :=
    replacement_token_eq_ok_iff.1 h
  obtain ⟨fewer, rfl⟩ := Nat.exists_eq_succ_of_ne_zero hroom
  exact not_refusal_of_cons hpiece htarget hnew hread hparent
    (exists_expand_iff_not_refusal.1 ⟨text, hinner⟩ address) hat problem

/-- The step of the induction: a failure here is a refusal here, or the first one deeper in the
first piece that fails. -/
theorem firstRefusal_of_expand_of_deeper
    (hdeeper : ∀ fewer, room = fewer + 1 → ∀ directory chain cs problem,
      expand tree fewer directory chain cs = .error problem →
        FirstRefusal tree fewer directory chain cs problem)
    {problem : Failure} (h : expand tree room directory chain cs = .error problem) :
    FirstRefusal tree room directory chain cs problem := by
  obtain ⟨i, m, written, hpiece, hproblem, hfront⟩ := exists_of_expand_eq_error h
  have hcut : Cut IsDirective cs (pieces directive cs) := recognises_directive.cut_pieces cs
  -- Whatever is at an address that begins with a smaller number has been replaced.
  have hleft : ∀ j < i, ∀ address files last written,
      DirectiveAt tree directory cs (j :: address) files last written → ∀ other,
        ¬Refusal tree (room - files.length) (chain ++ files) last written other := by
    intro j hj address files last written hat other
    obtain ⟨m', path, hpath⟩ := hat.exists_token
    obtain ⟨text, htext⟩ := hfront j hj _ hpath
    exact not_refusal_of_replacement hpath htext hat other
  rcases replacement_token_eq_error_iff.1 hproblem with
    hrefusal | ⟨file, content, within, htarget, hnew, hroom, hread, hparent, hinner⟩
  · refine ⟨[i], [], directory, written, .here hcut hpiece, ?_, ?_⟩
    · rwa [List.append_nil]
    · intro earlier others last path hbefore hat
      cases hbefore with
      | nil => cases hat
      | cons hnil => nomatch hnil
      | rel hj => exact hleft _ hj _ _ _ _ hat
  · obtain ⟨fewer, rfl⟩ := Nat.exists_eq_succ_of_ne_zero hroom
    obtain ⟨address, files, last, path, hat, hrefusal, hfirst⟩ :=
      hdeeper fewer rfl _ _ _ _ hinner
    refine ⟨i :: address, file :: files, last, path,
      .into hcut hpiece htarget hread hparent hat, ?_, ?_⟩
    · rwa [List.length_cons, Nat.succ_sub_succ, List.append_cons]
    · intro earlier others last' path' hbefore hat' other
      cases hbefore with
      | nil => cases hat'
      | rel hj => exact hleft _ hj _ _ _ _ hat' other
      | cons hbefore =>
        -- Both addresses begin with this directive: they are in order as those in its file are.
        exact not_refusal_of_cons hpiece htarget hnew hread hparent
          (fun others last path => hfirst _ others last path hbefore) hat' other

/-- A failure of an expansion is the first refusal. The induction is on the depth. -/
theorem firstRefusal_of_expand {problem : Failure}
    (h : expand tree room directory chain cs = .error problem) :
    FirstRefusal tree room directory chain cs problem := by
  -- In the file of a directive there is room for one file less.
  induction room generalizing directory chain cs problem with
  | zero => exact firstRefusal_of_expand_of_deeper (fun _ hzero => absurd hzero (by omega)) h
  | succ room ih =>
    refine firstRefusal_of_expand_of_deeper ?_ h
    rintro fewer ⟨⟩ directory chain cs problem
    exact ih

/-- There is one first refusal, as addresses are in one order. -/
theorem FirstRefusal.unique {problem other : Failure}
    (h : FirstRefusal tree room directory chain cs problem)
    (hother : FirstRefusal tree room directory chain cs other) : problem = other := by
  obtain ⟨address, files, last, written, hat, hrefusal, hfirst⟩ := h
  obtain ⟨address', files', last', written', hat', hrefusal', hfirst'⟩ := hother
  rcases before_trichotomy address address' with hbefore | rfl | hbehind
  · exact absurd hrefusal (hfirst' _ _ _ _ hbefore hat _)
  · obtain ⟨rfl, rfl, rfl⟩ := hat.unique hat'
    exact hrefusal.unique hrefusal'
  · exact absurd hrefusal' (hfirst _ _ _ _ hbehind hat' _)

/-- Expanding a text fails exactly if a directive is refused, and with the reason of the first. -/
theorem expand_eq_error_iff {problem : Failure} :
    expand tree room directory chain cs = .error problem ↔
      FirstRefusal tree room directory chain cs problem := by
  refine ⟨firstRefusal_of_expand, fun h => ?_⟩
  cases hresult : expand tree room directory chain cs with
  | error other => rw [(firstRefusal_of_expand hresult).unique h]
  | ok out =>
    obtain ⟨address, files, last, written, hat, hrefusal, -⟩ := h
    exact absurd hrefusal
      (exists_expand_iff_not_refusal.1 ⟨out, hresult⟩ _ _ _ _ hat problem)

/-!
## Trees without an end

A file may include itself, or two files each other. Then there are directives at addresses of any
length, and only the chain and the depth stop the code.
-/

/-- There are only so many addresses of a length: a text has only so many pieces. So the addresses
of a tree without an end are arbitrarily long. The induction is on the bound: the first number of an
address is one of finitely many, and the rest is an address in the text of one of finitely many
files. -/
theorem finite_of_length_le (tree : FileTree) (directory : Path) (cs : List Char) (bound : Nat) :
    {address | address.length ≤ bound ∧
      ∃ files last written, DirectiveAt tree directory cs address files last written}.Finite := by
  induction bound generalizing directory cs with
  | zero =>
    refine Set.finite_empty.subset ?_
    rintro address ⟨hlength, files, last, written, hat⟩
    rw [hat.length_eq] at hlength
    exact absurd hlength (Nat.not_succ_le_zero _)
  | succ bound ih =>
    -- Behind a number there is nothing, or what is in the one file that is named there.
    have hbehind : ∀ i, {address | (i :: address).length ≤ bound + 1 ∧ ∃ files last written,
        DirectiveAt tree directory cs (i :: address) files last written}.Finite := by
      intro i
      by_cases hfile : ∃ m path file content within,
          (pieces directive cs)[i]? = some (.token m path) ∧
          tree.canonical (directory.join ⟨String.ofList path⟩) = .ok file ∧
          tree.readText file = .ok content ∧ file.parent = some within
      · obtain ⟨m, path, file, content, within, hpiece, htarget, hread, hparent⟩ := hfile
        refine ((ih within content.toList).insert []).subset ?_
        rintro address ⟨hlength, files, last, written, hat⟩
        rcases hat.here_or_into hpiece with
          ⟨rfl, -⟩ | ⟨_, _, _, others, -, htarget', hread', hparent', hinner⟩
        · exact Set.mem_insert _ _
        · cases htarget.symm.trans htarget'
          cases hread.symm.trans hread'
          cases hparent.symm.trans hparent'
          exact Set.mem_insert_of_mem _
            ⟨Nat.le_of_succ_le_succ hlength, others, last, written, hinner⟩
      · refine (Set.finite_singleton []).subset ?_
        rintro address ⟨-, files, last, written, hat⟩
        obtain ⟨m, path, hpiece⟩ := hat.exists_token
        rcases hat.here_or_into hpiece with
          ⟨rfl, -⟩ | ⟨file, content, within, -, -, htarget, hread, hparent, -⟩
        · exact Set.mem_singleton _
        · exact absurd ⟨m, path, file, content, within, hpiece, htarget, hread, hparent⟩ hfile
    refine ((Set.finite_lt_nat (pieces directive cs).length).biUnion fun i _ =>
      (hbehind i).image (i :: ·)).subset ?_
    rintro address ⟨hlength, files, last, written, hat⟩
    cases address with
    | nil => cases hat
    | cons i address =>
      obtain ⟨m, path, hpiece⟩ := hat.exists_token
      obtain ⟨hi, -⟩ := List.getElem?_eq_some_iff.1 hpiece
      exact Set.mem_biUnion hi ⟨address, ⟨hlength, files, last, written, hat⟩, rfl⟩

/-- In a tree without an end, something is refused, if only because there is no room. If nothing
were refused, no address would be longer than the room. -/
theorem exists_expand_eq_error_of_infinite
    (h : {address |
      ∃ files last written, DirectiveAt tree directory cs address files last written}.Infinite) :
    ∃ problem, expand tree room directory chain cs = .error problem := by
  cases hresult : expand tree room directory chain cs with
  | error problem => exact ⟨problem, rfl⟩
  | ok out =>
    refine absurd ((finite_of_length_le tree directory cs room).subset ?_) h
    rintro address ⟨files, last, written, hat⟩
    have hnone := exists_expand_iff_not_refusal.1 ⟨out, hresult⟩ _ _ _ _ hat
    obtain ⟨-, -, -, -, hroom, -⟩ := not_refusal_iff.1 hnone
    refine ⟨?_, files, last, written, hat⟩
    rw [hat.length_eq]
    omega

/-- The tree of a text has no end if the text is that of a file, and names that file. From every
address a longer one is made by going into the file once more. -/
theorem infinite_of_named_in_itself {within file : Path} {content : String} {i : Nat}
    {m path : List Char} (hpiece : (pieces directive content.toList)[i]? = some (.token m path))
    (htarget : tree.canonical (within.join ⟨String.ofList path⟩) = .ok file)
    (hread : tree.readText file = .ok content) (hparent : file.parent = some within) :
    {address | ∃ files last written,
      DirectiveAt tree within content.toList address files last written}.Infinite := by
  have hcut := recognises_directive.cut_pieces content.toList
  have hinjective : Function.Injective fun n => List.replicate (n + 1) i := by
    intro a b hab
    have hlength := congrArg List.length hab
    simpa only [List.length_replicate, Nat.add_right_cancel_iff] using hlength
  refine Set.infinite_of_injective_forall_mem hinjective fun n =>
    ⟨List.replicate n file, within, path, ?_⟩
  induction n with
  | zero => exact .here hcut hpiece
  | succ n ih => exact .into hcut hpiece htarget hread hparent ih

/-- All directives of the tree are the same one then, if there is no other in the text. -/
theorem DirectiveAt.eq_of_named_in_itself {within file : Path} {content : String}
    {path : List Char}
    (honly : ∀ m other, .token m other ∈ pieces directive content.toList → other = path)
    (htarget : tree.canonical (within.join ⟨String.ofList path⟩) = .ok file)
    (hread : tree.readText file = .ok content) (hparent : file.parent = some within)
    (hat : DirectiveAt tree within content.toList address files last written) :
    last = within ∧ written = path := by
  induction address generalizing files with
  | nil => cases hat
  | cons i address ih =>
    obtain ⟨m, other, hpiece⟩ := hat.exists_token
    obtain rfl := honly m other (List.mem_of_getElem? hpiece)
    rcases hat.here_or_into hpiece with
      ⟨-, -, hlast, hwritten⟩ | ⟨_, _, _, others, -, htarget', hread', hparent', hinner⟩
    · exact ⟨hlast, hwritten⟩
    · cases htarget.symm.trans htarget'
      cases hread.symm.trans hread'
      cases hparent.symm.trans hparent'
      exact ih hinner

/-! ## The stage -/

/-- If including fails, then for the reason of the first directive that is refused: the path leads
nowhere, the file is on the way already, the way is as long as it may be, or the file is no text,
and each of these only if those before it do not hold.

A cycle lists the files of a way, the template's own in front, and the text at the end of the way
names one of them. A source with a tree without an end in which each directive names a file that can
be read is refused for a cycle or for the length of the way. -/
theorem run_stops_at_first (tree : FileTree) (project : Project) (template : Template)
    (source : String) :
    (∀ halt, stage.run tree project template source = .error halt ↔
      ∃ problem, halt = .failure problem ∧
        FirstRefusal tree depthLimit (project.directoryOf template) (start tree project template)
          source.toList problem) ∧
    (∀ listed again,
      stage.run tree project template source =
          .error (.failure (.inclusion (.cycle listed again))) →
        ∃ files last text ps m written, listed = start tree project template ++ files ∧
          Way tree (project.directoryOf template) source.toList files last text ∧
          Cut IsDirective text ps ∧ .token m written ∈ ps ∧
          tree.canonical (last.join ⟨String.ofList written⟩) = .ok again ∧ again ∈ listed) ∧
    ({address | ∃ files last written, DirectiveAt tree (project.directoryOf template) source.toList
          address files last written}.Infinite →
      (∀ address files last written, DirectiveAt tree (project.directoryOf template) source.toList
          address files last written →
        ∃ file content, tree.canonical (last.join ⟨String.ofList written⟩) = .ok file ∧
          tree.readText file = .ok content) →
      ∃ problem,
        stage.run tree project template source = .error (.failure (.inclusion problem)) ∧
        ((∃ listed again, problem = .cycle listed again) ∨
          ∃ file, problem = .tooDeep depthLimit file)) := by
  have hrun : ∀ halt, stage.run tree project template source = .error halt ↔
      ∃ problem, halt = .failure problem ∧
        FirstRefusal tree depthLimit (project.directoryOf template) (start tree project template)
          source.toList problem := by
    intro halt
    rw [run_stage, uncrashed_eq_error_iff]
    simp only [map_eq_error_iff, expand_eq_error_iff, and_comm]
  refine ⟨hrun, fun listed again h => ?_, fun hinfinite hreadable => ?_⟩
  · obtain ⟨problem, hproblem, address, files, last, written, hat, hrefusal, -⟩ := (hrun _).1 h
    cases hproblem
    obtain ⟨text, ps, m, hway, hcut, hmem⟩ := exists_directiveAt_iff.1 ⟨address, hat⟩
    cases hrefusal with
    | cycle htarget hagain =>
      exact ⟨files, last, text, ps, m, written, rfl, hway, hcut, hmem, htarget, hagain⟩
  · -- The tree has no end, so something is refused; as all directives can be read, two of the four
    -- reasons are left.
    obtain ⟨problem, hproblem⟩ := exists_expand_eq_error_of_infinite hinfinite
    have hfirst := expand_eq_error_iff.1 hproblem
    obtain ⟨address, files, last, written, hat, hrefusal, -⟩ := hfirst
    obtain ⟨file, content, htarget, hread⟩ := hreadable _ _ _ _ hat
    cases hrefusal with
    | unresolvable htarget' => nomatch htarget.symm.trans htarget'
    | cycle => exact ⟨_, (hrun _).2 ⟨_, rfl, expand_eq_error_iff.1 hproblem⟩, .inl ⟨_, _, rfl⟩⟩
    | tooDeep => exact ⟨_, (hrun _).2 ⟨_, rfl, expand_eq_error_iff.1 hproblem⟩, .inr ⟨_, rfl⟩⟩
    | unreadable htarget' _ _ hread' =>
      cases htarget.symm.trans htarget'
      nomatch hread.symm.trans hread'

/-- A letter that includes itself. -/
def mirror : Template := ⟨"m", "mirror", "mirror", none, none, []⟩

def mirrorFiles : FileTree := ⟨[
  (["p"], .directory),
  (["p", "mirror"], .file "<mj-include path=\"mirror\"/>".toUTF8 false)]⟩

/-- A file that includes itself: the ways are without end, and the stage fails with a cycle or at
its depth. -/
theorem run_stops_at_first_mirror :
    let content := "<mj-include path=\"mirror\"/>"
    let directory := Project.mails.directoryOf mirror
    {address | ∃ files last written, DirectiveAt mirrorFiles directory content.toList address files
      last written}.Infinite ∧
    (∀ address files last written,
      DirectiveAt mirrorFiles directory content.toList address files last written →
        ∃ file content, mirrorFiles.canonical (last.join ⟨String.ofList written⟩) = .ok file ∧
          mirrorFiles.readText file = .ok content) ∧
    ∃ problem,
      stage.run mirrorFiles Project.mails mirror content =
        .error (.failure (.inclusion problem)) ∧
      ((∃ listed again, problem = .cycle listed again) ∨
        ∃ file, problem = .tooDeep depthLimit file) := by
  intro content directory
  have hpieces : pieces directive content.toList = [.token content.toList "mirror".toList] :=
    pieces_of_isDirective (isDirective_of_eq (by decide) (by decide))
  have htarget : mirrorFiles.canonical (directory.join ⟨String.ofList "mirror".toList⟩) =
      .ok ⟨"/p/mirror"⟩ := eq_ok_of_toOption (by decide +kernel)
  have hread : mirrorFiles.readText ⟨"/p/mirror"⟩ = .ok content :=
    eq_ok_of_toOption (by decide +kernel)
  have hparent : (⟨"/p/mirror"⟩ : Path).parent = some directory := by decide +kernel
  have hfirst : (pieces directive content.toList)[0]? =
      some (.token content.toList "mirror".toList) := by
    rw [hpieces]
    rfl
  have hinfinite := infinite_of_named_in_itself hfirst htarget hread hparent
  have hreadable : ∀ address files last written,
      DirectiveAt mirrorFiles directory content.toList address files last written →
        ∃ file content, mirrorFiles.canonical (last.join ⟨String.ofList written⟩) = .ok file ∧
          mirrorFiles.readText file = .ok content := by
    intro address files last written hat
    have honly : ∀ m other, .token m other ∈ pieces directive content.toList →
        other = "mirror".toList := by
      intro m other hmem
      rw [hpieces, List.mem_singleton] at hmem
      cases hmem
      rfl
    obtain ⟨rfl, rfl⟩ := hat.eq_of_named_in_itself honly htarget hread hparent
    exact ⟨_, content, htarget, hread⟩
  exact ⟨hinfinite, hreadable,
    (run_stops_at_first mirrorFiles Project.mails mirror content).2.2 hinfinite hreadable⟩

end MailTemplates.Include
