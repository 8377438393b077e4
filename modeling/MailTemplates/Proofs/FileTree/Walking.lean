import MailTemplates.FileTree.Resolve
/-!
# How walks go on

A walk of two parts is a walk of the first and then, from where that leads, of the second
(`walk_append`). Following links this holds too, but the first part may use up some of the links
that may be followed (`follow_append`).

A walk that ends at a name that is not there ends at a place with nothing at it
(`node?_of_walk_vacant`). From a file a walk does not go on.

The definitions of the tree say what one step does, so the first lemmas are one for each kind of
step, under the hypothesis that the walk is in a directory (`walk_stay`, `walk_up`, `walk_into`),
and one for the case that it is not (`walk_cons_of_not_directory`). The inductions of this and the
later modules have just these cases, and none of them unfolds a walk again.

Behind links there is a second induction, on the number of links that may still be followed. Its
step is `follow_succ`: one walk, and another one if that stops at a link. How many links are left is
no part of the result (`follow_unique`), and so most lemmas on following can choose the number that
suits them.
-/

namespace MailTemplates.FileTree

variable {t : FileTree}

/-!
## One step after another

A walk is defined by a match on the node and the step. These are its equations, under the condition
that the node is a directory.
-/

section Steps

variable {here : Place} (h : t.node? here = some .directory) (rest : List Step)
include h

theorem walk_stay : t.walk here (.stay :: rest) = t.walk here rest := by
  rw [walk, h]

theorem walk_up : t.walk here (.up :: rest) = t.walk here.dropLast rest := by
  rw [walk, h]

/-- A step down fails for a long name, ends where nothing is, stops at a link, and goes on
elsewhere. -/
theorem walk_into (name : String) :
    t.walk here (.into name :: rest) =
      if maxNameBytes < name.utf8ByteSize then .failed .nameTooLong
      else
        match t.node? (here ++ [name]) with
        | none => .vacant (here ++ [name]) rest
        | some (.link target) => .atLink here target rest
        | some _ => t.walk (here ++ [name]) rest := by
  rw [walk]
  split
  · rfl
  · next hother => exact absurd h hother

end Steps

/-- Idle steps stay in a directory. -/
theorem walk_stays {here : Place} (h : t.node? here = some .directory) (n : Nat) :
    t.walk here (.replicate n .stay) = .arrived here := by
  induction n with
  | zero => rfl
  | succ n ih => rw [List.replicate_succ, walk_stay h, ih]

/-- Only from a directory there are steps to take. -/
theorem walk_cons_of_not_directory {here : Place} (h : t.node? here ≠ some .directory)
    (step : Step) (rest : List Step) : t.walk here (step :: rest) = .failed .notDirectory := by
  unfold walk
  split
  · next hdirectory => exact absurd hdirectory h
  · rfl

/-- What comes of a walk when more steps follow. -/
def Progress.andThen (t : FileTree) (more : List Step) : Progress → Progress
  | .arrived here => t.walk here more
  | .vacant here rest => .vacant here (rest ++ more)
  | .atLink directory target rest => .atLink directory target (rest ++ more)
  | .failed problem => .failed problem

/-- A walk goes on where its front has arrived, and ends as that does otherwise. -/
theorem walk_append (here : Place) (steps more : List Step) :
    t.walk here (steps ++ more) = (t.walk here steps).andThen t more := by
  induction steps generalizing here with
  | nil => rfl
  | cons step rest ih =>
    rw [List.cons_append]
    -- Both walks take the same step, or both fail for the same reason.
    by_cases h : t.node? here = some .directory
    · cases step with
      | stay => rw [walk_stay h, walk_stay h, ih]
      | up => rw [walk_up h, walk_up h, ih]
      | into name =>
        rw [walk_into h, walk_into h]
        split
        · rfl
        · split
          · rfl
          · rfl
          · exact ih _
    · rw [walk_cons_of_not_directory h, walk_cons_of_not_directory h]
      rfl

/-- Where a walk finds nothing there is nothing. -/
theorem node?_of_walk_vacant {here place : Place} {steps rest : List Step}
    (hwalk : t.walk here steps = .vacant place rest) : t.node? place = none := by
  induction steps generalizing here with
  | nil => nomatch hwalk
  | cons step more ih =>
    by_cases h : t.node? here = some .directory
    · cases step with
      | stay => exact ih ((walk_stay h more).symm.trans hwalk)
      | up => exact ih ((walk_up h more).symm.trans hwalk)
      | into name =>
        rw [walk_into h] at hwalk
        split at hwalk
        · nomatch hwalk
        · split at hwalk
          · next hnone =>
            cases hwalk
            exact hnone
          · nomatch hwalk
          · exact ih hwalk
    · rw [walk_cons_of_not_directory h] at hwalk
      nomatch hwalk

/-!
## Through links

Each link costs one of the links that may be followed; a path with more of them fails.
-/

/-- Following a path is a walk, and another one from each link on. -/
theorem follow_succ (links : Nat) (here : Place) (steps : List Step) :
    t.follow (links + 1) here steps =
      match t.walk here steps with
      | .arrived place => .ok (.existing place)
      | .vacant place rest => .ok (.vacant place rest)
      | .failed problem => .error problem
      | .atLink directory target rest =>
        t.follow links (if target.isAbsolute then [] else directory) (target.steps ++ rest) := rfl

/-- A path is followed up to some point, and from there with the links that are left. -/
theorem follow_append {links : Nat} {here : Place} {steps more : List Step} {target : Target}
    (h : t.follow links here (steps ++ more) = .ok target) :
    (∃ place left, t.follow links here steps = .ok (.existing place) ∧
      t.follow left place more = .ok target) ∨
    ∃ place rest, t.follow links here steps = .ok (.vacant place rest) ∧
      target = .vacant place (rest ++ more) := by
  induction links generalizing here steps with
  | zero => nomatch h
  | succ links ih =>
    rw [follow_succ, walk_append] at h
    rw [follow_succ]
    cases hwalk : t.walk here steps with
    | arrived place =>
      rw [hwalk] at h
      exact .inl ⟨place, links + 1, rfl, h⟩
    | vacant place rest =>
      rw [hwalk] at h
      cases h
      exact .inr ⟨place, rest, rfl, rfl⟩
    | failed problem =>
      rw [hwalk] at h
      nomatch h
    | atLink directory target rest =>
      -- The first part may meet more links, so it is what the induction goes on with.
      rw [hwalk] at h
      simp only [Progress.andThen, ← List.append_assoc] at h
      exact ih h

/-- More steps are taken from where the first ones lead. -/
theorem follow_append_of_existing {links : Nat} {here place : Place}
    {steps : List Step} (h : t.follow links here steps = .ok (.existing place))
    (more : List Step) :
    ∃ left, t.follow links here (steps ++ more) = t.follow (left + 1) place more := by
  induction links generalizing here steps with
  | zero => nomatch h
  | succ links ih =>
    rw [follow_succ] at h ⊢
    -- The links that are left are those that the first part has not used.
    rw [walk_append]
    cases hwalk : t.walk here steps with
    | arrived q =>
      rw [hwalk] at h
      cases h
      exact ⟨links, (follow_succ ..).symm⟩
    | vacant q rest =>
      rw [hwalk] at h
      nomatch h
    | failed problem =>
      rw [hwalk] at h
      nomatch h
    | atLink directory target rest =>
      rw [hwalk] at h
      simp only [Progress.andThen, ← List.append_assoc]
      exact ih h

/-- Where steps lead does not depend on how many links may be followed, if they are enough. -/
theorem follow_unique {links more : Nat} {here : Place} {steps : List Step}
    {target other : Target} (h : t.follow links here steps = .ok target)
    (hother : t.follow more here steps = .ok other) : target = other := by
  induction links generalizing more here steps with
  | zero => nomatch h
  | succ links ih =>
    cases more with
    | zero => nomatch hother
    | succ more =>
      rw [follow_succ] at h hother
      -- Both take the same walk; only a link spends one of their numbers.
      cases hwalk : t.walk here steps with
      | arrived place =>
        rw [hwalk] at h hother
        cases h
        cases hother
        rfl
      | vacant place rest =>
        rw [hwalk] at h hother
        cases h
        cases hother
        rfl
      | failed problem =>
        rw [hwalk] at h
        nomatch h
      | atLink directory target rest =>
        rw [hwalk] at h hother
        exact ih h hother

/-- Where a path leads to nothing there is nothing. -/
theorem node?_of_follow_vacant {links : Nat} {here place : Place} {steps rest : List Step}
    (h : t.follow links here steps = .ok (.vacant place rest)) : t.node? place = none := by
  induction links generalizing here steps with
  | zero => nomatch h
  | succ links ih =>
    rw [follow_succ] at h
    cases hwalk : t.walk here steps with
    | arrived place => rw [hwalk] at h; nomatch h
    | vacant place rest =>
      rw [hwalk] at h
      cases h
      exact node?_of_walk_vacant hwalk
    | failed problem => rw [hwalk] at h; nomatch h
    | atLink directory target more =>
      rw [hwalk] at h
      exact ih h

/-- Steps are taken in directories only. -/
theorem node?_of_follow_cons {links : Nat} {here : Place} {step : Step} {rest : List Step}
    {target : Target} (h : t.follow links here (step :: rest) = .ok target) :
    t.node? here = some .directory := by
  cases links with
  | zero => nomatch h
  | succ links =>
    by_cases hdirectory : t.node? here = some .directory
    · exact hdirectory
    · rw [follow_succ, walk_cons_of_not_directory hdirectory] at h
      nomatch h

/-!
## Paths

What the operations on paths come to, in terms of following their steps from the root.
-/

/-- A path leads somewhere if it is not empty and without a zero character, and its links end. -/
theorem target_eq_ok_iff {p : Path} {target : Target} :
    t.target p = .ok target ↔
      p.hasNul = false ∧ p.text ≠ "" ∧ t.follow (maxLinks + 1) [] p.steps = .ok target := by
  unfold FileTree.target
  cases hnul : p.hasNul with
  | true => simp
  | false =>
    by_cases hempty : p.text = ""
    · simp [hempty]
    · simp [hempty]

/-- It resolves to a place if there is something. -/
theorem resolve_eq_ok_iff {p : Path} {place : Place} :
    t.resolve p = .ok place ↔ t.target p = .ok (.existing place) := by
  unfold resolve
  cases htarget : t.target p with
  | error problem => exact ⟨nofun, nofun⟩
  | ok target =>
    cases target with
    | existing here =>
      constructor
      · intro h
        cases h
        rfl
      · intro h
        cases h
        rfl
    | vacant here rest => exact ⟨nofun, nofun⟩

/-- A node that is found under a path is at the place that the path resolves to. -/
theorem resolve_of_lookup {p : Path} {node : Node} (h : t.lookup p = .ok node) :
    ∃ place, t.resolve p = .ok place ∧ t.node? place = some node := by
  unfold lookup locate at h
  split at h
  · nomatch h
  · -- What is looked up is the node at the place that the path resolves to.
    cases hresolve : t.resolve p with
    | error problem =>
      rw [hresolve] at h
      nomatch h
    | ok place =>
      rw [hresolve] at h
      refine ⟨place, rfl, ?_⟩
      cases hnode : t.node? place with
      | none => simp [hnode, bind, Except.bind] at h
      | some found => simpa [hnode, bind, Except.bind, pure, Except.pure] using h

/-- A text that is read is what a file says to which the path leads. -/
theorem exists_bytes_of_readText {p : Path} {content : String} (h : t.readText p = .ok content) :
    ∃ place bytes, t.resolve p = .ok place ∧
      (∃ executable, t.node? place = some (.file bytes executable)) ∧
      String.fromUTF8? bytes = some content := by
  unfold readText readBytes at h
  cases hlookup : t.lookup p with
  | error problem =>
    rw [hlookup] at h
    nomatch h
  | ok node =>
    obtain ⟨place, hplace, hnode⟩ := resolve_of_lookup hlookup
    rw [hlookup] at h
    cases node with
    | file bytes executable =>
      refine ⟨place, bytes, hplace, ⟨executable, hnode⟩, ?_⟩
      cases htext : String.fromUTF8? bytes with
      | none => simp [htext, bind, Except.bind, pure, Except.pure] at h
      | some text => simpa [htext, bind, Except.bind, pure, Except.pure] using h
    | link target => nomatch h
    | directory => nomatch h

end MailTemplates.FileTree
