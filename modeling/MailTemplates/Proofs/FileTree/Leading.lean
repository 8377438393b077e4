import MailTemplates.Proofs.FileTree.Paths
import MailTemplates.Proofs.FileTree.Walking
/-!
# Where steps lead

Without links, where a walk ends can be read off its steps: into a name, up, or staying
(`Place.after`). A walk that arrives anywhere else has met a link on its way
(`eq_after_of_follow`). Steps that never go up more often than they have gone down stay below the
place they start from (`isWithin_after`), so only a link below that can lead them out
(`eq_after_of_descends`). Such steps may be taken one after the other (`descends_append`). A text
without slashes is a single name (`steps_of_name`).

Descending is counted from a depth, so that the induction can go through the steps from the front: a
step down adds one, a step up needs one. Together with `Place.after` this is all that a walk without
links has to do with the tree. The tree comes in with one lemma, `walk_arrived_or_meetsLink`, which
has a case for each way in which a walk can end.
-/

namespace MailTemplates

/-- Where steps lead from a place if no link is on the way. -/
def Place.after : Place → List Step → Place
  | here, [] => here
  | here, .into name :: rest => Place.after (here ++ [name]) rest
  | here, .up :: rest => Place.after here.dropLast rest
  | here, .stay :: rest => Place.after here rest

/-- Steps are taken one after the other. -/
theorem Place.after_append (here : Place) (front rest : List Step) :
    here.after (front ++ rest) = (here.after front).after rest := by
  induction front generalizing here with
  | nil => rfl
  | cons step front ih => cases step <;> exact ih _

/-- Whether steps, taken so deep below a place, never lead above it. -/
def descends : Nat → List Step → Bool
  | _, [] => true
  | depth, .into _ :: rest => descends (depth + 1) rest
  | 0, .up :: _ => false
  | depth + 1, .up :: rest => descends depth rest
  | depth, .stay :: rest => descends depth rest

/-- Steps that never lead above the start do so even less from farther down. -/
theorem descends_mono {depth deeper : Nat} (h : depth ≤ deeper) {steps : List Step}
    (hdescends : descends depth steps = true) : descends deeper steps = true := by
  induction steps generalizing depth deeper with
  | nil => rfl
  | cons step rest ih =>
    cases step with
    | stay => exact ih h hdescends
    | into name => exact ih (Nat.add_le_add_right h 1) hdescends
    | up =>
      cases depth with
      | zero => nomatch hdescends
      | succ depth =>
        obtain ⟨deeper, rfl⟩ := Nat.exists_eq_add_of_le' (Nat.le_trans (Nat.le_add_left 1 depth) h)
        exact ih (Nat.le_of_add_le_add_right h) hdescends

/-- Steps that descend may follow others that do. -/
theorem descends_append {depth : Nat} {front rest : List Step}
    (hfront : descends depth front = true) (hrest : descends 0 rest = true) :
    descends depth (front ++ rest) = true := by
  induction front generalizing depth with
  | nil => exact descends_mono (Nat.zero_le depth) hrest
  | cons step front ih =>
    cases step with
    | stay => exact ih hfront
    | into name => exact ih hfront
    | up =>
      cases depth with
      | zero => nomatch hfront
      | succ depth => exact ih hfront

/-- So do the steps of their front. -/
theorem descends_of_append {depth : Nat} {front rest : List Step}
    (h : descends depth (front ++ rest) = true) : descends depth front = true := by
  induction front generalizing depth with
  | nil => rfl
  | cons step front ih =>
    cases step with
    | stay => exact ih h
    | into name => exact ih h
    | up =>
      cases depth with
      | zero => nomatch h
      | succ depth => exact ih h

/-- Steps down descend. -/
theorem descends_map_into {α : Type} (depth : Nat) (name : α → String) (items : List α) :
    descends depth (items.map fun item => .into (name item)) = true := by
  induction items generalizing depth with
  | nil => rfl
  | cons item items ih => exact ih (depth + 1)

/-- A place is within a base if it continues it. -/
theorem Place.isWithin_iff {here base : Place} :
    here.isWithin base = true ↔ ∃ below, here = base ++ below := by
  unfold Place.isWithin
  rw [List.isPrefixOf_iff_prefix]
  constructor
  · rintro ⟨below, h⟩
    exact ⟨below, h.symm⟩
  · rintro ⟨below, h⟩
    exact ⟨below, h.symm⟩

/-- Steps that do not lead above a place end below it, and so do the first ones of them. -/
theorem isWithin_after {base : Place} (front rest : List Step) (below : Place)
    (h : descends below.length (front ++ rest) = true) :
    ((base ++ below).after front).isWithin base = true := by
  induction front generalizing below with
  | nil => exact Place.isWithin_iff.2 ⟨below, rfl⟩
  | cons step front ih =>
    cases step with
    | stay => exact ih below h
    | into name =>
      rw [Place.after, List.append_assoc]
      exact ih (below ++ [name]) (by rwa [List.length_append])
    | up =>
      rcases List.eq_nil_or_concat below with rfl | ⟨above, name, rfl⟩
      · nomatch h
      · rw [List.concat_eq_append] at h ⊢
        rw [List.length_append] at h
        rw [Place.after, ← List.append_assoc, List.dropLast_concat]
        exact ih above h

/-- Steps that never lead above the base stay in it, at each point on the way. -/
theorem isWithin_after_of_descends {base : Place} (front rest : List Step)
    (h : descends 0 (front ++ rest) = true) : (base.after front).isWithin base = true := by
  have hwithin := @isWithin_after base front rest [] h
  rwa [List.append_nil] at hwithin

namespace FileTree

variable {t : FileTree}

/-- Whether there is no link at a place or below it. -/
def LinkFree (t : FileTree) (base : Place) : Prop :=
  ∀ q, q.isWithin base = true → ∀ target, t.node? q ≠ some (.link target)

/-- Whether steps from a place come to a link. -/
def MeetsLink (t : FileTree) (here : Place) (steps : List Step) : Prop :=
  ∃ front name rest target, steps = front ++ .into name :: rest ∧
    t.node? (here.after (front ++ [.into name])) = some (.link target)

/-- A link that is met behind a step is met. -/
theorem meetsLink_cons {here : Place} {step : Step} {rest : List Step}
    (h : t.MeetsLink (here.after [step]) rest) : t.MeetsLink here (step :: rest) := by
  obtain ⟨front, name, more, target, rfl, hlink⟩ := h
  refine ⟨step :: front, name, more, target, rfl, ?_⟩
  cases step <;> exact hlink

/-- A walk arrives where its steps lead, unless it meets a link, or ends before. -/
theorem walk_arrived_or_meetsLink (here : Place) (steps : List Step) :
    t.walk here steps = .arrived (here.after steps) ∨ t.MeetsLink here steps ∨
      (∃ place rest, t.walk here steps = .vacant place rest) ∨
      ∃ problem, t.walk here steps = .failed problem := by
  induction steps generalizing here with
  | nil => exact .inl rfl
  -- A step is taken in a directory only; one that stays, leads up or leads down goes on from where
  -- it leads.
  | cons step rest ih =>
    by_cases hdirectory : t.node? here = some .directory
    · have hnext := ih (here.after [step])
      have hcons : t.MeetsLink (here.after [step]) rest → t.MeetsLink here (step :: rest) :=
        meetsLink_cons
      cases step with
      | stay =>
        rw [walk_stay hdirectory]
        exact hnext.imp_right (Or.imp_left hcons)
      | up =>
        rw [walk_up hdirectory]
        exact hnext.imp_right (Or.imp_left hcons)
      | into name =>
        rw [walk_into hdirectory]
        split
        · exact .inr (.inr (.inr ⟨_, rfl⟩))
        · split
          · exact .inr (.inr (.inl ⟨_, _, rfl⟩))
          · next target hlink => exact .inr (.inl ⟨[], name, rest, target, rfl, hlink⟩)
          · exact hnext.imp_right (Or.imp_left hcons)
    · rw [walk_cons_of_not_directory hdirectory]
      exact .inr (.inr (.inr ⟨_, rfl⟩))

/-- A place that is reached is where the steps lead, unless a link was met. -/
theorem eq_after_of_follow {links : Nat} {here place : Place} {steps : List Step}
    (h : t.follow links here steps = .ok (.existing place)) :
    place = here.after steps ∨ t.MeetsLink here steps := by
  cases links with
  | zero => nomatch h
  | succ links =>
    rw [follow_succ] at h
    rcases walk_arrived_or_meetsLink (t := t) here steps with
      harrived | hlink | ⟨_, _, hvacant⟩ | ⟨_, hfailed⟩
    · rw [harrived] at h
      cases h
      exact .inl rfl
    · exact .inr hlink
    · rw [hvacant] at h
      nomatch h
    · rw [hfailed] at h
      nomatch h

/-- Steps that do not lead above a place below which there are no links meet none. -/
theorem eq_after_of_descends {links : Nat} {base place : Place} {steps : List Step}
    (h : t.follow links base steps = .ok (.existing place)) (hdescends : descends 0 steps = true)
    (hlinks : t.LinkFree base) :
    place = base.after steps ∧ place.isWithin base = true := by
  have hwithin : ∀ front rest, steps = front ++ rest →
      (base.after front).isWithin base = true := by
    rintro front rest rfl
    exact isWithin_after_of_descends front rest hdescends
  rcases eq_after_of_follow h with rfl | ⟨front, name, rest, target, hsteps, hlink⟩
  · exact ⟨rfl, hwithin steps [] (List.append_nil _).symm⟩
  · -- The link would be at a place that the steps do not lead out to.
    have hmet := hwithin (front ++ [.into name]) rest (by rw [hsteps, List.append_assoc]; rfl)
    exact absurd hlink (hlinks _ hmet target)

end FileTree

/-! ## Joined paths -/

namespace Path

/-- A joined path has the characters of its front. -/
theorem hasNul_of_join {p q : Path} (h : (p.join q).hasNul = false) (hq : q.isAbsolute = false) :
    p.hasNul = false := by
  unfold join at h
  rw [hq] at h
  cases hlast : p.text.toList.getLast? with
  | none =>
    have hempty : p.text.toList = [] := List.getLast?_eq_none_iff.1 hlast
    simp [hasNul, hempty]
  | some c =>
    simp only [hlast, Bool.false_eq_true, if_false] at h
    split at h <;> simp_all [hasNul]

/-- The steps of a text without slashes that is more than dots are one, into the name. -/
theorem steps_of_name {p : Path} (hslash : '/' ∉ p.text.toList)
    (hname : ∃ c ∈ p.text.toList, c ≠ '.') : p.isAbsolute = false ∧ p.steps = [.into p.text] := by
  obtain ⟨c, hc, hdot⟩ := hname
  have hrelative : p.isAbsolute = false := by
    unfold isAbsolute
    cases hp : p.text.toList with
    | nil => rfl
    | cons d ds =>
      have hd : d ≠ '/' := by
        rintro rfl
        exact hslash (hp ▸ List.mem_cons_self)
      simpa using hd
  obtain ⟨hidle, hup⟩ := idle_of_mem hc hdot
  refine ⟨hrelative, ?_⟩
  rw [steps_eq, written_of_not_isAbsolute hrelative, Text.splitAt_of_not_mem hslash,
    List.map_singleton, stepOf_of_named hidle hup, String.ofList_toList]

/-- A relative path that names something does so from the directory that it is joined to. -/
theorem follow_of_resolve_join {t : FileTree} {p q : Path} {place : Place}
    (h : t.resolve (p.join q) = .ok place) (hq : q.isAbsolute = false) (hp : p.text ≠ "") :
    ∃ here left, t.resolve p = .ok here ∧
      t.follow left here q.steps = .ok (.existing place) := by
  obtain ⟨front, hsteps, hfront⟩ := steps_join p hq
  obtain ⟨hnul, -, hfollow⟩ := FileTree.target_eq_ok_iff.1 (FileTree.resolve_eq_ok_iff.1 h)
  rw [hsteps] at hfollow
  rcases FileTree.follow_append hfollow with ⟨here, left, hhere, hmore⟩ | ⟨_, _, -, hvacant⟩
  · refine ⟨here, left, ?_, hmore⟩
    rw [FileTree.resolve_eq_ok_iff, FileTree.target_eq_ok_iff]
    refine ⟨hasNul_of_join hnul hq, hp, ?_⟩
    rcases hfront with hsame | hstay
    · rw [hsame, hhere]
    · have hdirectory : t.node? here = some .directory := by
        obtain ⟨step, rest, hcons⟩ : ∃ step rest, q.steps = step :: rest := by
          refine List.exists_cons_of_ne_nil fun hnil => ?_
          rw [steps_eq, written_of_not_isAbsolute hq, List.map_eq_nil_iff] at hnil
          exact Text.splitAt_ne_nil _ _ hnil
        rw [hcons] at hmore
        exact FileTree.node?_of_follow_cons hmore
      obtain ⟨more, hstays⟩ := FileTree.follow_append_of_existing hhere [.stay]
      rw [hstay, hstays, FileTree.follow_succ, FileTree.walk_stay hdirectory]
      rfl
  · nomatch hvacant

end Path

end MailTemplates
