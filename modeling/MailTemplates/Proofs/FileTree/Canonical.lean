import MailTemplates.Proofs.FileTree.Unlinked
/-!
# Canonical paths

A place that a path names has proper names only: each is a step into it
(`Place.proper_of_resolve`). So the canonical path of such a place has the names of the place as its
parts (`Path.parts_path`), its parent is the canonical path of the place above
(`Path.parent_path_concat`), and going up from it comes through all places above, the nearest first
(`Path.ancestors_path`). A name without slashes that is joined to it is the canonical path of that
name in the directory (`Path.join_path`).

Proper names are what makes the texts of paths harmless: a name that is not empty, is no dots and
has no slash is one part of a path, and a step into itself. That the names of a place are proper
does not hold of every tree, as a node may be put anywhere. It holds of the places that walks arrive
at, since each name on the way was a step (`Place.proper_of_walk`), and so of all that is used here.
-/

namespace MailTemplates

open Text (splitAt)

/-! ## Proper names -/

namespace Place

/-- Whether a name is a step into it: it is not empty, has no slash, and is neither `.` nor `..`. -/
def ProperName (name : String) : Prop :=
  '/' ∉ name.toList ∧ Path.stepOf name.toList = .into name

/-- Whether all names of a place are proper. -/
def Proper (place : Place) : Prop := ∀ name ∈ place, ProperName name

/-- A place is proper if the one above it and the last name are. -/
theorem proper_concat_iff {place : Place} {name : String} :
    Proper (place ++ [name]) ↔ place.Proper ∧ ProperName name := by
  unfold Proper
  rw [List.forall_mem_append, List.forall_mem_singleton]

theorem Proper.of_prefix {place above : Place} (h : place.Proper) (habove : above <+: place) :
    above.Proper := fun name hname => h name (habove.subset hname)

/-- A proper name is neither empty nor a dot. -/
theorem ProperName.idle_eq_false {name : String} (h : ProperName name) :
    Path.idle name.toList = false := by
  cases hidle : Path.idle name.toList with
  | false => rfl
  | true =>
    have hstep := h.2
    rw [Path.stepOf, hidle, if_pos rfl] at hstep
    cases hstep

end Place

/-!
## Where walks arrive

A link leads on with the steps of its target, and these are steps of a path, so they are into proper
names as well.
-/

namespace FileTree

variable {t : FileTree}

/-- Steps into proper names lead to proper places, as far as they go. -/
theorem proper_of_walk {here : Place} {steps : List Step} (hhere : here.Proper)
    (hsteps : ∀ name, .into name ∈ steps → Place.ProperName name) :
    (∀ place, t.walk here steps = .arrived place → place.Proper) ∧
      ∀ directory target rest, t.walk here steps = .atLink directory target rest →
        directory.Proper ∧ rest ⊆ steps := by
  induction steps generalizing here with
  | nil =>
    refine ⟨?_, fun _ _ _ h => nomatch h⟩
    rintro place ⟨⟩
    exact hhere
  | cons step rest ih =>
    have hrest : ∀ name, .into name ∈ rest → Place.ProperName name :=
      fun name hname => hsteps name (List.mem_cons_of_mem _ hname)
    -- What holds of the rest of the way from a proper place holds of the whole way.
    have hstart : ∀ next : Place, next.Proper → t.walk here (step :: rest) = t.walk next rest →
        (∀ place, t.walk here (step :: rest) = .arrived place → place.Proper) ∧
          ∀ directory target rest', t.walk here (step :: rest) = .atLink directory target rest' →
            directory.Proper ∧ rest' ⊆ step :: rest := by
      intro next hnext hwalk
      obtain ⟨harrived, hlink⟩ := ih hnext hrest
      rw [hwalk]
      refine ⟨harrived, fun directory target more h => ?_⟩
      obtain ⟨hdirectory, hmore⟩ := hlink directory target more h
      exact ⟨hdirectory, List.Subset.trans hmore (List.subset_cons_self _ _)⟩
    -- The walk goes on from a proper place, unless it ends at a link.
    by_cases hdirectory : t.node? here = some .directory
    · cases step with
      | stay => exact hstart here hhere (walk_stay hdirectory rest)
      | up =>
        exact hstart here.dropLast (hhere.of_prefix (List.dropLast_prefix here))
          (walk_up hdirectory rest)
      | into name =>
        have hname : (here ++ [name]).Proper :=
          Place.proper_concat_iff.2 ⟨hhere, hsteps name List.mem_cons_self⟩
        have hwalk := walk_into hdirectory rest name
        split at hwalk
        · rw [hwalk]
          exact ⟨nofun, nofun⟩
        · split at hwalk
          · rw [hwalk]
            exact ⟨nofun, nofun⟩
          · rw [hwalk]
            refine ⟨nofun, ?_⟩
            rintro directory target more ⟨⟩
            exact ⟨hhere, List.subset_cons_self _ _⟩
          · exact hstart _ hname hwalk
    · rw [walk_cons_of_not_directory hdirectory]
      exact ⟨nofun, nofun⟩

/-- Following links reaches proper places only. The induction is on the number of links. -/
theorem proper_of_follow {links : Nat} {here place : Place} {steps : List Step}
    (h : t.follow links here steps = .ok (.existing place)) (hhere : here.Proper)
    (hsteps : ∀ name, .into name ∈ steps → Place.ProperName name) : place.Proper := by
  induction links generalizing here steps with
  | zero => nomatch h
  | succ links ih =>
    obtain ⟨harrived, hlink⟩ := proper_of_walk (t := t) hhere hsteps
    rw [follow_succ] at h
    split at h
    · next q hwalk =>
      cases h
      exact harrived _ hwalk
    · nomatch h
    · nomatch h
    · next directory target rest hwalk =>
      obtain ⟨hdirectory, hrest⟩ := hlink _ _ _ hwalk
      -- The steps of a link are those of a path too.
      refine ih h ?_ ?_
      · split
        · exact nofun
        · exact hdirectory
      · intro name hname
        rcases List.mem_append.1 hname with htarget | hmore
        · exact Path.proper_of_into_mem_steps htarget
        · exact hsteps name (hrest hmore)

/-- Every place that a path resolves to is proper. -/
theorem proper_of_resolve {p : Path} {place : Place} (h : t.resolve p = .ok place) :
    place.Proper := by
  obtain ⟨-, -, hfollow⟩ := target_eq_ok_iff.1 (resolve_eq_ok_iff.1 h)
  exact proper_of_follow hfollow nofun fun _ => Path.proper_of_into_mem_steps

end FileTree

/-!
## Going up from a canonical path

Taking the parent of a canonical path takes its last name, and the root has no parent.
-/

namespace Place

/-- A place and those above it, the nearest first. -/
def upwards (place : Place) : List Place :=
  (List.range (place.length + 1)).map fun n => place.take (place.length - n)

/-- Going upwards starts with the place itself. -/
theorem upwards_concat (place : Place) (name : String) :
    upwards (place ++ [name]) = (place ++ [name]) :: place.upwards := by
  unfold upwards
  rw [List.length_append, List.length_singleton, List.range_succ_eq_map, List.map_cons,
    List.map_map, Nat.sub_zero, List.take_of_length_le (by simp)]
  refine congrArg _ (List.map_congr_left fun n hn => ?_)
  have hlen : place.length + 1 - (n + 1) ≤ place.length := by omega
  show (place ++ [name]).take (place.length + 1 - (n + 1)) = _
  rw [List.take_append_of_le_length hlen, Nat.add_sub_add_right]

end Place

namespace Path

/-- The path of a place has the names of the place as parts. -/
theorem written_path {place : Place} (hplace : place ≠ []) (h : place.Proper) :
    place.path.written = place.map String.toList := by
  rw [written_eq, body_path, Text.splitAt_intercalate (mt List.map_eq_nil_iff.1 hplace)]
  intro part hpart
  obtain ⟨name, hname, rfl⟩ := List.mem_map.1 hpart
  exact (h name hname).1

theorem parts_path {place : Place} (h : place.Proper) :
    place.path.parts = place.map String.toList := by
  by_cases hplace : place = []
  · subst hplace
    decide +kernel
  · unfold parts
    rw [written_path hplace h, List.filter_eq_self]
    intro part hpart
    obtain ⟨name, hname, rfl⟩ := List.mem_map.1 hpart
    rw [(h name hname).idle_eq_false]
    rfl

/-- Nothing is dropped at the end of a proper place. -/
theorem dropIdleEnd_of_proper {place : Place} (h : place.Proper) :
    dropIdleEnd (place.map String.toList) = place.map String.toList := by
  unfold dropIdleEnd
  rcases List.eq_nil_or_concat place with rfl | ⟨above, name, rfl⟩
  · rfl
  · rw [List.concat_eq_append] at h ⊢
    have hname := (Place.proper_concat_iff.1 h).2.idle_eq_false
    rw [List.map_append, List.reverse_append, List.map_singleton, List.reverse_singleton,
      List.singleton_append, List.dropWhile_cons_of_neg (by simp [hname]), ← List.reverse_concat,
      List.reverse_reverse]

theorem parent_path_nil : (Place.path []).parent = none := by decide +kernel

theorem ofWritten_map (place : Place) :
    ofWritten true (place.map String.toList) = place.path := by
  have htext : (ofWritten true (place.map String.toList)).text = place.path.text := by
    rw [← String.toList_inj, toList_path, ofWritten, String.toList_ofList]
    rfl
  exact congrArg Path.mk htext

/-- The parent of the path of a place is the path of the place above. -/
theorem parent_path_concat {place : Place} {name : String} (h : Place.Proper (place ++ [name])) :
    (Place.path (place ++ [name])).parent = some place.path := by
  have hplace : place.Proper := (Place.proper_concat_iff.1 h).1
  unfold parent
  rw [written_path (by simp) h, dropIdleEnd_of_proper h, isAbsolute_path, List.map_append,
    List.map_singleton]
  split
  · next hnil => exact absurd hnil (by simp)
  · rw [List.dropLast_concat, dropIdleEnd_of_proper hplace, ofWritten_map]

/-- The ancestors of the path of a place are the paths of the places above it. -/
theorem ancestorsFrom_path {place : Place} (h : place.Proper) {n : Nat} (hn : place.length ≤ n) :
    ancestorsFrom n place.path = place.upwards.map Place.path := by
  induction n generalizing place with
  | zero =>
    obtain rfl := List.eq_nil_of_length_eq_zero (Nat.le_zero.1 hn)
    rfl
  | succ n ih =>
    rcases List.eq_nil_or_concat place with rfl | ⟨above, name, rfl⟩
    · rw [ancestorsFrom, parent_path_nil]
      rfl
    · rw [List.concat_eq_append] at h hn ⊢
      have habove : above.length ≤ n := by
        rw [List.length_append, List.length_singleton] at hn
        omega
      rw [ancestorsFrom, parent_path_concat h, Place.upwards_concat, List.map_cons,
        ← ih (Place.proper_concat_iff.1 h).1 habove]

/-- Going up from a canonical path comes through all places above, the nearest first. -/
theorem ancestors_path {place : Place} (h : place.Proper) :
    place.path.ancestors = place.upwards.map Place.path := by
  refine ancestorsFrom_path h ?_
  by_cases hplace : place = []
  · subst hplace
    exact Nat.zero_le _
  · have hlen : place.path.written.length = place.length := by
      rw [written_path hplace h, List.length_map]
    exact Nat.le_of_eq hlen.symm

/-! ## Names in a directory -/

theorem isAbsolute_eq_false_of_not_mem {name : String} (h : '/' ∉ name.toList) :
    (⟨name⟩ : Path).isAbsolute = false := by
  unfold isAbsolute
  cases hname : name.toList with
  | nil => rfl
  | cons c cs =>
    have hc : c ≠ '/' := by
      rintro rfl
      exact h (hname ▸ List.mem_cons_self)
    simpa using hc

/-- The text of the path of a place grows by a slash and a name. -/
theorem toList_path_concat {place : Place} (hplace : place ≠ []) (name : String) :
    (Place.path (place ++ [name])).text.toList = place.path.text.toList ++ '/' :: name.toList := by
  have hmap : place.map String.toList ≠ [] := mt List.map_eq_nil_iff.1 hplace
  rw [toList_path, toList_path, List.map_append, List.map_singleton,
    Text.intercalate_append hmap (List.cons_ne_nil _ _), List.intercalate_singleton,
    List.append_assoc, List.singleton_append, List.cons_append]

/-- The canonical path of a place other than the root ends in the last name of it. -/
theorem exists_toList_path_eq (place : Place) (name : String) :
    ∃ front, (Place.path (place ++ [name])).text.toList = front ++ name.toList := by
  by_cases hplace : place = []
  · subst hplace
    refine ⟨['/'], ?_⟩
    rw [toList_path, List.nil_append, List.map_singleton, List.intercalate_singleton,
      List.singleton_append]
  · refine ⟨place.path.text.toList ++ ['/'], ?_⟩
    rw [toList_path_concat hplace, List.append_assoc, List.singleton_append]

/-- A name without slashes, seen from the canonical path of a directory, is the canonical path of
the name in it. -/
theorem join_path {place : Place} (h : place.Proper) {name : String} (hname : '/' ∉ name.toList) :
    place.path.join ⟨name⟩ = Place.path (place ++ [name]) := by
  unfold join
  rw [isAbsolute_eq_false_of_not_mem hname, if_neg Bool.false_ne_true]
  rcases List.eq_nil_or_concat place with rfl | ⟨above, last, rfl⟩
  · rfl
  · rw [List.concat_eq_append] at h ⊢
    obtain ⟨front, hfront⟩ := exists_toList_path_eq above last
    obtain ⟨hslash, hstep⟩ := (Place.proper_concat_iff.1 h).2
    have hlast : last.toList ≠ [] := by
      intro hnil
      rw [hnil] at hstep
      nomatch hstep
    -- The path does not end in a slash, so one is put between.
    have hgetLast : (Place.path (above ++ [last])).text.toList.getLast? =
        some (last.toList.getLast hlast) := by
      rw [hfront, List.getLast?_append, List.getLast?_eq_some_getLast hlast]
      rfl
    have hne : last.toList.getLast hlast ≠ '/' := fun heq =>
      hslash (heq ▸ List.getLast_mem hlast)
    have htext : (Place.path (above ++ [last])).text ++ "/" ++ name =
        (Place.path (above ++ [last] ++ [name])).text := by
      rw [← String.toList_inj, toList_path_concat (by simp), String.toList_append,
        String.toList_append, List.append_assoc]
      rfl
    rw [hgetLast]
    split
    · next hnone => nomatch hnone
    · next hsome => exact absurd (Option.some.inj hsome) hne
    · exact congrArg Path.mk htext

end Path

end MailTemplates
