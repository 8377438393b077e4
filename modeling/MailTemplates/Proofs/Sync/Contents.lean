import MailTemplates.Proofs.Sync.Watching
import Mathlib.Data.List.Nodup
/-!
# What a store holds after publishing

The contents of a store are the active contents by id. A store that replaces contents is changed by
a successful publish at one id only. So after publishing, the content of an id is that of the last
accepted publish of that id, in the order in which the workers ended, or what it was before
(`contents_publish`).

If no two of the published templates share an id then no order is left in this: each id holds what
its own publish made of it (`contents_publish_of_mem`).

Main statements: `contents_publish`, `contents_publish_of_mem` and `contents_publish_of_not_mem`.
-/

namespace MailTemplates

variable {S : Type}

/-- A successful publish makes its content the active one of its id, and leaves every other id
alone. -/
structure Store.Replaces (store : Store S) (contents : S → String → Option String) : Prop where
  accepted : ∀ t content version s, (store.publish t content version s).2 = .ok () →
    contents (store.publish t content version s).1 =
      Function.update (contents s) t.id (some content)

/-- A store that replaces contents, in which a publish that fails changes nothing and a fetch gives
the active content, empty if there is none. -/
structure Store.Keeps (store : Store S) (contents : S → String → Option String) : Prop
    extends store.Replaces contents where
  refused : ∀ t content version s halt, (store.publish t content version s).2 = .error halt →
    contents (store.publish t content version s).1 = contents s
  fetched : ∀ t s, (store.fetch t s).2 = .ok ((contents s t.id).getD "")
  contents_fetch : ∀ t s, contents (store.fetch t s).1 = contents s

/-! ## The store in memory -/

namespace Memory

/-- The active contents of a store in memory. -/
def contents (memory : Memory) (id : String) : Option String :=
  (memory.active.lookup id).bind Except.toOption

/-- A version that is published in memory is the content of its template. -/
theorem contents_publish_ok (t : Template) (content version : String) (memory : Memory)
    (h : (publish t content version memory).2 = .ok ()) :
    (publish t content version memory).1.contents =
      Function.update memory.contents t.id (some content) := by
  funext id
  cases hrefused : memory.refused.lookup t.id with
  | some halt =>
    rw [publish, hrefused] at h
    cases h
  | none =>
    simp only [publish, hrefused]
    by_cases hid : id = t.id
    · subst hid
      rw [Function.update_self]
      simp [contents, set, Except.toOption]
    · have hkey : (id == t.id) = false := beq_false_of_ne hid
      rw [Function.update_of_ne hid]
      simp only [contents, set, List.lookup_cons, hkey, lookup_filter_ne memory.active hid]

/-- The store in memory replaces contents. -/
theorem store_replaces : store.Replaces contents := ⟨contents_publish_ok⟩

/-- The store in memory, with fetches that never fail. -/
def steady : Store Memory where
  fetch t memory := (memory, .ok ((memory.contents t.id).getD ""))
  publish := publish

/-- And the store that never refuses also keeps them. -/
theorem steady_keeps : steady.Keeps contents where
  accepted := contents_publish_ok
  refused t content version memory halt h := by
    cases hrefused : memory.refused.lookup t.id with
    | some halt => simp only [steady, publish, hrefused]
    | none =>
      simp only [steady, publish, hrefused] at h
      cases h
  fetched _ _ := rfl
  contents_fetch _ _ := rfl

end Memory

/-!
## The last write

A publication that succeeds sets the content of its id and of no other. So after all of them an id
holds what the last one made of it, in the order of the schedule.
-/

/-- What publishing a comparable makes of the contents. -/
def landed (contents : String → Option String) (c : Comparable) :
    Outcome Unit → String → Option String
  | .ok () => Function.update contents c.template.id (some c.content)
  | .error _ => contents

/-- What the publish of a comparable writes at an id. -/
def landing (id : String) (c : Comparable) : Outcome Unit → Option String
  | .ok () => if c.template.id = id then some c.content else none
  | .error _ => none

/-- A publication lands under its id if it succeeds. -/
theorem landing_eq_some_iff {id content : String} {c : Comparable} {o : Outcome Unit} :
    landing id c o = some content ↔ o = .ok () ∧ c.template.id = id ∧ c.content = content := by
  rcases o with _ | ⟨⟩
  · exact ⟨nofun, fun h => nomatch h.1⟩
  · simp [landing]

/-- What is stored under an id is what has landed there, or what was there before. -/
theorem landed_apply (contents : String → Option String) (c : Comparable) (o : Outcome Unit)
    (id : String) : landed contents c o id = (landing id c o).or (contents id) := by
  rcases o with _ | ⟨⟩
  · rfl
  · by_cases h : c.template.id = id
    · subst h
      simp [landed, landing]
    · rw [landed, landing, if_neg h, Function.update_of_ne (Ne.symm h)]
      rfl

/-- Of writes one after another, the last one at an id counts. -/
theorem foldl_landed (es : List (Comparable × Outcome Unit)) (contents : String → Option String)
    (id : String) :
    es.foldl (fun v e => landed v e.1 e.2) contents id =
      (es.reverse.findSome? fun e => landing id e.1 e.2).or (contents id) := by
  -- The first write is the last that the reversed search comes to.
  induction es generalizing contents with
  | nil => rfl
  | cons e es ih =>
    rw [List.foldl_cons, ih, landed_apply, List.reverse_cons, List.findSome?_append,
      Option.or_assoc]
    congr 2
    rw [List.findSome?_cons]
    cases landing id e.1 e.2 <;> rfl

/-- What a search finds is known if every item gives it or nothing. -/
theorem findSome?_eq_of_forall {α β : Type} {f : α → Option β} {l : List α} {x : Option β}
    (hle : ∀ a ∈ l, ∀ b, f a = some b → x = some b)
    (hex : ∀ b, x = some b → ∃ a ∈ l, f a = some b) : l.findSome? f = x := by
  cases h : l.findSome? f with
  | some b =>
    obtain ⟨a, ha, hb⟩ := List.exists_of_findSome?_eq_some h
    exact (hle a ha b hb).symm
  | none =>
    cases x with
    | none => rfl
    | some b =>
      obtain ⟨a, ha, hb⟩ := hex b rfl
      rw [List.findSome?_eq_none_iff.1 h a ha] at hb
      nomatch hb

namespace Sync

/-!
## Publishing

The same for a run of publications, with the two cases that come up: all have succeeded, or each id
is published at most once.
-/

/-- The published comparables in the order in which their publishes end, with what comes of each. -/
def landings (schedule : Schedule) (store : Store S) (changed : List Comparable)
    (version : String) (s : S) : List (Comparable × Outcome Unit) :=
  endings schedule changed (fun c => store.publish c.template c.content version) s

/-- The landings are the changed templates with their results, in the order in which they end. -/
theorem perm_landings (schedule : Schedule) (store : Store S) (changed : List Comparable)
    (version : String) (s : S) :
    (landings schedule store changed version s).Perm
      (changed.zip (published schedule store changed version s)) :=
  perm_endings schedule changed _ s

/-- The last landing counts; which ones there are does not depend on the order. -/
theorem mem_reverse_landings {schedule : Schedule} {store : Store S} {changed : List Comparable}
    {version : String} {s : S} {e : Comparable × Outcome Unit} :
    e ∈ (landings schedule store changed version s).reverse ↔
      e ∈ changed.zip (published schedule store changed version s) := by
  rw [List.mem_reverse, (perm_landings ..).mem_iff]

/-- Everything that is published has a result. -/
theorem map_fst_zip_published (schedule : Schedule) (store : Store S) (changed : List Comparable)
    (version : String) (s : S) :
    (changed.zip (published schedule store changed version s)).map Prod.fst = changed :=
  List.map_fst_zip (Nat.le_of_eq (length_published ..).symm)

/-- A store in memory that refuses nothing takes everything, in every order. -/
theorem published_of_refused_nil (schedule : Schedule) (changed : List Comparable)
    (version : String) {memory : Memory} (h : memory.refused = []) :
    ∀ r ∈ published schedule Memory.store changed version memory, r = .ok () := by
  have hok : ∀ t content version memory, memory.refused = [] →
      (Memory.publish t content version memory).1.refused = [] ∧
        (Memory.publish t content version memory).2 = .ok () := by
    intro t content version memory hnone
    simp only [Memory.publish, hnone, List.lookup_nil, Memory.set, and_self]
  intro r hr
  rw [published, settle_results] at hr
  obtain ⟨e, -, rfl⟩ := List.mem_map.1 hr
  refine (hok _ _ _ _ (startOf_invariant (P := fun m : Memory => m.refused = []) ?_ h e.2)).2
  intro w hw memory hnone
  obtain ⟨c, -, rfl⟩ := List.mem_map.1 hw
  exact (hok _ _ _ _ hnone).1

section Contents

variable {store : Store S} {contents : S → String → Option String} {schedule : Schedule}
  {changed : List Comparable} {version : String} {s : S}

/-- In a store that replaces contents, if all publications succeed, an id has the last content that
landed. -/
theorem contents_publish_of_ok (h : store.Replaces contents)
    (hall : ∀ r ∈ published schedule store changed version s, r = .ok ()) (id : String) :
    contents (publish schedule store changed version s).1 id =
      ((landings schedule store changed version s).reverse.findSome? fun e =>
        landing id e.1 e.2).or (contents s id) := by
  rw [← foldl_landed]
  refine congrFun (view_settle_of contents landed (· = .ok ()) schedule ?_ s hall) id
  intro c _ s hok
  rw [hok]
  exact h.accepted c.template c.content version s hok

/-- If the publishes of one id agree on its content, no order is left in what it holds. -/
theorem contents_publish_of_agree (h : store.Replaces contents)
    (hall : ∀ r ∈ published schedule store changed version s, r = .ok ())
    (hagree : ∀ c ∈ changed, ∀ d ∈ changed, c.template.id = d.template.id → c.content = d.content)
    (id : String) :
    contents (publish schedule store changed version s).1 id =
      ((changed.find? fun c => c.template.id = id).map Comparable.content).or (contents s id) := by
  rw [contents_publish_of_ok h hall]
  congr 1
  -- The last publication of an id and its first comparable have one content, and the one exists if
  -- the other does.
  apply findSome?_eq_of_forall
  · intro e he content hland
    obtain ⟨-, hid, hcontent⟩ := landing_eq_some_iff.1 hland
    have hmem : e.1 ∈ changed := (List.of_mem_zip (mem_reverse_landings.1 he)).1
    cases hfind : changed.find? fun c => c.template.id = id with
    | none => exact absurd hid (by simpa using List.find?_eq_none.1 hfind e.1 hmem)
    | some d =>
      have hd : d.template.id = id := by simpa using List.find?_some hfind
      rw [Option.map_some, ← hcontent]
      exact congrArg some (hagree d (List.mem_of_find?_eq_some hfind) e.1 hmem (hd.trans hid.symm))
  · intro content hfind
    obtain ⟨c, hc, rfl⟩ := Option.map_eq_some_iff.1 hfind
    have hmem := List.mem_of_find?_eq_some hc
    have hid : c.template.id = id := by simpa using List.find?_some hc
    rw [← map_fst_zip_published schedule store changed version s] at hmem
    obtain ⟨⟨c, o⟩, hzip, rfl⟩ := List.mem_map.1 hmem
    have ho : o = .ok () := hall o (List.of_mem_zip hzip).2
    exact ⟨(c, o), mem_reverse_landings.2 hzip, landing_eq_some_iff.2 ⟨ho, hid, rfl⟩⟩

/-- The publish that ends last is the one that counts. -/
theorem contents_publish_of_last (h : store.Replaces contents)
    (hall : ∀ r ∈ published schedule store changed version s, r = .ok ()) {rest : List Nat}
    {i : Nat} (hlast : schedule.order changed.length = rest ++ [i]) {c : Comparable}
    (hc : changed[i]? = some c) :
    contents (publish schedule store changed version s).1 c.template.id = some c.content := by
  let results := published schedule store changed version s
  have hlt : i < results.length := by
    rw [length_published]
    exact (List.getElem?_eq_some_iff.1 hc).1
  have hr : results[i]? = some (.ok ()) := by
    rw [List.getElem?_eq_getElem hlt, hall _ (List.getElem_mem hlt)]
  have hpair : (changed.zip results)[i]? = some (c, .ok ()) :=
    List.getElem?_zip_eq_some.2 ⟨hc, hr⟩
  have hlandings : (landings schedule store changed version s).reverse =
      (c, .ok ()) :: (rest.filterMap fun j => (changed.zip results)[j]?).reverse := by
    have hends : landings schedule store changed version s =
        (rest ++ [i]).filterMap fun j => (changed.zip results)[j]? := by
      rw [← hlast]
      exact endings_eq schedule changed _ s
    rw [hends, List.filterMap_append, List.filterMap_cons_some hpair, List.filterMap_nil,
      List.reverse_append]
    rfl
  rw [contents_publish_of_ok h hall, hlandings, List.findSome?_cons, landing, if_pos rfl]
  rfl

/-- In a store that keeps what it has, the same holds whatever is refused. -/
theorem contents_publish (h : store.Keeps contents) (id : String) :
    contents (publish schedule store changed version s).1 id =
      ((landings schedule store changed version s).reverse.findSome? fun e =>
        landing id e.1 e.2).or (contents s id) := by
  rw [← foldl_landed]
  refine congrFun (view_settle contents landed schedule ?_ s) id
  intro c _ s
  cases hr : (store.publish c.template c.content version s).2 with
  | error halt => exact h.refused c.template c.content version s halt hr
  | ok u => exact h.accepted c.template c.content version s hr

/-- An id that is published once holds what that publish made of it. -/
theorem contents_publish_of_mem (h : store.Keeps contents)
    (hids : (changed.map fun c => c.template.id).Nodup) {c : Comparable} {o : Outcome Unit}
    (hc : (c, o) ∈ changed.zip (published schedule store changed version s)) :
    contents (publish schedule store changed version s).1 c.template.id =
      landed (contents s) c o c.template.id := by
  have hkeys : ((changed.zip (published schedule store changed version s)).map
      fun e => e.1.template.id).Nodup := by
    rw [← map_fst_zip_published schedule store changed version s, List.map_map] at hids
    exact hids
  rw [contents_publish h, landed_apply]
  congr 1
  -- No other landing has the id, so the search finds this one wherever it stands.
  apply findSome?_eq_of_forall
  · intro e he content hland
    have hid := (landing_eq_some_iff.1 hland).2.1
    have heq : (c, o) = e := List.inj_on_of_nodup_map hkeys hc (mem_reverse_landings.1 he) hid.symm
    rw [← heq] at hland
    exact hland
  · intro content hland
    exact ⟨(c, o), mem_reverse_landings.2 hc, hland⟩

/-- An id that is not published keeps its content. -/
theorem contents_publish_of_not_mem (h : store.Keeps contents) {id : String}
    (hid : ∀ c ∈ changed, c.template.id ≠ id) :
    contents (publish schedule store changed version s).1 id = contents s id := by
  rw [contents_publish h, List.findSome?_eq_none_iff.2]
  · rfl
  · intro e he
    have hmem : e.1 ∈ changed := (List.of_mem_zip (mem_reverse_landings.1 he)).1
    cases hland : landing id e.1 e.2 with
    | none => rfl
    | some content => exact absurd (landing_eq_some_iff.1 hland).2.1 (hid e.1 hmem)

end Contents

end Sync

end MailTemplates
