import MailTemplates.Json.Parser
import MailTemplates.Proofs.Fallible
/-!
# The order of members

The members of an object stand in the order of their keys, each key once. Setting a member keeps
this order (`Members.ordered_insert`), so all objects in a value that was read have it
(`ordered_of_parse`). This holds of values that are read as everything does that the parts of a
value pass on to it (`Cursor.Inherited`).

Members in order are known by what is found under each key (`Members.get?_eq_some_iff`), and there
is one order only: members that are the same apart from their order are the same once they are put
in order (`Members.ofList_eq_of_perm`).

The parser is one recursion over values, items and members, with fuel. An invariant of what it reads
is proved for it once (`Cursor.Inherited.valueFrom`): whoever wants to know something of all values
that are read gives the rules by which it passes from parts to the whole. Order is the one instance
here, the form of numbers is another.

Main statements: `Members.ofList_eq_of_perm` and `ordered_of_parse`.
-/

namespace MailTemplates

namespace Members

/-- Whether the keys of members ascend; then no key is there twice. -/
def Ordered (ms : Members) : Prop := ms.Pairwise fun a b => a.1 < b.1

section Insert

variable {ms : Members} {key : String} {value : Json}

/-- Setting a member adds no other. -/
theorem mem_of_mem_insert {m : String × Json} (h : m ∈ ms.insert key value) :
    m = (key, value) ∨ m ∈ ms := by
  induction ms with
  | nil => exact .inl (List.mem_singleton.1 h)
  | cons first rest ih =>
    obtain ⟨k, v⟩ := first
    unfold insert at h
    split at h
    · rcases List.mem_cons.1 h with hnew | hrest
      · exact .inl hnew
      · exact .inr (List.mem_cons_of_mem _ hrest)
    · split at h
      · rcases List.mem_cons.1 h with hnew | hold
        · exact .inl hnew
        · exact .inr hold
      · rcases List.mem_cons.1 h with hfirst | hrest
        · exact .inr (List.mem_cons.2 (.inl hfirst))
        · exact (ih hrest).imp_right (List.mem_cons_of_mem _)

/-- Setting a member keeps the keys in order. The new key is put in front of the first greater one,
or takes the place of its like. -/
theorem ordered_insert (h : ms.Ordered) : (ms.insert key value).Ordered := by
  induction ms with
  | nil => exact List.pairwise_singleton _ _
  | cons first rest ih =>
    obtain ⟨k, v⟩ := first
    obtain ⟨hfirst, hrest⟩ := List.pairwise_cons.1 h
    unfold insert
    -- The key is that of the first member, or goes before it, or goes on behind it.
    split
    · next heq =>
      subst heq
      exact List.pairwise_cons.2 ⟨hfirst, hrest⟩
    · next hne =>
      split
      · next hlt =>
        refine List.pairwise_cons.2 ⟨?_, h⟩
        intro m hm
        rcases List.mem_cons.1 hm with rfl | hmem
        · exact hlt
        · exact String.lt_trans hlt (hfirst m hmem)
      · next hge =>
        have hgt : k < key :=
          String.not_le.1 fun hle => hne (String.le_antisymm hle (String.not_lt.1 hge))
        refine List.pairwise_cons.2 ⟨?_, ih hrest⟩
        intro m hm
        rcases mem_of_mem_insert hm with rfl | hmem
        · exact hgt
        · exact hfirst m hmem

/-- Setting a member under a new key adds it and takes none away. -/
theorem perm_insert (h : ∀ m ∈ ms, m.1 ≠ key) :
    (ms.insert key value).Perm ((key, value) :: ms) := by
  induction ms with
  | nil => exact .refl _
  | cons first rest ih =>
    obtain ⟨k, v⟩ := first
    rw [List.forall_mem_cons] at h
    unfold insert
    rw [if_neg (Ne.symm h.1)]
    -- It goes in front of the first member, or somewhere behind it.
    split
    · exact .refl _
    · exact ((ih h.2).cons _).trans (.swap ..)

end Insert

/-- What is found under a key is there. -/
theorem mem_of_get? {ms : Members} {key : String} {value : Json} (h : ms.get? key = some value) :
    (key, value) ∈ ms := by
  induction ms with
  | nil => nomatch h
  | cons first rest ih =>
    obtain ⟨k, v⟩ := first
    unfold get? at h
    split at h
    · next heq =>
      cases h
      exact heq ▸ List.mem_cons_self
    · exact List.mem_cons_of_mem _ (ih h)

/-- In members in order, those are found that are there. In members that are not in order one of two
equal keys would be hidden. -/
theorem get?_eq_some_iff {ms : Members} (h : ms.Ordered) {key : String} {value : Json} :
    ms.get? key = some value ↔ (key, value) ∈ ms := by
  refine ⟨mem_of_get?, fun hmem => ?_⟩
  induction ms with
  | nil => nomatch hmem
  | cons first rest ih =>
    obtain ⟨k, v⟩ := first
    obtain ⟨hfirst, hrest⟩ := List.pairwise_cons.1 h
    unfold get?
    rcases List.mem_cons.1 hmem with heq | hmem
    · cases heq
      rw [if_pos rfl]
    · have hlt : k < key := hfirst _ hmem
      rw [if_neg (fun heq => String.lt_irrefl _ (heq ▸ hlt)), ih hrest hmem]

/-- Members in order have different keys. -/
theorem nodup_of_ordered {ms : Members} (h : ms.Ordered) : (ms.map Prod.fst).Nodup := by
  rw [List.nodup_iff_pairwise_ne, List.pairwise_map]
  refine h.imp ?_
  intro a b hlt heq
  rw [heq] at hlt
  exact String.lt_irrefl _ hlt

section OfList

theorem ordered_foldl_insert (es : List (String × Json)) {ms : Members} (h : ms.Ordered) :
    (es.foldl (fun ms e => ms.insert e.1 e.2) ms).Ordered := by
  induction es generalizing ms with
  | nil => exact h
  | cons e es ih => exact ih (ordered_insert h)

/-- Members that are put in order are in order. -/
theorem ordered_ofList (es : List (String × Json)) : (ofList es).Ordered :=
  ordered_foldl_insert es List.Pairwise.nil

/-- Setting members with new and different keys adds all of them. The induction is on the members to
be set. -/
theorem perm_foldl_insert {es : List (String × Json)} {ms : Members}
    (h : ((ms ++ es).map Prod.fst).Nodup) :
    (es.foldl (fun ms e => ms.insert e.1 e.2) ms).Perm (ms ++ es) := by
  induction es generalizing ms with
  | nil => rw [List.append_nil]; exact .refl _
  | cons e es ih =>
    have hmiddle : (ms ++ e :: es).Perm (e :: (ms ++ es)) := List.perm_middle
    have hnodup := (hmiddle.map Prod.fst).nodup_iff.1 h
    rw [List.map_cons, List.nodup_cons] at hnodup
    have hinsert : (ms.insert e.1 e.2).Perm (e :: ms) := by
      refine perm_insert fun m hm heq => hnodup.1 ?_
      rw [List.map_append, List.mem_append]
      exact .inl (heq ▸ List.mem_map_of_mem hm)
    have hgrown : (ms.insert e.1 e.2 ++ es).Perm (e :: (ms ++ es)) := hinsert.append_right es
    have hnext := ih ((hgrown.map Prod.fst).nodup_iff.2 (List.nodup_cons.2 hnodup))
    exact hnext.trans (hgrown.trans hmiddle.symm)

/-- Members with distinct keys that are the same as members in order, apart from their own order,
are these once they are put in order. Two lists in order with the same elements are equal. -/
theorem ofList_eq_of_perm {es : List (String × Json)} {ms : Members} (h : ms.Ordered)
    (hperm : es.Perm ms) : ofList es = ms := by
  have hnodup : (es.map Prod.fst).Nodup := (hperm.map Prod.fst).nodup_iff.2 (nodup_of_ordered h)
  have hfold : (ofList es).Perm ([] ++ es) := perm_foldl_insert hnodup
  have hsame : (ofList es).Perm ms := hfold.trans hperm
  refine hsame.eq_of_pairwise ?_ (ordered_ofList es) h
  intro a b _ _ hab hba
  exact absurd (String.lt_trans hab hba) (String.lt_irrefl _)

end OfList

end Members

namespace Json

/-- Whether the members of every object in a value are in order. -/
inductive Ordered : Json → Prop where
  | null : Ordered .null
  | bool (b : Bool) : Ordered (.bool b)
  | number (n : JsonNumber) : Ordered (.number n)
  | string (s : String) : Ordered (.string s)
  | array {items : List Json} (h : ∀ v ∈ items, Ordered v) : Ordered (.array items)
  | object {members : Members} (horder : members.Ordered) (h : ∀ m ∈ members, Ordered m.2) :
      Ordered (.object members)

/-- What a value holds under a key is in order if the value is. -/
theorem ordered_of_get? {v w : Json} {key : String} (h : v.Ordered) (hget : v.get? key = some w) :
    w.Ordered := by
  cases h with
  | object _ hmembers => exact hmembers (key, w) (Members.mem_of_get? hget)
  | _ => nomatch hget

/-!
## Reading

The parser hands each item and member to a function with what has been collected so far. An
invariant of what is collected is kept by going through a container, if each part keeps it.
-/

namespace Cursor

section Containers

variable {σ : Type} {P : σ → Prop}

/-- What each item keeps is kept by a list. It holds at the start, and each item keeps it; the
commas and brackets between them do not touch the list. -/
theorem items_invariant {item : σ → Cursor → Except Fault (σ × Cursor)}
    (hitem : ∀ {acc c acc' c'}, P acc → item acc c = .ok (acc', c') → P acc') {fuel : Nat}
    {first : Bool} {acc acc' : σ} {c c' : Cursor} (hacc : P acc)
    (h : items item fuel first acc c = .ok (acc', c')) : P acc' := by
  induction fuel generalizing first acc c with
  | zero => nomatch h
  | succ fuel ih =>
    unfold items at h
    obtain ⟨next, -, h⟩ := bind_eq_ok_iff.1 h
    cases next with
    | none =>
      obtain ⟨_, -, h⟩ := bind_eq_ok_iff.1 h
      cases h
      exact hacc
    | some c =>
      obtain ⟨⟨acc, c⟩, hone, h⟩ := bind_eq_ok_iff.1 h
      exact ih (hitem hacc hone) h

/-- What each member keeps is kept by an object. -/
theorem members_invariant {member : σ → String → Cursor → Except Fault (σ × Cursor)}
    (hmember : ∀ {acc key c acc' c'}, P acc → member acc key c = .ok (acc', c') → P acc')
    {fuel : Nat} {first : Bool} {acc acc' : σ} {c c' : Cursor} (hacc : P acc)
    (h : members member fuel first acc c = .ok (acc', c')) : P acc' := by
  induction fuel generalizing first acc c with
  | zero => nomatch h
  | succ fuel ih =>
    unfold members at h
    obtain ⟨next, -, h⟩ := bind_eq_ok_iff.1 h
    cases next with
    | none =>
      cases h
      exact hacc
    | some c =>
      obtain ⟨⟨key, c⟩, -, h⟩ := bind_eq_ok_iff.1 h
      obtain ⟨⟨acc, c⟩, hone, h⟩ := bind_eq_ok_iff.1 h
      exact ih (hmember hacc hone) h

end Containers

/-- Whether something holds of all values that are read, as it holds of those without parts and
passes from the parts to the whole. The members of an object are in order when it is built. -/
structure Inherited (P : Json → Prop) : Prop where
  null : P .null
  bool (b : Bool) : P (.bool b)
  number {negative : Bool} {c c' : Cursor} {n : JsonNumber}
    (h : c.number negative = .ok (n, c')) : P (.number n)
  string (s : String) : P (.string s)
  array {items : List Json} (h : ∀ v ∈ items, P v) : P (.array items)
  object {members : Members} (horder : members.Ordered) (h : ∀ m ∈ members, P m.2) :
    P (.object members)

/-- What the parts pass on holds of a value that is read, at every depth. The induction is on the
fuel; the two containers go through their parts by `items_invariant` and `members_invariant`. -/
theorem Inherited.valueFrom {P : Json → Prop} (hP : Inherited P) {fuel depth : Nat}
    {c c' : Cursor} {v : Json} (h : valueFrom fuel depth c = .ok (v, c')) : P v := by
  induction fuel generalizing depth c c' v with
  | zero => nomatch h
  | succ fuel ih =>
    unfold Cursor.valueFrom at h
    dsimp only at h
    split at h
    · nomatch h
    · obtain ⟨_, -, h⟩ := bind_eq_ok_iff.1 h
      cases h
      exact hP.null
    · obtain ⟨_, -, h⟩ := bind_eq_ok_iff.1 h
      cases h
      exact hP.bool _
    · obtain ⟨_, -, h⟩ := bind_eq_ok_iff.1 h
      cases h
      exact hP.bool _
    · obtain ⟨_, hnumber, h⟩ := bind_eq_ok_iff.1 h
      cases h
      exact hP.number hnumber
    · obtain ⟨_, -, h⟩ := bind_eq_ok_iff.1 h
      cases h
      exact hP.string _
    · split at h
      · nomatch h
      · obtain ⟨⟨vs, _⟩, hitems, h⟩ := bind_eq_ok_iff.1 h
        cases h
        have hvs : ∀ v ∈ vs, P v := by
          refine items_invariant (P := fun vs => ∀ v ∈ vs, P v) ?_ (List.forall_mem_nil _) hitems
          intro acc c acc' c' hacc hone
          obtain ⟨⟨w, _⟩, hvalue, hone⟩ := bind_eq_ok_iff.1 hone
          cases hone
          exact List.forall_mem_cons.2 ⟨ih hvalue, hacc⟩
        exact hP.array fun v hv => hvs v (List.mem_reverse.1 hv)
    · split at h
      · nomatch h
      · obtain ⟨⟨ms, _⟩, hmembers, h⟩ := bind_eq_ok_iff.1 h
        cases h
        have hms : ms.Ordered ∧ ∀ m ∈ ms, P m.2 := by
          refine members_invariant (P := fun ms : Members => ms.Ordered ∧ ∀ m ∈ ms, P m.2)
            ?_ ⟨List.Pairwise.nil, List.forall_mem_nil _⟩ hmembers
          rintro acc key c acc' c' ⟨horder, hvalues⟩ hone
          obtain ⟨_, -, hone⟩ := bind_eq_ok_iff.1 hone
          obtain ⟨⟨w, _⟩, hvalue, hone⟩ := bind_eq_ok_iff.1 hone
          cases hone
          refine ⟨Members.ordered_insert horder, fun m hm => ?_⟩
          rcases Members.mem_of_mem_insert hm with rfl | hold
          · exact ih hvalue
          · exact hvalues m hold
        exact hP.object hms.1 hms.2
    · split at h
      · obtain ⟨_, hnumber, h⟩ := bind_eq_ok_iff.1 h
        cases h
        exact hP.number hnumber
      · nomatch h

/-- What the parts pass on holds of the value of a text. -/
theorem Inherited.parse {P : Json → Prop} (hP : Inherited P) {s : String} {v : Json}
    (h : parse s = .ok v) : P v := by
  unfold Json.parse readAll at h
  obtain ⟨⟨w, c⟩, hvalue, h⟩ := bind_eq_ok_iff.1 h
  dsimp only at h
  split at h
  · cases h
    exact hP.valueFrom hvalue
  · nomatch h

end Cursor

/-- A text that is read gives a value in which all members are in order. -/
theorem ordered_of_parse {s : String} {v : Json} (h : parse s = .ok v) : v.Ordered :=
  Cursor.Inherited.parse
    { null := .null, bool := .bool, number := fun _ => .number _, string := .string,
      array := .array, object := .object } h

end Json

end MailTemplates
