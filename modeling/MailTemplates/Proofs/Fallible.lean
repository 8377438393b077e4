/-!
# Steps that may fail, one for each item

Doing a step for every item of a list gives all results, or the error of the first item whose step
fails.

The lemmas are equivalences, so that a chain of steps can be taken apart from the outside to the
inside by rewriting, in both directions. The one on the error of a list says more than that there is
one: the items in front of it have all succeeded.

Main statements: `mapM_eq_ok_iff` and `mapM_eq_error_iff`.
-/

namespace MailTemplates

variable {ε α β : Type}

/-- The error of a result, if it is one. It forgets the value, which is what comparing failures
needs. -/
def errorOf? : Except ε α → Option ε
  | .ok _ => none
  | .error e => some e

/-- The error of a result is there if it is one. -/
theorem errorOf?_eq_some_iff {r : Except ε α} {e : ε} : errorOf? r = some e ↔ r = .error e := by
  cases r with
  | ok a => exact ⟨nofun, nofun⟩
  | error d =>
    rw [errorOf?, Option.some.injEq, Except.error.injEq]

/-- A result without an error is a value. -/
theorem errorOf?_eq_none_iff {r : Except ε α} : errorOf? r = none ↔ ∃ a, r = .ok a := by
  cases r with
  | ok a => exact ⟨fun _ => ⟨a, rfl⟩, fun _ => rfl⟩
  | error e => exact ⟨nofun, fun ⟨_, h⟩ => nomatch h⟩

/-- A result is known once its value is. -/
theorem eq_ok_of_toOption {r : Except ε α} {a : α} (h : r.toOption = some a) : r = .ok a := by
  cases r with
  | ok b => exact congrArg Except.ok (Option.some.inj h)
  | error e => nomatch h

/-- A result that has a value is that value. -/
theorem eq_ok_getD {r : Except ε α} (h : r.toOption.isSome = true) (other : α) :
    r = .ok (r.toOption.getD other) := by
  cases r with
  | ok a => rfl
  | error e => nomatch h

theorem ok_bind (a : α) (f : α → Except ε β) : (Except.ok a).bind f = f a := rfl

theorem error_bind (e : ε) (f : α → Except ε β) : (Except.error e).bind f = .error e := rfl

/-- What becomes of a value comes from a value. -/
theorem map_eq_ok_iff {f : α → β} {r : Except ε α} {b : β} :
    r.map f = .ok b ↔ ∃ a, r = .ok a ∧ f a = b := by
  cases r with
  | error e => exact ⟨nofun, fun ⟨_, h, _⟩ => nomatch h⟩
  | ok a =>
    constructor
    · intro h
      cases h
      exact ⟨a, rfl, rfl⟩
    · rintro ⟨a, h, rfl⟩
      cases h
      rfl

theorem map_eq_error_iff {f : α → β} {r : Except ε α} {e : ε} :
    r.map f = .error e ↔ r = .error e := by
  cases r with
  | ok a => exact ⟨nofun, nofun⟩
  | error d =>
    rw [Except.map, Except.error.injEq, Except.error.injEq]

/-- Two steps succeed if the first does and the second does with its value. -/
theorem bind_eq_ok_iff {r : Except ε α} {f : α → Except ε β} {b : β} :
    r.bind f = .ok b ↔ ∃ a, r = .ok a ∧ f a = .ok b := by
  cases r with
  | error e => exact ⟨nofun, fun ⟨_, h, _⟩ => nomatch h⟩
  | ok a =>
    constructor
    · intro h
      exact ⟨a, rfl, h⟩
    · rintro ⟨a, h, hb⟩
      cases h
      exact hb

/-- Two steps fail if the first does, or if the second does with its value. In the second case the
first step has a value, and that is given along. -/
theorem bind_eq_error_iff {r : Except ε α} {f : α → Except ε β} {e : ε} :
    r.bind f = .error e ↔ r = .error e ∨ ∃ a, r = .ok a ∧ f a = .error e := by
  cases r with
  | error d =>
    constructor
    · intro h
      cases h
      exact .inl rfl
    · rintro (h | ⟨a, h, -⟩)
      · cases h
        rfl
      · nomatch h
  | ok a =>
    constructor
    · intro h
      exact .inr ⟨a, rfl, h⟩
    · rintro (h | ⟨a, h, hb⟩)
      · nomatch h
      · cases h
        exact hb

/-- A list is gone through with success if each of its items is. The results stand in the order of
the items, one for each. -/
theorem mapM_eq_ok_iff {f : α → Except ε β} {xs : List α} {ys : List β} :
    xs.mapM f = .ok ys ↔ xs.map f = ys.map .ok := by
  induction xs generalizing ys with
  | nil =>
    cases ys with
    | nil => exact ⟨fun _ => rfl, fun _ => rfl⟩
    | cons y ys => exact ⟨nofun, nofun⟩
  | cons x xs ih =>
    rw [List.mapM_cons, List.map_cons]
    cases ys with
    | nil =>
      cases f x with
      | error e => exact ⟨nofun, nofun⟩
      | ok b => cases xs.mapM f <;> exact ⟨nofun, nofun⟩
    | cons y ys =>
      rw [List.map_cons, List.cons.injEq, ← ih]
      cases f x with
      | error e => exact ⟨nofun, fun h => nomatch h.1⟩
      | ok b => cases xs.mapM f <;> simp [bind, Except.bind, pure, Except.pure]

/-- So it is if every item has some result. -/
theorem exists_mapM_eq_ok_iff {f : α → Except ε β} {xs : List α} :
    (∃ ys, xs.mapM f = .ok ys) ↔ ∀ x ∈ xs, ∃ y, f x = .ok y := by
  simp only [mapM_eq_ok_iff]
  induction xs with
  | nil => exact ⟨fun _ => nofun, fun _ => ⟨[], rfl⟩⟩
  | cons x xs ih =>
    rw [List.forall_mem_cons, ← ih]
    constructor
    · rintro ⟨_ | ⟨y, ys⟩, h⟩
      · nomatch h
      · obtain ⟨hfirst, hrest⟩ := List.cons.inj h
        exact ⟨⟨y, hfirst⟩, ys, hrest⟩
    · rintro ⟨⟨y, hfirst⟩, ys, hrest⟩
      exact ⟨y :: ys, by rw [List.map_cons, hfirst, hrest, List.map_cons]⟩

/-- The error of a list is that of the first item that has one. So the order of the list decides
which failure is reported, and the items behind do not count. -/
theorem mapM_eq_error_iff {f : α → Except ε β} {xs : List α} {e : ε} :
    xs.mapM f = .error e ↔ xs.findSome? (fun x => errorOf? (f x)) = some e := by
  induction xs with
  | nil => exact ⟨nofun, nofun⟩
  | cons x xs ih =>
    rw [List.mapM_cons, List.findSome?_cons]
    cases f x with
    | error d =>
      constructor
      · intro h
        cases h
        rfl
      · intro h
        cases h
        rfl
    | ok b =>
      rw [show errorOf? (.ok b : Except ε β) = none from rfl, ← ih]
      cases xs.mapM f with
      | error d => exact Iff.rfl
      | ok bs => exact ⟨nofun, nofun⟩

end MailTemplates
