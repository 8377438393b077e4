/-!
# Schedules

Workers that run at the same time take effect one after the other in some order. A schedule is such
an order for every number of workers; each worker gives its result at its own position, whenever it
ran.

Main statement: `length_settle` (there is a result for every worker).
-/

namespace MailTemplates

/-- An order for every number of workers. -/
structure Schedule where
  order : Nat → List Nat
  isPerm : ∀ n, (order n).Perm (List.range n)

namespace Schedule

/-- The workers one after another as they were started. -/
def inOrder : Schedule := ⟨List.range, fun _ => .refl _⟩

/-- The workers in the reverse order. -/
def reversed : Schedule := ⟨fun n => (List.range n).reverse, fun _ => List.reverse_perm _⟩

/-- A schedule runs every worker. -/
theorem mem_order (schedule : Schedule) {n i : Nat} : i ∈ schedule.order n ↔ i < n := by
  rw [(schedule.isPerm n).mem_iff, List.mem_range]

end Schedule

/-- Something that changes a state and has a result. -/
abbrev Worker (S α : Type) := S → S × α

/-- Runs workers in a given order; the results stand beside the positions of their workers. -/
def runWorkers {S α : Type} (workers : List (Worker S α)) : List Nat → S → S × List (Nat × α)
  | [], s => (s, [])
  | i :: rest, s =>
    match workers[i]? with
    | none => runWorkers workers rest s
    | some worker =>
      let (s, a) := worker s
      let (s, results) := runWorkers workers rest s
      (s, (i, a) :: results)

/-- Runs all workers and gives their results in the order of the workers. -/
def settle {S α : Type} (schedule : Schedule) (workers : List (Worker S α)) (s : S) :
    S × List α :=
  let (s, results) := runWorkers workers (schedule.order workers.length) s
  (s, (List.range workers.length).filterMap fun i => results.lookup i)

/-- A worker that is in the order has a result. -/
theorem lookup_runWorkers_isSome {S α : Type} (workers : List (Worker S α)) (order : List Nat)
    (s : S) {i : Nat} (hi : i ∈ order) (hw : i < workers.length) :
    ((runWorkers workers order s).2.lookup i).isSome = true := by
  induction order generalizing s with
  | nil => simp at hi
  | cons j rest ih =>
    unfold runWorkers
    cases hj : workers[j]? with
    | none =>
      simp only
      rcases List.mem_cons.1 hi with rfl | h
      · rw [List.getElem?_eq_none_iff] at hj
        omega
      · exact ih s h
    | some worker =>
      simp only
      by_cases hij : i = j
      · subst hij; simp
      · have hb : (i == j) = false := by simpa using hij
        rcases List.mem_cons.1 hi with rfl | h
        · exact absurd rfl hij
        · simp only [List.lookup_cons, hb]
          exact ih _ h

private theorem length_filterMap_of_isSome {α β : Type} {f : α → Option β} {l : List α}
    (h : ∀ a ∈ l, (f a).isSome = true) : (l.filterMap f).length = l.length := by
  induction l with
  | nil => rfl
  | cons a l ih =>
    obtain ⟨b, hb⟩ := Option.isSome_iff_exists.1 (h a (by simp))
    rw [List.filterMap_cons_some hb, List.length_cons, List.length_cons,
      ih fun x hx => h x (by simp [hx])]

/-- All results are there when the workers have settled, one for each. -/
theorem length_settle {S α : Type} (schedule : Schedule) (workers : List (Worker S α)) (s : S) :
    (settle schedule workers s).2.length = workers.length := by
  unfold settle
  simp only
  rw [length_filterMap_of_isSome, List.length_range]
  intro i hi
  have hlt := List.mem_range.1 hi
  exact lookup_runWorkers_isSome workers _ s (schedule.mem_order.2 hlt) hlt

/-- Going through the indices of a list gives its items in order. -/
theorem filterMap_range_getElem? {α : Type} (l : List α) :
    (List.range l.length).filterMap (fun i => l[i]?) = l := by
  induction l with
  | nil => rfl
  | cons a l ih =>
    simp only [List.length_cons, List.range_succ_eq_map, List.filterMap_cons,
      List.getElem?_cons_zero, List.filterMap_map, Function.comp_def, Nat.succ_eq_add_one,
      List.getElem?_cons_succ, ih]

end MailTemplates
