import MailTemplates.Sync.Schedule
import Mathlib.Data.List.Basic
/-!
# What settling does

Settling runs every worker once, in the order of a schedule, and hands back the results by position.
Two views of it carry all that is proved of concurrent work:

* by position: a result is that of its own worker, run in the state that the workers before it in
  the order have left (`getElem?_settle`);
* by time: the `endings` are the workers in the order in which they end, each with its result. They
  are a permutation of the workers beside their results (`perm_endings`), and whatever each worker
  does to a view of the state, the whole run does by folding over the endings (`view_settle`).

The order enters a run through the endings alone. What does not depend on the order of a fold does
not depend on the schedule.
-/

namespace MailTemplates

variable {S T V ι α : Type}

/-! ## Running part of an order -/

/-- One step of a run: the worker takes effect and its result is noted. -/
theorem runWorkers_cons_of_some {workers : List (Worker S α)} {i : Nat} {worker : Worker S α}
    (h : workers[i]? = some worker) (rest : List Nat) (s : S) :
    runWorkers workers (i :: rest) s =
      ((runWorkers workers rest (worker s).1).1,
        (i, (worker s).2) :: (runWorkers workers rest (worker s).1).2) := by
  simp only [runWorkers, h]

/-- Every position of the order ends once, in that order. -/
theorem map_fst_runWorkers {workers : List (Worker S α)} {order : List Nat}
    (h : ∀ i ∈ order, i < workers.length) (s : S) :
    (runWorkers workers order s).2.map Prod.fst = order := by
  induction order generalizing s with
  | nil => rfl
  | cons i rest ih =>
    have hlt : i < workers.length := h i (by simp)
    rw [runWorkers_cons_of_some (List.getElem?_eq_getElem hlt), List.map_cons,
      ih fun j hj => h j (by simp [hj])]

/-- A result is that of its worker, run behind those before it in the order. -/
theorem lookup_runWorkers {workers : List (Worker S α)} {i : Nat} {worker : Worker S α}
    (h : workers[i]? = some worker) {order : List Nat} (hi : i ∈ order) (s : S) :
    (runWorkers workers order s).2.lookup i =
      some (worker (runWorkers workers (order.takeWhile (· != i)) s).1).2 := by
  induction order generalizing s with
  | nil => simp at hi
  | cons j rest ih =>
    by_cases hij : j = i
    · subst hij
      rw [runWorkers_cons_of_some h]
      simp [runWorkers]
    · have hr : i ∈ rest := by
        rcases List.mem_cons.1 hi with e | hr
        · exact absurd e.symm hij
        · exact hr
      have hb : (i == j) = false := by simpa using Ne.symm hij
      rw [List.takeWhile_cons_of_pos (by simpa using hij)]
      simp only [runWorkers]
      cases workers[j]? with
      | none => exact ih hr s
      | some w =>
        simp only [List.lookup_cons, hb]
        exact ih hr (w s).1

/-- Whatever a property that every worker keeps says of the start, it says of the end. -/
theorem runWorkers_invariant {workers : List (Worker S α)} {P : S → Prop}
    (h : ∀ worker ∈ workers, ∀ s, P s → P (worker s).1) (order : List Nat) {s : S} (hs : P s) :
    P (runWorkers workers order s).1 := by
  induction order generalizing s with
  | nil => exact hs
  | cons i rest ih =>
    simp only [runWorkers]
    cases hi : workers[i]? with
    | none => exact ih hs
    | some worker => exact ih (h worker (List.mem_of_getElem? hi) s hs)

/-!
## By position

What a worker gives is found at its own position, whenever it was run.
-/

/-- The state that a worker starts in: those before it in the order have taken effect. -/
def Schedule.startOf (schedule : Schedule) (workers : List (Worker S α)) (s : S) (i : Nat) : S :=
  (runWorkers workers ((schedule.order workers.length).takeWhile (· != i)) s).1

/-- If no item is left out, positions stay. -/
private theorem getElem?_filterMap_of_isSome {β γ : Type} {f : β → Option γ} {l : List β}
    (h : ∀ b ∈ l, (f b).isSome = true) (k : Nat) : (l.filterMap f)[k]? = l[k]?.bind f := by
  induction l generalizing k with
  | nil => simp
  | cons b l ih =>
    obtain ⟨c, hc⟩ := Option.isSome_iff_exists.1 (h b (by simp))
    rw [List.filterMap_cons_some hc]
    cases k with
    | zero => simp [hc]
    | succ k => simpa using ih (fun b hb => h b (by simp [hb])) k

/-- The result of a worker is the one it has on the state at which the schedule lets it start. -/
theorem getElem?_settle (schedule : Schedule) (workers : List (Worker S α)) (s : S) (i : Nat) :
    (settle schedule workers s).2[i]? =
      workers[i]?.map fun worker => (worker (schedule.startOf workers s i)).2 := by
  have hsome : ∀ j ∈ List.range workers.length,
      ((runWorkers workers (schedule.order workers.length) s).2.lookup j).isSome = true := by
    intro j hj
    have hlt := List.mem_range.1 hj
    exact lookup_runWorkers_isSome workers _ s (schedule.mem_order.2 hlt) hlt
  simp only [settle]
  rw [getElem?_filterMap_of_isSome hsome]
  by_cases hi : i < workers.length
  · have hw : workers[i]? = some workers[i] := List.getElem?_eq_getElem hi
    rw [List.getElem?_range hi, hw, Option.bind_some,
      lookup_runWorkers hw (schedule.mem_order.2 hi)]
    rfl
  · rw [List.getElem?_eq_none (by simpa using hi), List.getElem?_eq_none (by omega)]
    rfl

/-- The results of workers that are run for items, by position. -/
theorem settle_results (schedule : Schedule) (items : List ι) (work : ι → Worker S α) (s : S) :
    (settle schedule (items.map work) s).2 =
      items.zipIdx.map fun e => (work e.1 (schedule.startOf (items.map work) s e.2)).2 := by
  apply List.ext_getElem?
  intro i
  rw [getElem?_settle, List.getElem?_map, List.getElem?_map, List.getElem?_zipIdx]
  cases items[i]? with
  | none => rfl
  | some x => simp only [Option.map_some, Nat.zero_add]

/-- A property that every worker keeps holds of the state that any of them starts in. -/
theorem startOf_invariant {schedule : Schedule} {workers : List (Worker S α)} {P : S → Prop}
    (h : ∀ worker ∈ workers, ∀ s, P s → P (worker s).1) {s : S} (hs : P s) (i : Nat) :
    P (schedule.startOf workers s i) :=
  runWorkers_invariant h _ hs

/-- What every worker keeps is kept by all of them. -/
theorem settle_invariant {schedule : Schedule} {workers : List (Worker S α)} {P : S → Prop}
    (h : ∀ worker ∈ workers, ∀ s, P s → P (worker s).1) {s : S} (hs : P s) :
    P (settle schedule workers s).1 :=
  runWorkers_invariant h _ hs

/-- A run depends on no more of a schedule than its order for the number of the workers. -/
theorem settle_congr {first second : Schedule} {workers : List (Worker S α)}
    (h : first.order workers.length = second.order workers.length) (s : S) :
    settle first workers s = settle second workers s := by
  simp only [settle, h]

/-!
## By time

The states follow the order in which the workers are run: each worker starts in the state that those
before it in this order have left.
-/

/-- The items that workers are run for, in the order in which their workers end, each with the
result of its worker. -/
def endings (schedule : Schedule) (items : List ι) (work : ι → Worker S α) (s : S) :
    List (ι × α) :=
  (runWorkers (items.map work) (schedule.order items.length) s).2.filterMap fun r =>
    items[r.1]?.map fun x => (x, r.2)

/-- A list of pairs without two of one key is known by its keys and what is found under each. -/
private theorem eq_filterMap_lookup {β : Type} {l : List (Nat × β)} (h : (l.map Prod.fst).Nodup) :
    l = (l.map Prod.fst).filterMap fun i => (l.lookup i).map fun b => (i, b) := by
  induction l with
  | nil => rfl
  | cons e l ih =>
    obtain ⟨i, b⟩ := e
    rw [List.map_cons, List.nodup_cons] at h
    have hrest : ∀ j ∈ l.map Prod.fst,
        ((((i, b) :: l).lookup j).map fun b => (j, b)) = (l.lookup j).map fun b => (j, b) := by
      intro j hj
      have hji : j ≠ i := fun e => h.1 (e ▸ hj)
      rw [List.lookup_cons, beq_false_of_ne hji]
    rw [List.map_cons, List.filterMap_cons_some (b := (i, b)) (by simp),
      List.filterMap_congr hrest, ← ih h.2]

/-- The endings are the items beside their results, in the order of the schedule. -/
theorem endings_eq (schedule : Schedule) (items : List ι) (work : ι → Worker S α) (s : S) :
    endings schedule items work s = (schedule.order items.length).filterMap fun i =>
      (items.zip (settle schedule (items.map work) s).2)[i]? := by
  have hlen : (items.map work).length = items.length := List.length_map ..
  have horder : ∀ i ∈ schedule.order items.length, i < (items.map work).length := by
    intro i hi
    rw [hlen]
    exact schedule.mem_order.1 hi
  have hkeys := map_fst_runWorkers horder s
  have hnodup : (schedule.order items.length).Nodup :=
    (schedule.isPerm items.length).nodup_iff.2 List.nodup_range
  have hresults := eq_filterMap_lookup (hkeys.symm ▸ hnodup)
  rw [hkeys] at hresults
  rw [endings, hresults, List.filterMap_filterMap]
  apply List.filterMap_congr
  intro i hi
  have hlt : i < items.length := schedule.mem_order.1 hi
  have hw : (items.map work)[i]? = some (work items[i]) := by
    rw [List.getElem?_map, List.getElem?_eq_getElem hlt]
    rfl
  have hr := getElem?_settle schedule (items.map work) s i
  rw [hw, Option.map_some, Schedule.startOf, hlen] at hr
  rw [lookup_runWorkers hw hi, (List.getElem?_zip_eq_some (z := (items[i], _))).2
    ⟨List.getElem?_eq_getElem hlt, hr⟩]
  simp [List.getElem?_eq_getElem hlt]

/-- The endings are the items with their results, in another order. -/
theorem perm_endings (schedule : Schedule) (items : List ι) (work : ι → Worker S α) (s : S) :
    (endings schedule items work s).Perm (items.zip (settle schedule (items.map work) s).2) := by
  have hlen : (items.zip (settle schedule (items.map work) s).2).length = items.length := by
    rw [List.length_zip, length_settle, List.length_map, Nat.min_self]
  have hperm := (schedule.isPerm items.length).filterMap fun i =>
    (items.zip (settle schedule (items.map work) s).2)[i]?
  rw [endings_eq]
  rw [← hlen, filterMap_range_getElem?, hlen] at hperm
  exact hperm

/-- If each worker whose result is of some kind changes a view of the state in a way that depends
only on the view, its item and its result, then a run with no other results changes it by one such
step for every ending. -/
theorem view_settle_of (view : S → V) (step : V → ι → α → V) (Q : α → Prop) (schedule : Schedule)
    {items : List ι} {work : ι → Worker S α}
    (h : ∀ x ∈ items, ∀ s, Q (work x s).2 → view (work x s).1 = step (view s) x (work x s).2)
    (s : S) (hQ : ∀ r ∈ (settle schedule (items.map work) s).2, Q r) :
    view (settle schedule (items.map work) s).1 =
      (endings schedule items work s).foldl (fun v e => step v e.1 e.2) (view s) := by
  have hends : ∀ e ∈ endings schedule items work s, Q e.2 := by
    intro e he
    exact hQ e.2 (List.of_mem_zip ((perm_endings schedule items work s).mem_iff.1 he)).2
  clear hQ
  simp only [settle, endings, List.length_map] at hends ⊢
  -- Nothing below needs the order to be a permutation.
  generalize schedule.order items.length = order at hends ⊢
  induction order generalizing s with
  | nil => rfl
  | cons i rest ih =>
    cases hi : items[i]? with
    | none =>
      have hw : (items.map work)[i]? = none := by rw [List.getElem?_map, hi]; rfl
      simp only [runWorkers, hw] at hends ⊢
      exact ih s hends
    | some x =>
      have hw : (items.map work)[i]? = some (work x) := by rw [List.getElem?_map, hi]; rfl
      rw [runWorkers_cons_of_some hw, List.filterMap_cons_some (b := (x, (work x s).2))
        (by simp [hi])] at hends ⊢
      obtain ⟨hfirst, hrest⟩ := List.forall_mem_cons.1 hends
      rw [List.foldl_cons, ← h x (List.mem_of_getElem? hi) s hfirst]
      exact ih (work x s).1 hrest

/-- A step for every ending, whatever the results are. -/
theorem view_settle (view : S → V) (step : V → ι → α → V) (schedule : Schedule) {items : List ι}
    {work : ι → Worker S α}
    (h : ∀ x ∈ items, ∀ s, view (work x s).1 = step (view s) x (work x s).2) (s : S) :
    view (settle schedule (items.map work) s).1 =
      (endings schedule items work s).foldl (fun v e => step v e.1 e.2) (view s) :=
  view_settle_of view step (fun _ => True) schedule (fun x hx s _ => h x hx s) s fun _ _ => trivial

/-!
## Seeing a run through a function of the state

If the workers of two runs do the same up to a function of the state then so do the runs. That is
how a watched store is compared with the store itself.
-/

section Map

variable {f : T → S} {items : List ι} {work : ι → Worker S α} {lifted : ι → Worker T α}
  (h : ∀ x ∈ items, ∀ t, work x (f t) = (f (lifted x t).1, (lifted x t).2))

include h

/-- Workers that a function of the state carries to others give the same results as those, and the
function carries the state that they leave. -/
theorem runWorkers_map (order : List Nat) (t : T) :
    runWorkers (items.map work) order (f t) =
      (f (runWorkers (items.map lifted) order t).1, (runWorkers (items.map lifted) order t).2) := by
  induction order generalizing t with
  | nil => rfl
  | cons i rest ih =>
    simp only [runWorkers, List.getElem?_map]
    cases hi : items[i]? with
    | none => exact ih t
    | some x => simp only [Option.map_some, h x (List.mem_of_getElem? hi) t, ih]

/-- The state at which a worker starts is the same seen through a view. -/
theorem startOf_map (schedule : Schedule) (t : T) (i : Nat) :
    schedule.startOf (items.map work) (f t) i = f (schedule.startOf (items.map lifted) t i) := by
  simp only [Schedule.startOf, runWorkers_map h, List.length_map]

/-- Workers that are seen through a view settle as those that they are seen as. -/
theorem settle_map (schedule : Schedule) (t : T) :
    settle schedule (items.map work) (f t) =
      (f (settle schedule (items.map lifted) t).1, (settle schedule (items.map lifted) t).2) := by
  simp only [settle, runWorkers_map h, List.length_map]

end Map

end MailTemplates
