import MailTemplates.Proofs.Sync.Collecting
/-!
# Watching a synchronisation

What a synchronisation does to the world it does through its store. A watched store notes each of
its calls with what came of it, and stands beside the files of the machine, which it does not touch.
Watching changes nothing (`sync_watched`), so what is noted is what an unwatched run does.

A watched store is a store like any other one, so what was proved of synchronising holds of it. Its
calls are then a part of its state. That an unwatched run makes the same calls is shown by leaving
the notes out: a settled list of workers gives the same results and the same states
(`collect_watched`, `publish_watched`), and a synchronisation is made of two of these.

Main statements: `calls_collect` (collecting fetches every template exactly once and does nothing
else), `calls_publish` (publishing tries every template it is given exactly once, whatever becomes
of the others) and `files_watch` (no file is written).
-/

namespace MailTemplates

/-- A call of a store, with what came of it. -/
inductive Call where
  | fetch (template : Template) (outcome : Outcome String)
  | publish (template : Template) (content version : String) (outcome : Outcome Unit)

/-- Where a synchronisation takes place: the files of the machine, the state of the store, and the
calls of the store so far. -/
structure Scene (S : Type) where
  files : FileTree
  remote : S
  calls : List Call

variable {S : Type}

/-- The store with its calls noted. -/
def Store.watched (store : Store S) : Store (Scene S) where
  fetch t scene :=
    let r := store.fetch t scene.remote
    (⟨scene.files, r.1, scene.calls ++ [.fetch t r.2]⟩, r.2)
  publish t content version scene :=
    let r := store.publish t content version scene.remote
    (⟨scene.files, r.1, scene.calls ++ [.publish t content version r.2]⟩, r.2)

namespace Sync

/-!
## Publishing

All publications are tried, and what they come to is looked at afterwards, in the order of the
templates.
-/

/-- What comes of publishing each of some templates. -/
def published (schedule : Schedule) (store : Store S) (changed : List Comparable)
    (version : String) (s : S) : List (Outcome Unit) :=
  (settle schedule (changed.map fun c => store.publish c.template c.content version) s).2

/-- Every changed template has a result. -/
theorem length_published (schedule : Schedule) (store : Store S) (changed : List Comparable)
    (version : String) (s : S) :
    (published schedule store changed version s).length = changed.length := by
  rw [published, length_settle, List.length_map]

/-- The failure that the result of publishing counts as. -/
def refusal : Outcome Unit → Option Failure
  | .ok () => none
  | .error halt => some (halt.cause (.remote .publishCrashed))

/-- A publication is not refused if it succeeds. -/
theorem refusal_eq_none_iff {r : Outcome Unit} : refusal r = none ↔ r = .ok () := by
  cases r with
  | ok u => exact ⟨fun _ => rfl, fun _ => rfl⟩
  | error halt => exact ⟨nofun, nofun⟩

theorem firstFailure_cons (r : Outcome Unit) (rs : List (Outcome Unit)) :
    firstFailure (r :: rs) = match refusal r with
      | some failure => .error failure
      | none => firstFailure rs := by
  rcases r with (_ | _) | _ <;> rfl

/-- The first failure is the first refusal in the order of the templates. -/
theorem firstFailure_eq_error_iff {rs : List (Outcome Unit)} {failure : Failure} :
    firstFailure rs = .error failure ↔ rs.findSome? refusal = some failure := by
  induction rs with
  | nil => exact ⟨nofun, nofun⟩
  | cons r rs ih =>
    rw [firstFailure_cons, List.findSome?_cons]
    cases refusal r with
    | none => exact ih
    | some f => simp

/-- There is none if all succeed. -/
theorem firstFailure_eq_ok_iff {rs : List (Outcome Unit)} :
    firstFailure rs = .ok () ↔ ∀ r ∈ rs, r = .ok () := by
  induction rs with
  | nil => exact ⟨fun _ => nofun, fun _ => rfl⟩
  | cons r rs ih =>
    rw [firstFailure_cons, List.forall_mem_cons, ← refusal_eq_none_iff, ← ih]
    cases refusal r with
    | none => simp
    | some f => exact ⟨nofun, fun h => nomatch h.1⟩

theorem publish_snd (schedule : Schedule) (store : Store S) (changed : List Comparable)
    (version : String) (s : S) :
    (publish schedule store changed version s).2 =
      firstFailure (published schedule store changed version s) := rfl

/-- Publishing leaves alone whatever the operations of the store leave alone. -/
theorem publish_invariant {schedule : Schedule} {store : Store S} {changed : List Comparable}
    {version : String} {P : S → Prop}
    (hpublish : ∀ t content version s, P s → P (store.publish t content version s).1) {s : S}
    (hs : P s) : P (publish schedule store changed version s).1 := by
  refine settle_invariant (fun w hw s hs => ?_) hs
  obtain ⟨c, -, rfl⟩ := List.mem_map.1 hw
  exact hpublish c.template c.content version s hs

/-!
## The two halves of a synchronisation

A run is collecting, and behind that publishing, unless it is dry or collecting has failed. Each of
these cases has a lemma of its own, and the later modules use only these.
-/

section Halves

variable {schedule : Schedule} {tree : FileTree} {project : LoadedProject} {compiler : Compiler}
  {store : Store S} {version : String} {dryRun : Bool} {s : S}

/-- A synchronisation ends with the failure of collecting. -/
theorem sync_of_collect_error {failure : Failure}
    (h : (collect schedule tree project compiler store s).2 = .error failure) :
    sync schedule tree project compiler store version dryRun s =
      ((collect schedule tree project compiler store s).1, .error failure) := by
  rw [sync, show collect schedule tree project compiler store s = (_, .error failure) from
    Prod.ext rfl h]

/-- A dry run reports what has changed. -/
theorem sync_dry_of_collect {cs : List Comparable}
    (h : (collect schedule tree project compiler store s).2 = .ok cs) :
    sync schedule tree project compiler store version true s =
      ((collect schedule tree project compiler store s).1,
        .ok ⟨true, (changes cs).map Comparable.template⟩) := by
  rw [sync, show collect schedule tree project compiler store s = (_, .ok cs) from Prod.ext rfl h]
  rfl

/-- A run publishes what has changed, and reports it unless one is refused. -/
theorem sync_live_of_collect {cs : List Comparable}
    (h : (collect schedule tree project compiler store s).2 = .ok cs) :
    sync schedule tree project compiler store version false s =
      ((publish schedule store (changes cs) version
          (collect schedule tree project compiler store s).1).1,
        (firstFailure (published schedule store (changes cs) version
          (collect schedule tree project compiler store s).1)).map
            fun _ => ⟨false, (changes cs).map Comparable.template⟩) := by
  rw [← publish_snd, sync,
    show collect schedule tree project compiler store s = (_, .ok cs) from Prod.ext rfl h]
  simp only [Bool.false_eq_true, if_false]
  rcases publish schedule store (changes cs) version
    (collect schedule tree project compiler store s).1 with ⟨s', _ | ⟨⟩⟩ <;> rfl

/-- A synchronisation leaves alone whatever the operations of the store leave alone. -/
theorem sync_invariant {P : S → Prop} (hfetch : ∀ t s, P s → P (store.fetch t s).1)
    (hpublish : ∀ t content version s, P s → P (store.publish t content version s).1) (hs : P s) :
    P (sync schedule tree project compiler store version dryRun s).1 := by
  have hcollect : P (collect schedule tree project compiler store s).1 :=
    collect_invariant hfetch hs
  cases h : (collect schedule tree project compiler store s).2 with
  | error failure => rwa [sync_of_collect_error h]
  | ok cs =>
    cases dryRun with
    | true => rwa [sync_dry_of_collect h]
    | false =>
      rw [sync_live_of_collect h]
      exact publish_invariant hpublish hcollect

end Halves

/-!
## Watching changes nothing

A watched run and an unwatched one go side by side: the same results, and the same states if the
notes are left out.
-/

section Watched

variable (schedule : Schedule) (tree : FileTree) (project : LoadedProject) (compiler : Compiler)
  (store : Store S) (version : String) (dryRun : Bool)

/-- A worker does to the store what it does to a watched one. -/
theorem worker_watched (buildPage : Template → Outcome String) (job : Job) (scene : Scene S) :
    worker store buildPage job scene.remote =
      ((worker store.watched buildPage job scene).1.remote,
        (worker store.watched buildPage job scene).2) := by
  cases job <;> rfl

/-- Collecting does. -/
theorem collect_watched (scene : Scene S) :
    collect schedule tree project compiler store scene.remote =
      ((collect schedule tree project compiler store.watched scene).1.remote,
        (collect schedule tree project compiler store.watched scene).2) := by
  simp only [collect]
  cases Components.load tree project.toProject with
  | error failure => rfl
  | ok components =>
    simp only
    rw [settle_map (fun job _ => worker_watched store _ job) schedule]

/-- All publications do. -/
theorem settle_publish_watched (changed : List Comparable) (scene : Scene S) :
    settle schedule (changed.map fun c => store.publish c.template c.content version)
        scene.remote =
      ((settle schedule (changed.map fun c => store.watched.publish c.template c.content version)
          scene).1.remote,
        (settle schedule (changed.map fun c => store.watched.publish c.template c.content version)
          scene).2) :=
  settle_map (f := Scene.remote) (fun _ _ _ => rfl) schedule scene

theorem published_watched (changed : List Comparable) (scene : Scene S) :
    published schedule store.watched changed version scene =
      published schedule store changed version scene.remote := by
  rw [published, published, settle_publish_watched]

/-- Publishing does. -/
theorem publish_watched (changed : List Comparable) (scene : Scene S) :
    publish schedule store changed version scene.remote =
      ((publish schedule store.watched changed version scene).1.remote,
        (publish schedule store.watched changed version scene).2) := by
  simp only [publish, settle_publish_watched]

/-- And a synchronisation as a whole, as it is made of these. -/
theorem sync_watched (scene : Scene S) :
    sync schedule tree project compiler store version dryRun scene.remote =
      ((sync schedule tree project compiler store.watched version dryRun scene).1.remote,
        (sync schedule tree project compiler store.watched version dryRun scene).2) := by
  simp only [sync, collect_watched]
  rcases collect schedule tree project compiler store.watched scene with ⟨scene', failure | cs⟩
  · rfl
  · cases dryRun with
    | true => rfl
    | false =>
      simp only [publish_watched]
      rcases publish schedule store.watched (changes cs) version scene' with ⟨scene'', _ | ⟨⟩⟩ <;>
        rfl

end Watched

/-!
## The calls

The notes are in the order of the schedule. What is said of them is which calls there are and how
often, so they are compared up to their order.
-/

/-- The call that a job makes. -/
def callOf : Job → Outcome String → List Call
  | .build _, _ => []
  | .fetch t, outcome => [.fetch t outcome]

section Calls

variable {schedule : Schedule} {tree : FileTree} {project : LoadedProject} {compiler : Compiler}
  {store : Store S}

/-- The calls of collecting: one fetch for each template. -/
def fetches (schedule : Schedule) (tree : FileTree) (project : LoadedProject) (compiler : Compiler)
    (store : Store S) (s : S) : List Call :=
  project.templates.zipIdx.map fun e =>
    .fetch e.1 (fetchedAt schedule tree project compiler store s e.2 e.1)

/-- The calls of publishing: one for each comparable, under one version name. -/
def posts (changed : List Comparable) (version : String) (results : List (Outcome Unit)) :
    List Call :=
  List.zipWith (fun c o => .publish c.template c.content version o) changed results

/-- Of the outcomes of the jobs the fetches are calls. -/
theorem flatMap_callOf_outcomes (s : S) :
    (outcomes schedule tree project compiler store s).flatMap (fun e => callOf e.1 e.2) =
      fetches schedule tree project compiler store s := by
  rw [outcomes, fetches, List.flatMap_assoc, List.map_eq_flatMap]
  rfl

/-- A fetch gives the same to a watched store. -/
theorem fetchedAt_watched (scene : Scene S) (i : Nat) (t : Template) :
    fetchedAt schedule tree project compiler store.watched scene i t =
      fetchedAt schedule tree project compiler store scene.remote i t := by
  simp only [fetchedAt]
  rw [startOf_map (fun job _ => worker_watched store _ job) schedule]
  rfl

/-- Collecting calls the store once for each fetch, in some order. -/
theorem calls_collect (schedule : Schedule) (compiler : Compiler) (store : Store S)
    {components : Components} (h : Components.load tree project.toProject = .ok components)
    (scene : Scene S) :
    ∃ asked, (collect schedule tree project compiler store.watched scene).1.calls =
        scene.calls ++ asked ∧
      asked.Perm (fetches schedule tree project compiler store scene.remote) := by
  have hstep : ∀ job ∈ jobs project.templates, ∀ scene : Scene S,
      (worker store.watched (pageOf tree project compiler) job scene).1.calls =
        scene.calls ++
          callOf job (worker store.watched (pageOf tree project compiler) job scene).2 := by
    intro job _ scene
    cases job with
    | build t => exact (List.append_nil _).symm
    | fetch t => rfl
  have hview := view_settle Scene.calls (fun v job o => v ++ callOf job o) schedule hstep scene
  have hperm := (perm_collected schedule tree project compiler store.watched scene).flatMap_right
    fun e => callOf e.1 e.2
  refine ⟨_, ?_, hperm.trans (.of_eq ?_)⟩
  · rw [collect_of_load h, hview, List.foldl_append_eq_append]
    rfl
  · rw [flatMap_callOf_outcomes]
    simp only [fetches, fetchedAt_watched]

/-- Publishing calls it once for each changed template, in some order. -/
theorem calls_publish (schedule : Schedule) (store : Store S) (changed : List Comparable)
    (version : String) (scene : Scene S) :
    ∃ posted, (publish schedule store.watched changed version scene).1.calls =
        scene.calls ++ posted ∧
      posted.Perm (posts changed version
        (published schedule store changed version scene.remote)) := by
  let callFor : Comparable × Outcome Unit → Call := fun e =>
    .publish e.1.template e.1.content version e.2
  let work : Comparable → Worker (Scene S) (Outcome Unit) := fun c =>
    store.watched.publish c.template c.content version
  have hstep : ∀ c ∈ changed, ∀ scene : Scene S,
      (work c scene).1.calls = scene.calls ++ [callFor (c, (work c scene).2)] :=
    fun _ _ _ => rfl
  have hview := view_settle Scene.calls (fun v c o => v ++ [callFor (c, o)]) schedule hstep scene
  have hperm := (perm_endings schedule changed work scene).map callFor
  refine ⟨_, ?_, hperm.trans (.of_eq ?_)⟩
  · rw [List.foldl_append_eq_append, ← List.flatMap_def, ← List.map_eq_flatMap] at hview
    exact hview
  · rw [posts, published, settle_publish_watched, List.map_zip_eq_zipWith]
    rfl

end Calls

/-! ## A watched run -/

/-- A synchronisation that is watched from its start. -/
def watch (schedule : Schedule) (tree : FileTree) (project : LoadedProject) (compiler : Compiler)
    (store : Store S) (version : String) (dryRun : Bool) (s : S) :
    Scene S × Except Failure Report :=
  sync schedule tree project compiler store.watched version dryRun ⟨tree, s, []⟩

section Watch

variable {schedule : Schedule} {tree : FileTree} {project : LoadedProject} {compiler : Compiler}
  {store : Store S} {version : String} {s : S} {components : Components}

/-- Watching a synchronisation does not change it. -/
theorem sync_eq_watch (dryRun : Bool) :
    sync schedule tree project compiler store version dryRun s =
      ((watch schedule tree project compiler store version dryRun s).1.remote,
        (watch schedule tree project compiler store version dryRun s).2) :=
  sync_watched schedule tree project compiler store version dryRun ⟨tree, s, []⟩

/-- No file is written. -/
theorem files_watch (dryRun : Bool) :
    (watch schedule tree project compiler store version dryRun s).1.files = tree :=
  sync_invariant (P := fun scene : Scene S => scene.files = tree) (fun _ _ h => h)
    (fun _ _ _ _ h => h) rfl

/-- What a watched store is told of collecting is what an unwatched one is told. -/
theorem collect_watch_snd :
    (collect schedule tree project compiler store.watched ⟨tree, s, []⟩).2 =
      (collect schedule tree project compiler store s).2 :=
  (congrArg Prod.snd (collect_watched schedule tree project compiler store ⟨tree, s, []⟩)).symm

/-- Without its components it calls nothing. -/
theorem watch_of_load_error {failure : Failure} (dryRun : Bool)
    (h : Components.load tree project.toProject = .error failure) :
    watch schedule tree project compiler store version dryRun s =
      (⟨tree, s, []⟩, .error failure) := by
  rw [watch, sync_of_collect_error (by rw [collect_of_load_error h]), collect_of_load_error h]

/-- If collecting fails the store is asked to fetch and for nothing else. -/
theorem watch_of_collect_error {failure : Failure} (dryRun : Bool)
    (hload : Components.load tree project.toProject = .ok components)
    (h : (collect schedule tree project compiler store s).2 = .error failure) :
    (watch schedule tree project compiler store version dryRun s).2 = .error failure ∧
      (watch schedule tree project compiler store version dryRun s).1.calls.Perm
        (fetches schedule tree project compiler store s) := by
  rw [watch, sync_of_collect_error (by rw [collect_watch_snd, h])]
  obtain ⟨asked, hcalls, hperm⟩ := calls_collect schedule compiler store hload ⟨tree, s, []⟩
  refine ⟨rfl, ?_⟩
  rw [hcalls]
  exact hperm

/-- If collecting succeeds, a dry run says what has changed, and the store is only asked to
fetch. -/
theorem watch_dry_of_collect (version : String) {cs : List Comparable}
    (hload : Components.load tree project.toProject = .ok components)
    (h : (collect schedule tree project compiler store s).2 = .ok cs) :
    (watch schedule tree project compiler store version true s).2 =
        .ok ⟨true, (changes cs).map Comparable.template⟩ ∧
      (watch schedule tree project compiler store version true s).1.calls.Perm
        (fetches schedule tree project compiler store s) := by
  rw [watch, sync_dry_of_collect (by rw [collect_watch_snd, h])]
  obtain ⟨asked, hcalls, hperm⟩ := calls_collect schedule compiler store hload ⟨tree, s, []⟩
  refine ⟨rfl, ?_⟩
  rw [hcalls]
  exact hperm

/-- If collecting succeeds, a live run fetches everything and then publishes what has changed; what
comes of publishing decides what comes of the run. -/
theorem watch_live_of_collect (version : String) {cs : List Comparable}
    (hload : Components.load tree project.toProject = .ok components)
    (h : (collect schedule tree project compiler store s).2 = .ok cs) :
    (watch schedule tree project compiler store version false s).2 =
        (firstFailure (published schedule store (changes cs) version
          (collect schedule tree project compiler store s).1)).map
            (fun _ => ⟨false, (changes cs).map Comparable.template⟩) ∧
      ∃ asked posted,
        (watch schedule tree project compiler store version false s).1.calls = asked ++ posted ∧
        asked.Perm (fetches schedule tree project compiler store s) ∧
        posted.Perm (posts (changes cs) version (published schedule store (changes cs) version
          (collect schedule tree project compiler store s).1)) := by
  have hremote := congrArg Prod.fst
    (collect_watched schedule tree project compiler store ⟨tree, s, []⟩)
  obtain ⟨asked, hasked, hfetches⟩ := calls_collect schedule compiler store hload ⟨tree, s, []⟩
  obtain ⟨posted, hposted, hpublishes⟩ := calls_publish schedule store (changes cs) version
    (collect schedule tree project compiler store.watched ⟨tree, s, []⟩).1
  rw [watch, sync_live_of_collect (by rw [collect_watch_snd, h]), hremote]
  refine ⟨by rw [published_watched], asked, posted, ?_, hfetches, hpublishes⟩
  rw [hposted, hasked, List.nil_append]

end Watch

end Sync

end MailTemplates
