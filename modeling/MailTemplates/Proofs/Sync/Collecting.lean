import MailTemplates.Proofs.Fallible
import MailTemplates.Proofs.Sync.Settling
import MailTemplates.Sync.Run
/-!
# What collecting gives

Collecting starts two jobs for every template and joins their results by position. The result of a
build is that of building the template, whenever it ran (`pageOf`). The result of a fetch is what
the store answers in the state that the jobs before it in the order have left (`fetchedAt`). From
there on no order is left: `collect_of_load` compares the templates one after another, and so the
failure that counts is that of the first template in the order of the project that has one
(`collect_eq_error_iff`).

A schedule gives an order of the jobs, as a permutation of their numbers. The results are put back
by these numbers, so that the job of template `i` that builds is at `2 * i` and the one that fetches
behind it (`map_zipIdx_jobs`). The states of the store go along the order, the results do not: this
is why a fetch is described with the state that the jobs before it have left, and a build without
any.
-/

namespace MailTemplates

/-- What a halt counts as, if a crash counts as a given failure. -/
def Halt.cause (crashed : Failure) : Halt → Failure
  | .crash => crashed
  | .failure cause => cause

namespace Sync

variable {S : Type}

/-!
## The two jobs of a template

A job is described by what it gives, not by when it is run. For a fetch the state it starts from is
given along, as the store may answer differently after other fetches.
-/

/-- What building a template of a project gives, all components being there. -/
def pageOf (tree : FileTree) (project : LoadedProject) (compiler : Compiler) (t : Template) :
    Outcome String :=
  (Pipeline.ofProject project).buildTemplate tree project.toProject compiler project.components t

/-- What the fetch of the template at a position gives: its worker is the second one of the template
and starts in the state that those before it in the order have left. -/
def fetchedAt (schedule : Schedule) (tree : FileTree) (project : LoadedProject)
    (compiler : Compiler) (store : Store S) (s : S) (i : Nat) (t : Template) : Outcome String :=
  (store.fetch t (schedule.startOf
    ((jobs project.templates).map (worker store (pageOf tree project compiler))) s (2 * i + 1))).2

/-- The failure that counts for a template: that of its build before that of its fetch. -/
def failureOf (t : Template) (built fetched : Outcome String) : Option Failure :=
  match built, fetched with
  | .error halt, _ => some (halt.cause (.stage "build" t.label (.workerCrashed "building")))
  | .ok _, .error halt => some (halt.cause (.remote (.fetchCrashed t.id)))
  | .ok _, .ok _ => none

/-- A template has not failed if its build and its fetch have succeeded. -/
theorem failureOf_eq_none_iff {t : Template} {built fetched : Outcome String} :
    failureOf t built fetched = none ↔
      (∃ page, built = .ok page) ∧ ∃ content, fetched = .ok content := by
  cases built with
  | error halt => exact ⟨nofun, fun h => nomatch h.1⟩
  | ok page =>
    cases fetched with
    | error halt => exact ⟨nofun, fun h => nomatch h.2⟩
    | ok content => exact ⟨fun _ => ⟨⟨page, rfl⟩, content, rfl⟩, fun _ => rfl⟩

/-- Puts the results of the two jobs of a template together. -/
def compare (t : Template) (built fetched : Outcome String) : Except Failure Comparable := do
  let content ← builtPage t built
  let remote ← fetchedContent t fetched
  return ⟨t, content, remote⟩

theorem compare_ok (t : Template) (page content : String) :
    compare t (.ok page) (.ok content) = .ok ⟨t, page, content⟩ := rfl

/-- The failure of a comparison is that of the build, or else that of the fetch. -/
theorem errorOf?_compare (t : Template) (built fetched : Outcome String) :
    errorOf? (compare t built fetched) = failureOf t built fetched := by
  rcases built with (_ | _) | page
  · rfl
  · rfl
  · rcases fetched with (_ | _) | content <;> rfl

/-- A comparison has the page and the content of the store. -/
theorem compare_eq_ok_iff {t : Template} {built fetched : Outcome String} {c : Comparable} :
    compare t built fetched = .ok c ↔
      c.template = t ∧ built = .ok c.content ∧ fetched = .ok c.remote := by
  rcases built with (_ | _) | page
  · exact ⟨nofun, fun h => nomatch h.2.1⟩
  · exact ⟨nofun, fun h => nomatch h.2.1⟩
  · rcases fetched with (_ | _) | content
    · exact ⟨nofun, fun h => nomatch h.2.2⟩
    · exact ⟨nofun, fun h => nomatch h.2.2⟩
    · constructor
      · intro h
        cases h
        exact ⟨rfl, rfl, rfl⟩
      · rintro ⟨rfl, hp, hf⟩
        cases hp
        cases hf
        rfl

/-!
## All jobs

The results come back in the order of the jobs, whatever the schedule was.
-/

/-- Every template has two jobs. -/
theorem length_jobs (ts : List Template) : (jobs ts).length = 2 * ts.length := by
  induction ts with
  | nil => rfl
  | cons t ts ih =>
    rw [jobs, List.flatMap_cons, List.length_append, ← jobs, ih]
    show 2 + 2 * ts.length = 2 * (ts.length + 1)
    omega

/-- The jobs of some templates by position: those of the template at `i` are at `2 * i` and behind
it. -/
theorem map_zipIdx_jobs {β : Type} (g : Job → Nat → β) (ts : List Template) (k : Nat) :
    ((jobs ts).zipIdx (2 * k)).map (fun e => g e.1 e.2) =
      (ts.zipIdx k).flatMap fun e => [g (.build e.1) (2 * e.2), g (.fetch e.1) (2 * e.2 + 1)] := by
  induction ts generalizing k with
  | nil => rfl
  | cons t ts ih =>
    have hnext : 2 * k + 1 + 1 = 2 * (k + 1) := by omega
    simp only [jobs, List.flatMap_cons, List.cons_append, List.nil_append, List.zipIdx_cons,
      List.map_cons, hnext]
    rw [← ih (k + 1)]
    rfl

section Run

variable (schedule : Schedule) (tree : FileTree) (project : LoadedProject) (compiler : Compiler)
  (store : Store S) (s : S)

/-- The jobs of a project beside what comes of them. -/
def outcomes : List (Job × Outcome String) :=
  project.templates.zipIdx.flatMap fun e =>
    [(.build e.1, pageOf tree project compiler e.1),
      (.fetch e.1, fetchedAt schedule tree project compiler store s e.2 e.1)]

/-- The jobs of a project in the order in which they end, with what comes of them. -/
def collected : List (Job × Outcome String) :=
  endings schedule (jobs project.templates) (worker store (pageOf tree project compiler)) s

/-- The results of all jobs are those that the outcomes list. -/
theorem settle_jobs :
    (settle schedule ((jobs project.templates).map
      (worker store (pageOf tree project compiler))) s).2 =
      (outcomes schedule tree project compiler store s).map Prod.snd := by
  rw [settle_results, outcomes, List.map_flatMap]
  exact map_zipIdx_jobs (fun job i => (worker store (pageOf tree project compiler) job
    (schedule.startOf _ s i)).2) project.templates 0

/-- Every job has one outcome. -/
theorem map_fst_outcomes :
    (outcomes schedule tree project compiler store s).map Prod.fst = jobs project.templates := by
  have h := map_zipIdx_jobs (fun job _ => job) project.templates 0
  rw [outcomes, List.map_flatMap]
  exact h.symm.trans (List.zipIdx_map_fst ..)

/-- Every build and every fetch is done exactly once. -/
theorem perm_collected :
    (collected schedule tree project compiler store s).Perm
      (outcomes schedule tree project compiler store s) := by
  have h := perm_endings schedule (jobs project.templates)
    (worker store (pageOf tree project compiler)) s
  rw [settle_jobs] at h
  rw [List.zip_of_prod (map_fst_outcomes schedule tree project compiler store s) rfl]
  exact h

end Run

/-!
## From results to comparables

Two results next to each other belong to one template. They are compared in the order of the
project, and the first failure among them ends it.
-/

/-- Results in the order of the jobs are compared two by two. -/
theorem comparables_flatMap (b f : Template × Nat → Outcome String) (ts : List Template) (k : Nat) :
    comparables ts ((ts.zipIdx k).flatMap fun e => [b e, f e]) =
      (ts.zipIdx k).mapM fun e => compare e.1 (b e) (f e) := by
  induction ts generalizing k with
  | nil => rfl
  | cons t ts ih =>
    rw [List.zipIdx_cons, List.flatMap_cons, List.mapM_cons, ← ih (k + 1)]
    simp only [List.cons_append, List.nil_append, comparables, compare]
    cases builtPage t (b (t, k)) with
    | error e => rfl
    | ok page => cases fetchedContent t (f (t, k)) <;> rfl

/-- The failure that counts: that of the first template that has one. -/
def firstFailureOf (schedule : Schedule) (tree : FileTree) (project : LoadedProject)
    (compiler : Compiler) (store : Store S) (s : S) : Option Failure :=
  project.templates.zipIdx.findSome? fun e =>
    failureOf e.1 (pageOf tree project compiler e.1)
      (fetchedAt schedule tree project compiler store s e.2 e.1)

section Collect

variable {schedule : Schedule} {tree : FileTree} {project : LoadedProject} {compiler : Compiler}
  {store : Store S} {s : S} {components : Components}

/-- Nothing has failed if all builds and all fetches have succeeded. -/
theorem firstFailureOf_eq_none_iff :
    firstFailureOf schedule tree project compiler store s = none ↔
      ∀ i t, project.templates[i]? = some t →
        (∃ page, pageOf tree project compiler t = .ok page) ∧
          ∃ content, fetchedAt schedule tree project compiler store s i t = .ok content := by
  rw [firstFailureOf, List.findSome?_eq_none_iff]
  constructor
  · intro h i t ht
    exact failureOf_eq_none_iff.1 (h (t, i) (List.mem_zipIdx_iff_getElem?.2 ht))
  · intro h e he
    exact failureOf_eq_none_iff.2 (h e.2 e.1 (List.mem_zipIdx_iff_getElem?.1 he))

/-- If all components are there, collecting settles all jobs and compares the templates one after
another. -/
theorem collect_of_load (h : Components.load tree project.toProject = .ok components) :
    collect schedule tree project compiler store s =
      ((settle schedule ((jobs project.templates).map
          (worker store (pageOf tree project compiler))) s).1,
        project.templates.zipIdx.mapM fun e =>
          compare e.1 (pageOf tree project compiler e.1)
            (fetchedAt schedule tree project compiler store s e.2 e.1)) := by
  have hc := ((Components.load_eq_ok_iff ..).1 h).1
  subst hc
  rw [← comparables_flatMap]
  simp only [collect, h]
  have hr := settle_jobs schedule tree project compiler store s
  rw [outcomes, List.map_flatMap] at hr
  exact congrArg (fun results => (_, comparables project.templates results)) hr

/-- Collecting does the jobs one after another as they end. -/
theorem fst_collect (h : Components.load tree project.toProject = .ok components) :
    (collect schedule tree project compiler store s).1 =
      (collected schedule tree project compiler store s).foldl
        (fun s e => (worker store (pageOf tree project compiler) e.1 s).1) s := by
  rw [collect_of_load h]
  exact view_settle id (fun s job _ => (worker store (pageOf tree project compiler) job s).1)
    schedule (fun _ _ _ => rfl) s

/-- Collecting fails with the first failure. -/
theorem collect_eq_error_iff (h : Components.load tree project.toProject = .ok components)
    {failure : Failure} :
    (collect schedule tree project compiler store s).2 = .error failure ↔
      firstFailureOf schedule tree project compiler store s = some failure := by
  rw [collect_of_load h, mapM_eq_error_iff]
  simp only [errorOf?_compare]
  rfl

/-- Collecting succeeds with comparables that stand for the templates, in their order, and hold what
came of their own jobs. -/
theorem collect_eq_ok_iff (h : Components.load tree project.toProject = .ok components)
    {cs : List Comparable} :
    (collect schedule tree project compiler store s).2 = .ok cs ↔
      cs.map Comparable.template = project.templates ∧ ∀ i c, cs[i]? = some c →
        pageOf tree project compiler c.template = .ok c.content ∧
          fetchedAt schedule tree project compiler store s i c.template = .ok c.remote := by
  rw [collect_of_load h, mapM_eq_ok_iff]
  constructor
  · intro hmap
    -- The comparable at a position is that of the template there.
    have hget : ∀ i c, cs[i]? = some c → ∃ t, project.templates[i]? = some t ∧
        compare t (pageOf tree project compiler t)
          (fetchedAt schedule tree project compiler store s i t) = .ok c := by
      intro i c hc
      have hi := congrArg (·[i]?) hmap
      simp only [List.getElem?_map, List.getElem?_zipIdx, hc, Option.map_map] at hi
      obtain ⟨t, ht, hcmp⟩ := Option.map_eq_some_iff.1 hi
      exact ⟨t, ht, by simpa using hcmp⟩
    refine ⟨List.ext_getElem? fun i => ?_, fun i c hc => ?_⟩
    · rw [List.getElem?_map]
      cases hc : cs[i]? with
      | some c =>
        obtain ⟨t, ht, hcmp⟩ := hget i c hc
        rw [ht, Option.map_some, (compare_eq_ok_iff.1 hcmp).1]
      | none =>
        have hlen := congrArg List.length hmap
        simp only [List.length_map, List.length_zipIdx] at hlen
        rw [List.getElem?_eq_none_iff] at hc
        rw [Option.map_none, List.getElem?_eq_none (by omega)]
    · obtain ⟨t, -, hcmp⟩ := hget i c hc
      obtain ⟨rfl, hp, hf⟩ := compare_eq_ok_iff.1 hcmp
      exact ⟨hp, hf⟩
  · rintro ⟨htemplates, hall⟩
    -- Both lists are compared position by position, as the fetch of a template depends on its
    -- position.
    apply List.ext_getElem?
    intro i
    rw [← htemplates, List.getElem?_map, List.getElem?_map, List.getElem?_zipIdx,
      List.getElem?_map]
    cases hc : cs[i]? with
    | none => rfl
    | some c =>
      obtain ⟨hp, hf⟩ := hall i c hc
      simp only [Option.map_some, Nat.zero_add, hp, hf, compare_ok]

/-- A collection that succeeds has its components. -/
theorem load_of_collect {cs : List Comparable}
    (hcollect : (collect schedule tree project compiler store s).2 = .ok cs) :
    ∃ components, Components.load tree project.toProject = .ok components := by
  cases hload : Components.load tree project.toProject with
  | ok components => exact ⟨components, rfl⟩
  | error failure =>
    rw [collect_of_load_error hload] at hcollect
    nomatch hcollect

/-- It compares all templates, in the order of the project. -/
theorem templates_of_collect {cs : List Comparable}
    (hcollect : (collect schedule tree project compiler store s).2 = .ok cs) :
    cs.map Comparable.template = project.templates := by
  obtain ⟨components, hload⟩ := load_of_collect hcollect
  exact ((collect_eq_ok_iff hload).1 hcollect).1

/-- Schedules that order the jobs alike collect alike. -/
theorem collect_congr {first second : Schedule}
    (h : first.order (jobs project.templates).length =
      second.order (jobs project.templates).length) :
    collect first tree project compiler store s = collect second tree project compiler store s := by
  have hsettle : ∀ work : Job → Worker S (Outcome String),
      settle first ((jobs project.templates).map work) s =
        settle second ((jobs project.templates).map work) s := by
    intro work
    apply settle_congr
    rw [List.length_map]
    exact h
  simp only [collect, hsettle]

/-- Collecting leaves alone whatever the operations of the store leave alone. -/
theorem collect_invariant {P : S → Prop} (hfetch : ∀ t s, P s → P (store.fetch t s).1) (hs : P s) :
    P (collect schedule tree project compiler store s).1 := by
  cases h : Components.load tree project.toProject with
  | error failure => rwa [collect_of_load_error h]
  | ok components =>
    rw [collect_of_load h]
    refine settle_invariant (fun w hw s hs => ?_) hs
    obtain ⟨job, -, rfl⟩ := List.mem_map.1 hw
    cases job with
    | build t => exact hs
    | fetch t => exact hfetch t s hs

end Collect

end Sync

end MailTemplates
