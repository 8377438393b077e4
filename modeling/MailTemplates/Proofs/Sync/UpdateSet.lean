import MailTemplates.Proofs.Sync.Watching
/-!
# What is published, and when nothing is

The update set of a synchronisation are the templates whose page differs in some byte from what
their own fetch gave, in the order of the project. It does not depend on whether the run is dry: a
dry run reports it, a live one publishes each of its members once, under one version name, and
reports it if all of that succeeds.

Before that, every build and every fetch is run to its end. If any of them fails or crashes nothing
is published, and the failure that is reported is fixed by the order of the project and not by that
of the workers.

Main statements: `sync_publishes_changed_once` and `sync_stops_at_first_failure`.
-/

namespace MailTemplates

/-- The page and the content of a comparable differ if they differ in some byte. -/
theorem Comparable.isChanged_eq_bytes (c : Comparable) :
    c.isChanged = (c.content.toUTF8 != c.remote.toUTF8) := by
  have hbytes : (c.content.toUTF8 != c.remote.toUTF8) = true ↔
      ¬c.content.toUTF8.data = c.remote.toUTF8.data := bne_iff_ne (α := Array UInt8)
  have hdata : c.content.toUTF8.data = c.remote.toUTF8.data ↔ c.content = c.remote := by
    rw [← ByteArray.ext_iff]
    exact String.toByteArray_inj
  rw [Bool.eq_iff_iff, hbytes, hdata]
  exact c.isChanged_iff

namespace Sync

variable {S : Type}

/-! ## A project of two letters -/

def letterA : Template := ⟨"a", "a", "a", none, none, []⟩

def letterB : Template := ⟨"b", "b", "b", none, none, []⟩

/-- A project with two templates and nothing else. -/
def letters : LoadedProject where
  mode := .prod
  root := ⟨"/p"⟩
  package := ⟨none, none, []⟩
  configFile := none
  components := []
  templates := [letterA, letterB]
  preprocessors := []
  postprocessors := []

/-- The files of the two letters. -/
def letterFiles : FileTree := ⟨[
  (["p"], .directory),
  (["p", "a"], .file "A".toUTF8 false),
  (["p", "b"], .file "B".toUTF8 false)]⟩

/-- The compiler that gives a document as its page. -/
def verbatim : Compiler := fun document _ => .ok document

/-- The first letter is published already. -/
def firstSent : Memory := { active := [("a", .ok "A")] }

/-- The compiler that crashes on the second letter. -/
def crashOnB : Compiler := fun document _ =>
  if document = "B" then .error .crash else .ok document

/-!
## The update set

The pages and the contents are given here as functions, by what building and fetching have come to;
the update set is then a filter of the templates by these.
-/

/-- The comparable of a template at a position, from the pages and what was fetched. -/
def comparableAt (page : Template → String) (content : Nat → String) (e : Template × Nat) :
    Comparable :=
  ⟨e.1, page e.1, content e.2⟩

/-- The changed templates are those whose page and content differ in their bytes. -/
theorem changes_comparableAt (page : Template → String) (content : Nat → String)
    (es : List (Template × Nat)) :
    changes (es.map (comparableAt page content)) =
      (es.filter fun e => (page e.1).toUTF8 != (content e.2).toUTF8).map
        (comparableAt page content) := by
  rw [changes, List.filter_map]
  congr 1
  apply List.filter_congr
  intro e _
  exact (comparableAt page content e).isChanged_eq_bytes

section Collected

variable {schedule : Schedule} {tree : FileTree} {project : LoadedProject} {compiler : Compiler}
  {store : Store S} {s : S} {components : Components} {page : Template → String}
  {content : Nat → String}

/-- If all pages are built and all contents fetched, these are what is compared. -/
theorem collect_of_page (hload : Components.load tree project.toProject = .ok components)
    (hbuilt : ∀ t ∈ project.templates, pageOf tree project compiler t = .ok (page t))
    (hfetched : ∀ i t, project.templates[i]? = some t →
      fetchedAt schedule tree project compiler store s i t = .ok (content i)) :
    (collect schedule tree project compiler store s).2 =
      .ok (project.templates.zipIdx.map (comparableAt page content)) := by
  rw [collect_of_load hload, mapM_eq_ok_iff, List.map_map]
  apply List.map_congr_left
  intro e he
  have ht := List.mem_zipIdx_iff_getElem?.1 he
  rw [hbuilt e.1 (List.mem_of_getElem? ht), hfetched e.2 e.1 ht]
  rfl

/-- Then the fetches are one for each template, with its content. -/
theorem fetches_of_fetched (hfetched : ∀ i t, project.templates[i]? = some t →
      fetchedAt schedule tree project compiler store s i t = .ok (content i)) :
    fetches schedule tree project compiler store s =
      project.templates.zipIdx.map fun e => Call.fetch e.1 (.ok (content e.2)) := by
  apply List.map_congr_left
  intro e he
  rw [hfetched e.2 e.1 (List.mem_zipIdx_iff_getElem?.1 he)]

end Collected

/-- If every build and every fetch succeeds, a dry run reports the templates that have changed and
publishes nothing, and a live one publishes each of them exactly once.

Neither writes a file: a synchronisation is given the tree as a value and has no other way to the
files than its store, so the files of the scene are those at the start whatever the store does. -/
theorem sync_publishes_changed_once (schedule : Schedule) (tree : FileTree)
    (project : LoadedProject) (compiler : Compiler) (store : Store S) (version : String) (s : S)
    {components : Components} (hload : Components.load tree project.toProject = .ok components)
    {page : Template → String} {content : Nat → String}
    (hbuilt : ∀ t ∈ project.templates, pageOf tree project compiler t = .ok (page t))
    (hfetched : ∀ i t, project.templates[i]? = some t →
      fetchedAt schedule tree project compiler store s i t = .ok (content i)) :
    let changed := (project.templates.zipIdx.filter fun e =>
      (page e.1).toUTF8 != (content e.2).toUTF8).map Prod.fst
    let gets := project.templates.zipIdx.map fun e => Call.fetch e.1 (.ok (content e.2))
    let dry := watch schedule tree project compiler store version true s
    let live := watch schedule tree project compiler store version false s
    (sync schedule tree project compiler store version true s = (dry.1.remote, dry.2) ∧
      dry.2 = .ok ⟨true, changed⟩ ∧ dry.1.calls.Perm gets ∧ dry.1.files = tree) ∧
    (sync schedule tree project compiler store version false s = (live.1.remote, live.2) ∧
      ∃ outcomes : List (Outcome Unit), outcomes.length = changed.length ∧
        (∃ asked posted, live.1.calls = asked ++ posted ∧ asked.Perm gets ∧
          posted.Perm (List.zipWith (fun t o => Call.publish t (page t) version o) changed
            outcomes)) ∧
        ((∀ o ∈ outcomes, o = .ok ()) → live.2 = .ok ⟨false, changed⟩) ∧
        live.1.files = tree) := by
  intro changed gets dry live
  -- Collecting comes to one comparable for each template, so the changed ones are known before
  -- anything is published.
  have hcollect := collect_of_page hload hbuilt hfetched
  have hgets := fetches_of_fetched hfetched
  have hchanged := changes_comparableAt page content project.templates.zipIdx
  have hreport : (changes (project.templates.zipIdx.map (comparableAt page content))).map
      Comparable.template = changed := by
    rw [hchanged, List.map_map]
    rfl
  obtain ⟨hdry, hasked⟩ := watch_dry_of_collect version hload hcollect
  obtain ⟨hlive, asked, posted, hcalls, hasked', hposted⟩ :=
    watch_live_of_collect version hload hcollect
  rw [hreport] at hdry hlive
  rw [hgets] at hasked hasked'
  have hlength := length_published schedule store
    (changes (project.templates.zipIdx.map (comparableAt page content))) version
    (collect schedule tree project compiler store s).1
  rw [← List.length_map (f := Comparable.template), hreport] at hlength
  -- Only the number of the results matters from here on, not what the store did to get there.
  generalize published schedule store
    (changes (project.templates.zipIdx.map (comparableAt page content))) version
    (collect schedule tree project compiler store s).1 = results at hlive hposted hlength
  refine ⟨⟨sync_eq_watch true, hdry, hasked, files_watch true⟩, sync_eq_watch false, results,
    hlength, ⟨asked, posted, hcalls, hasked', ?_⟩, ?_, files_watch false⟩
  · rw [posts, hchanged, List.zipWith_map_left] at hposted
    rw [List.zipWith_map_left]
    exact hposted
  · intro hall
    rw [hlive, firstFailure_eq_ok_iff.2 hall]
    rfl

/-- One of two letters has changed: a dry run publishes nothing, the other run this letter. -/
theorem sync_publishes_letterB :
    (watch .reversed letterFiles letters verbatim Memory.store "v" true firstSent).2 =
        .ok ⟨true, [letterB]⟩ ∧
      ∃ o asked posted,
        (watch .reversed letterFiles letters verbatim Memory.store "v" false firstSent).1.calls =
          asked ++ posted ∧ posted.Perm [.publish letterB "B" "v" o] := by
  have hload : Components.load letterFiles letters.toProject = .ok [] :=
    eq_ok_of_toOption (by decide +kernel)
  have hbuilt : ∀ t ∈ letters.templates, pageOf letterFiles letters verbatim t =
      .ok (if t = letterA then "A" else "B") := by
    intro t ht
    rcases List.mem_cons.1 ht with rfl | ht
    · exact eq_ok_of_toOption (by decide +kernel)
    · cases List.mem_singleton.1 ht
      exact eq_ok_of_toOption (by decide +kernel)
  have hfetched : ∀ i t, letters.templates[i]? = some t →
      fetchedAt .reversed letterFiles letters verbatim Memory.store firstSent i t =
        .ok (if i = 0 then "A" else "") := by
    intro i t ht
    match i with
    | 0 =>
      cases ht
      exact eq_ok_of_toOption (by decide +kernel)
    | 1 =>
      cases ht
      exact eq_ok_of_toOption (by decide +kernel)
  have h := sync_publishes_changed_once .reversed letterFiles letters verbatim Memory.store "v"
    firstSent hload hbuilt hfetched
  have hchanged : ((letters.templates.zipIdx.filter fun e =>
      (if e.1 = letterA then "A" else "B").toUTF8 !=
        (if e.2 = 0 then "A" else "").toUTF8).map Prod.fst) = [letterB] := by
    decide +kernel
  simp only [hchanged] at h
  obtain ⟨⟨-, hdry, -⟩, -, outcomes, hlen, ⟨asked, posted, hcalls, -, hposted⟩, -⟩ := h
  match outcomes, hlen with
  | [o], _ => exact ⟨hdry, o, asked, posted, hcalls, hposted⟩

/-!
## Failures

Failures are reported in the order of the project, with the build of a template in front of its
fetch. A job that crashes counts as a failure of its stage.
-/

/-- A missing component starts no work. Else collecting, with which a run begins, does one job after
another as they end (`collected`), and these are the build and the fetch of each template, each of
them once and whatever comes of the others. Any failure among them keeps everything from being
published, and leaves the store as collecting has left it. -/
theorem sync_stops_at_first_failure (schedule : Schedule) (tree : FileTree)
    (project : LoadedProject) (compiler : Compiler) (store : Store S) (version : String)
    (dryRun : Bool) (s : S) :
    let run := watch schedule tree project compiler store version dryRun s
    sync schedule tree project compiler store version dryRun s = (run.1.remote, run.2) ∧
    (∀ failure, Components.load tree project.toProject = .error failure →
      run = (⟨tree, s, []⟩, .error failure)) ∧
    (∀ components, Components.load tree project.toProject = .ok components →
      (collect schedule tree project compiler store s).1 =
        (collected schedule tree project compiler store s).foldl
          (fun s e => (worker store (pageOf tree project compiler) e.1 s).1) s ∧
      (collected schedule tree project compiler store s).Perm
        (outcomes schedule tree project compiler store s) ∧
      ((∃ i t halt, project.templates[i]? = some t ∧
          (pageOf tree project compiler t = .error halt ∨
            fetchedAt schedule tree project compiler store s i t = .error halt)) →
        ∃ failure, firstFailureOf schedule tree project compiler store s = some failure ∧
          run.2 = .error failure ∧
          run.1.remote = (collect schedule tree project compiler store s).1 ∧
          run.1.calls.Perm (fetches schedule tree project compiler store s))) := by
  intro run
  refine ⟨sync_eq_watch dryRun, fun failure h => watch_of_load_error dryRun h, ?_⟩
  intro components hload
  refine ⟨fst_collect hload, perm_collected schedule tree project compiler store s, ?_⟩
  rintro ⟨i, t, halt, ht, hhalt⟩
  cases hfirst : firstFailureOf schedule tree project compiler store s with
  | none =>
    -- Without a failure both jobs of the template at `i` would have succeeded.
    obtain ⟨⟨page, hpage⟩, content, hcontent⟩ := firstFailureOf_eq_none_iff.1 hfirst i t ht
    rcases hhalt with h | h
    · rw [hpage] at h
      nomatch h
    · rw [hcontent] at h
      nomatch h
  | some failure =>
    have hcollect := (collect_eq_error_iff hload).2 hfirst
    obtain ⟨hrun, hcalls⟩ : run.2 = .error failure ∧
        run.1.calls.Perm (fetches schedule tree project compiler store s) :=
      watch_of_collect_error dryRun hload hcollect
    have hsync : (run.1.remote, run.2) =
        ((collect schedule tree project compiler store s).1, .error failure) :=
      (sync_eq_watch dryRun).symm.trans (sync_of_collect_error hcollect)
    exact ⟨failure, rfl, hrun, congrArg Prod.fst hsync, hcalls⟩

/-- A build and a fetch that crash: both contents are asked for, nothing is published, and the build
is blamed. -/
theorem sync_stops_at_crashed_build :
    let start : Memory := { active := [("b", .error .crash)] }
    let run := watch .reversed letterFiles letters crashOnB Memory.store "v" false start
    run.2 = .error (.stage "build" letterB.label (.workerCrashed "building")) ∧
      run.1.calls.Perm [.fetch letterA (.ok ""), .fetch letterB (.error .crash)] := by
  intro start run
  obtain ⟨-, -, h⟩ := sync_stops_at_first_failure .reversed letterFiles letters crashOnB
    Memory.store "v" false start
  obtain ⟨-, -, h⟩ := h [] (eq_ok_of_toOption (by decide +kernel))
  have hbuilt : pageOf letterFiles letters crashOnB letterB = .error .crash :=
    errorOf?_eq_some_iff.1 (by decide +kernel)
  have hfirst : firstFailureOf .reversed letterFiles letters crashOnB Memory.store start =
      some (.stage "build" letterB.label (.workerCrashed "building")) := by
    decide +kernel
  obtain ⟨failure, hfailure, hrun, -, hcalls⟩ := h ⟨1, letterB, .crash, rfl, .inl hbuilt⟩
  rw [hfirst] at hfailure
  cases hfailure
  exact ⟨hrun, hcalls.trans (.of_eq rfl)⟩

end Sync

end MailTemplates
