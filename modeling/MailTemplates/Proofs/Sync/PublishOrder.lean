import MailTemplates.Proofs.Sync.Contents
import MailTemplates.Proofs.Sync.UpdateSet
/-!
# The order of publishing

All publishes of a synchronisation are started at once. What the store holds afterwards does not
depend on the order in which they take effect, provided that those of one id agree on its content. A
project whose templates have ids of their own meets that, but loading does not ask for it: a
manifest may give one id to two templates. If these differ then the content of the id is that of
whichever publish ends last, and the two orders leave different contents.

What the store holds for an id is what the last publication of that id has made of it. If all agree
on the content, the last one may be any of them, and all orders leave the same. If they do not, the
schedule can choose which is last: `Schedule.delaying` delays a single worker, for one number of
workers only, so that the fetches, of which there are more, are not touched.

Main statements: `sync_contents_order_free` and `load_twins_order_matters`.
-/

namespace MailTemplates

variable {S : Type}

/-- The schedule that delays one of so many workers until all others are done. -/
def Schedule.delaying (schedule : Schedule) (n i : Nat) (hi : i < n) : Schedule where
  order m := if m = n then (schedule.order m).erase i ++ [i] else schedule.order m
  isPerm m := by
    split
    · next h =>
      subst h
      have hmem : i ∈ schedule.order m := schedule.mem_order.2 hi
      have hfront : (schedule.order m).Perm (i :: (schedule.order m).erase i) :=
        List.perm_cons_erase hmem
      exact (List.perm_append_singleton ..).trans (hfront.symm.trans (schedule.isPerm m))
    · exact schedule.isPerm m

/-- A delayed worker comes last. -/
theorem Schedule.order_delaying (schedule : Schedule) {n i : Nat} (hi : i < n) :
    (schedule.delaying n i hi).order n = (schedule.order n).erase i ++ [i] := if_pos rfl

/-- Other numbers of workers are scheduled as before. -/
theorem Schedule.order_delaying_of_ne (schedule : Schedule) {n m i : Nat} (hi : i < n)
    (h : m ≠ n) : (schedule.delaying n i hi).order m = schedule.order m := if_neg h

namespace Sync

section Order

variable {store : Store S} {contents : S → String → Option String} {schedule : Schedule}
  {tree : FileTree} {project : LoadedProject} {compiler : Compiler} {version : String} {s : S}
  {cs : List Comparable}

/-- There are more jobs of collecting than there are templates to publish, if there are any. -/
theorem length_changes_lt (hcollect : (collect schedule tree project compiler store s).2 = .ok cs)
    (h : 0 < (changes cs).length) : (changes cs).length < (jobs project.templates).length := by
  have hle : (changes cs).length ≤ cs.length := List.length_filter_le ..
  have hcs : cs.length = project.templates.length := by
    rw [← templates_of_collect hcollect, List.length_map]
  rw [length_jobs]
  omega

/-- What a live synchronisation leaves, seen through a schedule that collects in the same order. -/
theorem sync_live_of_same_collect
    (hcollect : (collect schedule tree project compiler store s).2 = .ok cs) {other : Schedule}
    (hother : other.order (jobs project.templates).length =
      schedule.order (jobs project.templates).length) :
    sync other tree project compiler store version false s =
      ((publish other store (changes cs) version
          (collect schedule tree project compiler store s).1).1,
        (firstFailure (published other store (changes cs) version
          (collect schedule tree project compiler store s).1)).map
            fun _ => ⟨false, (changes cs).map Comparable.template⟩) := by
  have hsame : collect other tree project compiler store s =
      collect schedule tree project compiler store s := collect_congr hother
  rw [sync_live_of_collect (by rw [hsame, hcollect]), hsame]

/-- If a synchronisation succeeds, all its publications have. -/
theorem published_of_sync_ok
    (hcollect : (collect schedule tree project compiler store s).2 = .ok cs) {other : Schedule}
    (hother : other.order (jobs project.templates).length =
      schedule.order (jobs project.templates).length) {report : Report}
    (hsync : (sync other tree project compiler store version false s).2 = .ok report) :
    ∀ r ∈ published other store (changes cs) version
      (collect schedule tree project compiler store s).1, r = .ok () := by
  rw [sync_live_of_same_collect hcollect hother] at hsync
  obtain ⟨⟨⟩, hnone, -⟩ := map_eq_ok_iff.1 hsync
  exact firstFailure_eq_ok_iff.1 hnone

end Order

/-! ## Two templates of one id -/

def twinA : Template := ⟨"x", "a", "a", none, none, []⟩

def twinB : Template := ⟨"x", "b", "b", none, none, []⟩

/-- A project with two templates of one id. -/
def twins : LoadedProject := { letters with templates := [twinA, twinB] }

/-- The files that the twins are loaded from. -/
def twinFiles : FileTree := ⟨letterFiles.entries ++ [
  (["p", "package.json"], .file "\x7b\x7d".toUTF8 false),
  (["p", "templates.json"], .file ("\x7b\"templates\":[" ++
    "\x7b\"id\":\"x\",\"name\":\"a\",\"template\":\"a\"\x7d," ++
    "\x7b\"id\":\"x\",\"name\":\"b\",\"template\":\"b\"\x7d]\x7d").toUTF8 false)]⟩

/-- The project with two templates of one id can be loaded. -/
theorem load_twins : LoadedProject.load twinFiles .builtIn .prod ⟨"/p"⟩ = .ok twins := by
  have hroot : findRoot twinFiles ⟨"/p"⟩ = .ok ⟨"/p"⟩ := eq_ok_of_toOption (by decide +kernel)
  have hpackage : readWith twinFiles Package.parse (Path.join ⟨"/p"⟩ ⟨Package.fileName⟩) =
      .ok ⟨none, none, []⟩ :=
    eq_ok_of_toOption (by decide +kernel)
  have hmanifest :
      LoadedProject.readManifest twinFiles (Path.join ⟨"/p"⟩ ⟨LoadedProject.manifestName⟩) =
        .ok ⟨[twinA, twinB], [], []⟩ :=
    eq_ok_of_toOption (by decide +kernel)
  have hsort : LoadedProject.sortTemplates [twinA, twinB] = [twinA, twinB] := by
    simp [LoadedProject.sortTemplates, List.mergeSort, LoadedProject.nameLe, twinA, twinB]
  have hconfigure : LoadedProject.configure twinFiles twins.toProject = .ok twins.toProject :=
    eq_ok_of_toOption (by decide +kernel)
  have hload : LoadedProject.load twinFiles .builtIn .prod ⟨"/p"⟩ =
      (LoadedProject.configure twinFiles
        { twins.toProject with templates := LoadedProject.sortTemplates [twinA, twinB] }).map
          fun project => { project with preprocessors := [], postprocessors := [] } := by
    simp only [LoadedProject.load, hroot, bind, Except.bind, hpackage, hmanifest]
    rfl
  rw [hload, hsort]
  show (LoadedProject.configure twinFiles twins.toProject).map _ = _
  rw [hconfigure]
  rfl

/-- The twins are loaded, every publish of theirs succeeds, and the order of the two decides what
the store holds. -/
theorem load_twins_order_matters :
    LoadedProject.load twinFiles .builtIn .prod ⟨"/p"⟩ = .ok twins ∧
      Memory.store.Replaces Memory.contents ∧
      ∃ first second : Schedule,
        first.order (jobs twins.templates).length = second.order (jobs twins.templates).length ∧
        (sync first twinFiles twins verbatim Memory.store "v" false {}).2 =
          .ok ⟨false, [twinA, twinB]⟩ ∧
        (sync second twinFiles twins verbatim Memory.store "v" false {}).2 =
          .ok ⟨false, [twinA, twinB]⟩ ∧
        (sync first twinFiles twins verbatim Memory.store "v" false {}).1.contents "x" = some "A" ∧
        (sync second twinFiles twins verbatim Memory.store "v" false {}).1.contents "x" =
          some "B" := by
  refine ⟨load_twins, Memory.store_replaces, Schedule.inOrder.delaying 2 0 (by decide), .inOrder,
    by decide, ?_, ?_, ?_, ?_⟩
  · exact eq_ok_of_toOption (by decide +kernel)
  · exact eq_ok_of_toOption (by decide +kernel)
  · decide +kernel
  · decide +kernel

/-!
## Orders that agree

The other direction of the question: under which condition the order does not matter, and that the
condition is needed.
-/

/-- With different ids, templates of one id have one content. -/
theorem content_eq_of_nodup {cs : List Comparable}
    (hids : (cs.map fun c => c.template.id).Nodup) :
    ∀ c ∈ cs, ∀ d ∈ cs, c.template.id = d.template.id → c.content = d.content := by
  intro c hc d hd hid
  rw [List.inj_on_of_nodup_map hids hc hd hid]

/-- If those published under one id agree on its content, all orders of publishing leave the same
contents. If every order succeeds, any member of the update set can be the one that its id holds. -/
theorem sync_contents_order_free {store : Store S} {contents : S → String → Option String}
    (hstore : store.Replaces contents) (schedule : Schedule) (tree : FileTree)
    (project : LoadedProject) (compiler : Compiler) (version : String) (s : S)
    {cs : List Comparable}
    (hcollect : (collect schedule tree project compiler store s).2 = .ok cs) :
    let n := (jobs project.templates).length
    let run := fun other => sync other tree project compiler store version false s
    ((∀ c ∈ changes cs, ∀ d ∈ changes cs,
        c.template.id = d.template.id → c.content = d.content) →
      ∀ first second : Schedule, first.order n = schedule.order n →
        second.order n = schedule.order n →
        ∀ report report', (run first).2 = .ok report → (run second).2 = .ok report' →
          contents (run first).1 = contents (run second).1) ∧
    ((∀ other : Schedule, other.order n = schedule.order n →
        ∃ report, (run other).2 = .ok report) →
      ∀ c ∈ changes cs, ∀ d ∈ changes cs, c.template.id = d.template.id →
        ∃ first second : Schedule, first.order n = schedule.order n ∧
          second.order n = schedule.order n ∧
          contents (run first).1 c.template.id = some c.content ∧
          contents (run second).1 c.template.id = some d.content) := by
  intro n run
  refine ⟨?_, ?_⟩
  · intro hagree first second hfirst hsecond report report' hok hok'
    -- With the contents agreed on, what an id holds is given without the order.
    have hall := published_of_sync_ok hcollect hfirst hok
    have hall' := published_of_sync_ok hcollect hsecond hok'
    funext id
    simp only [run]
    rw [sync_live_of_same_collect hcollect hfirst, sync_live_of_same_collect hcollect hsecond,
      contents_publish_of_agree hstore hall hagree, contents_publish_of_agree hstore hall' hagree]
  · intro hruns c hc d hd hid
    -- Either of the two can be made to end last.
    have hlast : ∀ e ∈ changes cs, ∃ other : Schedule, other.order n = schedule.order n ∧
        contents (run other).1 e.template.id = some e.content := by
      intro e he
      obtain ⟨i, hi, hget⟩ := List.getElem_of_mem he
      have hlt := length_changes_lt hcollect (List.length_pos_of_mem he)
      have hother : (schedule.delaying (changes cs).length i hi).order n = schedule.order n :=
        schedule.order_delaying_of_ne hi (Nat.ne_of_gt hlt)
      obtain ⟨report, hok⟩ := hruns _ hother
      have hall := published_of_sync_ok hcollect hother hok
      refine ⟨_, hother, ?_⟩
      simp only [run]
      rw [sync_live_of_same_collect hcollect hother]
      exact contents_publish_of_last hstore hall (schedule.order_delaying hi)
        (List.getElem?_eq_some_iff.2 ⟨hi, hget⟩)
    obtain ⟨first, hfirst, hcontents⟩ := hlast c hc
    obtain ⟨second, hsecond, hcontents'⟩ := hlast d hd
    rw [← hid] at hcontents'
    exact ⟨first, second, hfirst, hsecond, hcontents, hcontents'⟩

/-- Two letters with different ids leave the same contents in either order; two with one id do not.
-/
theorem sync_letters_order_free :
    let letterRun := fun schedule =>
      sync schedule letterFiles letters verbatim Memory.store "v" false {}
    let twinRun := fun schedule => sync schedule twinFiles twins verbatim Memory.store "v" false {}
    (letterRun .inOrder).1.contents =
        (letterRun (Schedule.inOrder.delaying 2 0 (by decide))).1.contents ∧
      ∃ first second, (twinRun first).1.contents "x" = some "A" ∧
        (twinRun second).1.contents "x" = some "B" := by
  intro letterRun twinRun
  refine ⟨?_, ?_⟩
  · have hcollect : (collect .inOrder letterFiles letters verbatim Memory.store {}).2 =
        .ok [⟨letterA, "A", ""⟩, ⟨letterB, "B", ""⟩] :=
      eq_ok_of_toOption (by decide +kernel)
    have hfirst : (letterRun .inOrder).2 = .ok ⟨false, [letterA, letterB]⟩ :=
      eq_ok_of_toOption (by decide +kernel)
    have hsecond : (letterRun (Schedule.inOrder.delaying 2 0 (by decide))).2 =
        .ok ⟨false, [letterA, letterB]⟩ :=
      eq_ok_of_toOption (by decide +kernel)
    have hfree := sync_contents_order_free Memory.store_replaces .inOrder letterFiles letters
      verbatim "v" {} hcollect
    exact hfree.1 (content_eq_of_nodup (by decide +kernel)) _ _ rfl (by decide) _ _ hfirst hsecond
  · have hcollect : (collect .inOrder twinFiles twins verbatim Memory.store {}).2 =
        .ok [⟨twinA, "A", ""⟩, ⟨twinB, "B", ""⟩] :=
      eq_ok_of_toOption (by decide +kernel)
    have hruns : ∀ other : Schedule, other.order (jobs twins.templates).length =
        Schedule.inOrder.order (jobs twins.templates).length →
        ∃ report, (twinRun other).2 = .ok report := by
      intro other hother
      have hall := published_of_refused_nil other
        (changes [⟨twinA, "A", ""⟩, ⟨twinB, "B", ""⟩]) "v"
        (show (collect .inOrder twinFiles twins verbatim Memory.store {}).1.refused = [] by
          decide +kernel)
      simp only [twinRun]
      rw [sync_live_of_same_collect hcollect hother, firstFailure_eq_ok_iff.2 hall]
      exact ⟨_, rfl⟩
    have hfree := sync_contents_order_free Memory.store_replaces .inOrder twinFiles twins verbatim
      "v" {} hcollect
    obtain ⟨first, second, -, -, hA, hB⟩ := hfree.2 hruns ⟨twinA, "A", ""⟩ (by decide +kernel)
      ⟨twinB, "B", ""⟩ (by decide +kernel) rfl
    exact ⟨first, second, hA, hB⟩

end Sync

end MailTemplates
