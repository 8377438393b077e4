import MailTemplates.Proofs.Sync.Contents
import MailTemplates.Proofs.Sync.UpdateSet
/-!
# Two synchronisations in a row

The store of this module keeps what is published and gives it back. If no two templates share an
id, a second synchronisation of the same files finds that exactly those templates have changed whose
publishing failed in the first. Every template that was published, or had not changed, is found as
it was built, whatever the orders of the two runs are.

The second run is compared with the first comparable by comparable (`against_of_landed`). What the
store holds for an id after the first run is what was published under it, if that was not refused,
and else what it held before; here the ids have to be different, or the publication of one template
might answer for another. The pages are the same in both runs, as no file is written in between. So
a comparable has changed in the second run exactly if it had changed in the first and was refused.

Main statement: `sync_retries_refused`.
-/

namespace MailTemplates

variable {S : Type}

/-- A comparable beside other contents of the store. -/
def Comparable.against (c : Comparable) (contents : String → Option String) : Comparable :=
  { c with remote := (contents c.template.id).getD "" }

namespace Sync

/-- Those of some published comparables whose publishing failed. -/
def refused (changed : List Comparable) (results : List (Outcome Unit)) : List Comparable :=
  ((changed.zip results).filter fun e => (refusal e.2).isSome).map Prod.fst

/-- Nothing is published of nothing. -/
theorem published_nil (schedule : Schedule) (store : Store S) (version : String) (s : S) :
    published schedule store [] version s = [] :=
  List.length_eq_zero_iff.1 (length_published ..)

/-- If all publications succeed, none is refused. -/
theorem refused_eq_nil_of_ok {changed : List Comparable} {results : List (Outcome Unit)}
    (h : ∀ r ∈ results, r = .ok ()) : refused changed results = [] := by
  rw [refused, List.map_eq_nil_iff, List.filter_eq_nil_iff]
  intro e he
  rw [h e.2 (List.of_mem_zip he).2]
  exact Bool.false_ne_true

section Collect

variable {store : Store S} {contents : S → String → Option String} {schedule : Schedule}
  {tree : FileTree} {project : LoadedProject} {compiler : Compiler} {s : S} {cs : List Comparable}

/-- Fetching gives what is stored, or the empty content. -/
theorem fetchedAt_eq (h : store.Keeps contents) (i : Nat) (t : Template) :
    fetchedAt schedule tree project compiler store s i t = .ok ((contents s t.id).getD "") := by
  rw [fetchedAt, h.fetched, startOf_invariant (P := fun s' => contents s' = contents s) ?_ rfl]
  intro w hw s' hs'
  obtain ⟨job, -, rfl⟩ := List.mem_map.1 hw
  cases job with
  | build t => exact hs'
  | fetch t => exact (h.contents_fetch t s').trans hs'

/-- Collecting does not change what is stored. -/
theorem contents_collect (h : store.Keeps contents) :
    contents (collect schedule tree project compiler store s).1 = contents s :=
  collect_invariant (P := fun s' => contents s' = contents s)
    (fun t s' hs' => (h.contents_fetch t s').trans hs') rfl

/-- Once collecting has succeeded it does so in every order and from every state, with the same
pages. -/
theorem collect_again (h : store.Keeps contents)
    (hcollect : (collect schedule tree project compiler store s).2 = .ok cs) (schedule' : Schedule)
    (s' : S) :
    (collect schedule' tree project compiler store s').2 =
      .ok (cs.map fun c => c.against (contents s')) := by
  obtain ⟨components, hload⟩ := load_of_collect hcollect
  rw [collect_eq_ok_iff hload] at hcollect ⊢
  obtain ⟨htemplates, hall⟩ := hcollect
  refine ⟨?_, ?_⟩
  · rw [List.map_map]
    exact htemplates
  · intro i c' hc'
    rw [List.getElem?_map] at hc'
    obtain ⟨c, hc, rfl⟩ := Option.map_eq_some_iff.1 hc'
    exact ⟨(hall i c hc).1, fetchedAt_eq h i c.template⟩

/-- What was collected is compared with what is stored. -/
theorem against_of_collect (h : store.Keeps contents)
    (hcollect : (collect schedule tree project compiler store s).2 = .ok cs) :
    ∀ c ∈ cs, c.against (contents s) = c := by
  have hagain := (collect_again h hcollect schedule s).symm.trans hcollect
  rw [Except.ok.injEq] at hagain
  exact List.map_inj_left.1 (hagain.trans (List.map_id cs).symm)

end Collect

/-!
## What has changed afterwards

Here the two runs are compared for one template, and then for all of them; the comparables of the
second run are those of the first against the new contents.
-/

/-- A comparable stays as it is if its id holds what it held. -/
theorem against_of_eq {before after : String → Option String} {c : Comparable}
    (hbefore : c.against before = c) (h : after c.template.id = before c.template.id) :
    c.against after = c := by
  rw [Comparable.against, h]
  exact hbefore

/-- A comparable that was published has changed still exactly if its publishing failed, and then it
is as it was. -/
theorem against_of_landed {before after : String → Option String} {c : Comparable}
    {o : Outcome Unit} (hchanged : c.isChanged = true) (hbefore : c.against before = c)
    (h : after c.template.id = landed before c o c.template.id) :
    (c.against after).isChanged = (refusal o).isSome ∧
      ((refusal o).isSome = true → c.against after = c) := by
  rcases o with halt | ⟨⟩
  · have hkeeps := against_of_eq hbefore h
    refine ⟨?_, fun _ => hkeeps⟩
    rw [hkeeps]
    exact hchanged
  · refine ⟨?_, fun hsome => nomatch hsome⟩
    rw [landed, Function.update_self] at h
    simp [Comparable.against, Comparable.isChanged, h, refusal]

/-- The comparables that have changed after publishing are those whose publishing failed, if each
published id holds what its own publish made of it and every other id what it held. -/
theorem changes_against {before after : String → Option String} {cs : List Comparable}
    {results : List (Outcome Unit)} (hlength : results.length = (changes cs).length)
    (hbefore : ∀ c ∈ cs, c.against before = c)
    (hpublished : ∀ e ∈ (changes cs).zip results,
      after e.1.template.id = landed before e.1 e.2 e.1.template.id)
    (hkept : ∀ c ∈ cs, c ∉ changes cs → after c.template.id = before c.template.id) :
    changes (cs.map fun c => c.against after) = refused (changes cs) results := by
  have hzip : ((changes cs).zip results).map Prod.fst = changes cs :=
    List.map_fst_zip (Nat.le_of_eq hlength.symm)
  -- What had not changed was not published, so it has not changed now.
  have hold : ∀ c ∈ cs, (c.against after).isChanged = true → c.isChanged = true := by
    intro c hc h
    by_contra hsame
    have hmem : c ∉ changes cs := fun hm => hsame (List.mem_filter.1 hm).2
    rw [against_of_eq (hbefore c hc) (hkept c hc hmem)] at h
    exact hsame h
  have hfilter : cs.filter (fun c => (c.against after).isChanged) =
      (changes cs).filter fun c => (c.against after).isChanged := by
    rw [changes, List.filter_filter]
    apply List.filter_congr
    intro c hc
    rw [Bool.eq_iff_iff, Bool.and_eq_true]
    exact ⟨fun h => ⟨h, hold c hc h⟩, fun h => h.1⟩
  have hrefused : ∀ e ∈ (changes cs).zip results,
      (e.1.against after).isChanged = (refusal e.2).isSome ∧
        ((refusal e.2).isSome = true → e.1.against after = e.1) := by
    intro e he
    have hc := List.mem_filter.1 (List.of_mem_zip he).1
    exact against_of_landed hc.2 (hbefore e.1 hc.1) (hpublished e he)
  have hchosen : (changes cs).filter (fun c => (c.against after).isChanged) =
      refused (changes cs) results := by
    rw [refused, ← hzip, List.filter_map, hzip]
    congr 1
    apply List.filter_congr
    intro e he
    exact (hrefused e he).1
  rw [changes, List.filter_map]
  show (cs.filter fun c => (c.against after).isChanged).map _ = _
  rw [hfilter, hchosen]
  refine (List.map_congr_left ?_).trans (List.map_id _)
  intro c hc
  obtain ⟨e, he, rfl⟩ := List.mem_map.1 hc
  obtain ⟨hmem, hfailed⟩ := List.mem_filter.1 he
  exact (hrefused e hmem).2 hfailed

section Watch

variable {schedule : Schedule} {tree : FileTree} {project : LoadedProject} {compiler : Compiler}
  {store : Store S} {s : S} {cs : List Comparable}

/-- The update set of a synchronisation after a live one: what that one could not publish. -/
theorem changes_again {contents : S → String → Option String} (h : store.Keeps contents)
    (hids : (project.templates.map Template.id).Nodup)
    (hcollect : (collect schedule tree project compiler store s).2 = .ok cs) (version : String) :
    let collected := (collect schedule tree project compiler store s).1
    let after := (publish schedule store (changes cs) version collected).1
    changes (cs.map fun c => c.against (contents after)) =
      refused (changes cs) (published schedule store (changes cs) version collected) := by
  intro collected after
  have hcontents : contents collected = contents s := contents_collect h
  have hkeys : (cs.map fun c => c.template.id).Nodup := by
    have htemplates := templates_of_collect hcollect
    rw [← htemplates, List.map_map] at hids
    exact hids
  have hkeys' : ((changes cs).map fun c => c.template.id).Nodup :=
    hkeys.sublist (List.filter_sublist.map _)
  refine changes_against (length_published ..) (against_of_collect h hcollect) ?_ ?_
  -- Collecting leaves the contents alone, so both sides speak of those at the start.
  · rintro ⟨c, o⟩ he
    rw [← hcontents]
    exact contents_publish_of_mem h hkeys' he
  · intro c hc hkept
    rw [← hcontents]
    apply contents_publish_of_not_mem h
    intro d hd hid
    have hdc := List.inj_on_of_nodup_map hkeys (List.mem_filter.1 hd).1 hc hid
    exact hkept (hdc ▸ hd)

end Watch

/-- A live synchronisation tries every publish, whatever becomes of the others, and the next one
publishes exactly what that one could not. -/
theorem sync_retries_refused {store : Store S} {contents : S → String → Option String}
    (hstore : store.Keeps contents) (schedule again : Schedule) (tree : FileTree)
    (project : LoadedProject) (compiler : Compiler) (version next : String) (s : S)
    (hids : (project.templates.map Template.id).Nodup) {cs : List Comparable}
    (hcollect : (collect schedule tree project compiler store s).2 = .ok cs) :
    let first := watch schedule tree project compiler store version false s
    let results := published schedule store (changes cs) version
      (collect schedule tree project compiler store s).1
    let second := fun dryRun => watch again tree project compiler store next dryRun first.1.remote
    let gets := fetches again tree project compiler store first.1.remote
    let rest := refused (changes cs) results
    (∃ asked posted, first.1.calls = asked ++ posted ∧
      asked.Perm (fetches schedule tree project compiler store s) ∧
      posted.Perm (posts (changes cs) version results)) ∧
    (∀ failure, first.2 = .error failure ↔ results.findSome? refusal = some failure) ∧
    ((second true).2 = .ok ⟨true, rest.map Comparable.template⟩ ∧
      (second true).1.calls.Perm gets) ∧
    (∃ asked posted results', (second false).1.calls = asked ++ posted ∧ asked.Perm gets ∧
      results'.length = rest.length ∧ posted.Perm (posts rest next results')) ∧
    (∀ report, first.2 = .ok report → rest = [] ∧ (second true).2 = .ok ⟨true, []⟩ ∧
      (second false).2 = .ok ⟨false, []⟩ ∧ (second false).1.calls.Perm gets) := by
  intro first results second gets rest
  obtain ⟨components, hload⟩ := load_of_collect hcollect
  have hremote : first.1.remote = (publish schedule store (changes cs) version
      (collect schedule tree project compiler store s).1).1 := by
    have hsync : sync schedule tree project compiler store version false s =
        (first.1.remote, first.2) := sync_eq_watch false
    rw [sync_live_of_collect hcollect] at hsync
    exact congrArg Prod.fst hsync.symm
  -- The second run collects the same pages against what the first one has left in the store.
  have hagain := collect_again hstore hcollect again first.1.remote
  have hrest : changes (cs.map fun c => c.against (contents first.1.remote)) = rest := by
    rw [hremote]
    exact changes_again hstore hids hcollect version
  obtain ⟨hfirst, hcalls⟩ := watch_live_of_collect version hload hcollect
  obtain ⟨hdry, hdrycalls⟩ := watch_dry_of_collect next hload hagain
  obtain ⟨hlive, asked, posted, hlivecalls, hasked, hposted⟩ :=
    watch_live_of_collect next hload hagain
  rw [hrest] at hdry hlive hposted
  refine ⟨hcalls, ?_, ⟨hdry, hdrycalls⟩,
    ⟨asked, posted, _, hlivecalls, hasked, length_published .., hposted⟩, ?_⟩
  · intro failure
    rw [hfirst, ← firstFailure_eq_error_iff]
    exact map_eq_error_iff
  · intro report hok
    rw [hfirst] at hok
    obtain ⟨⟨⟩, hnone, -⟩ := map_eq_ok_iff.1 hok
    have hall : ∀ r ∈ results, r = .ok () := firstFailure_eq_ok_iff.1 hnone
    -- Nothing was refused, so nothing is left for the second run.
    have hnil : rest = [] := refused_eq_nil_of_ok hall
    rw [hnil] at hdry hlive hposted
    rw [published_nil] at hlive hposted
    rw [List.Perm.eq_nil hposted, List.append_nil] at hlivecalls
    exact ⟨hnil, hdry, hlive, hlivecalls ▸ hasked⟩

/-- One of two letters is refused: the second run has this one to publish. -/
theorem sync_retries_letterB :
    let start : Memory := { refused := [("b", .crash)] }
    let first := watch .reversed letterFiles letters verbatim Memory.steady "1" false start
    let second := watch .inOrder letterFiles letters verbatim Memory.steady "2" true first.1.remote
    first.2 = .error (.remote .publishCrashed) ∧ second.2 = .ok ⟨true, [letterB]⟩ := by
  intro start first second
  have hids : (letters.templates.map Template.id).Nodup := by decide
  have hcollect : (collect .reversed letterFiles letters verbatim Memory.steady start).2 =
      .ok [⟨letterA, "A", ""⟩, ⟨letterB, "B", ""⟩] :=
    eq_ok_of_toOption (by decide +kernel)
  obtain ⟨-, hfirst, ⟨hsecond, -⟩, -⟩ := sync_retries_refused Memory.steady_keeps .reversed .inOrder
    letterFiles letters verbatim "1" "2" start hids hcollect
  refine ⟨(hfirst _).2 (by decide +kernel), hsecond.trans ?_⟩
  exact eq_ok_of_toOption (by decide +kernel)

end Sync

end MailTemplates
