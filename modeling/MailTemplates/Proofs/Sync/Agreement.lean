import MailTemplates.Proofs.Build.Progress
import MailTemplates.Proofs.FileTree.Parents
import MailTemplates.Proofs.Stage.Reading
import MailTemplates.Proofs.Stage.Running
import MailTemplates.Proofs.Sync.Collecting
/-!
# Collecting after a build

A build writes while it goes on, and it looks up subjects; collecting does neither, and builds all
templates in one tree. Both use the same pipeline. If no file that the pipeline reads is one that
the build has written, then what the pipeline read for a template is still the same when the build
is over (`alike_of_growsTo`), and so is the page (`pageOf_of_progress`). The tree in which a
template fails is the one that the build leaves.

What a pipeline reads is listed along the run (`inputs`), each stage on what the one before it has
given, so that the files which later stages read are known only from the run itself. The argument
then has two steps. Writing changes no path of that list, as all that is written is written to the
paths of outputs. And a `Reader` gives the same where what it reads is alike, so the page is the
same, before the writing and after it.

For the failing template the same is used in the other direction: it stops the build in the tree
that the build leaves, and this is the tree that collecting starts from.

Main statement: `collect_agrees_with_build`.
-/

namespace MailTemplates

namespace FileTree

/-- Whether two paths name the same place. Two paths that both lead nowhere do not count. -/
def SamePlace (t : FileTree) (p q : Path) : Prop :=
  ∃ place, t.resolve p = .ok place ∧ t.resolve q = .ok place

/-- Paths lead to the same place if both resolve, to one. -/
theorem samePlace_iff {t : FileTree} {p q : Path} :
    t.SamePlace p q ↔ (t.resolve p).toOption ≠ none ∧
      (t.resolve p).toOption = (t.resolve q).toOption := by
  constructor
  · rintro ⟨place, hp, hq⟩
    rw [hp, hq]
    exact ⟨nofun, rfl⟩
  · rintro ⟨hsome, hsame⟩
    rcases cases_of_toOption_eq hsame with ⟨place, hp, hq⟩ | ⟨_, _, hp, -⟩
    · exact ⟨place, hp, hq⟩
    · exact absurd (congrArg Except.toOption hp) hsome

instance (t : FileTree) (p q : Path) : Decidable (t.SamePlace p q) :=
  decidable_of_iff _ samePlace_iff.symm

variable {before after : FileTree}

/-- A path is alike before and after writing if it names no place where something has changed. What
changes in writing is one place for each write, and only these. -/
theorem alike_of_growsTo (h : before.GrowsTo after) {p : Path}
    (hsame : ∀ place, after.resolve p = .ok place → after.node? place = before.node? place) :
    after.Alike before p := by
  refine ⟨?_, hsame⟩
  cases hafter : after.resolve p with
  | ok place => rw [resolve_of_node?_eq h hafter (hsame place hafter)]
  | error problem =>
    cases hbefore : before.resolve p with
    | error problem' => rfl
    | ok place => exact absurd (resolve_of_growsTo h hbefore) (by rw [hafter]; nofun)

/-- The directory of a file is alike before and after writing. -/
theorem alike_parent_of_growsTo (h : before.GrowsTo after) {p : Path} {content : String}
    (hread : before.readText p = .ok content) (other : Path) :
    after.Alike before (p.parent.getD other) := by
  obtain ⟨-, place, bytes, executable, hresolve, hfile⟩ :=
    isFile_eq_true_iff.1 (isFile_of_readText hread)
  obtain ⟨dir, hparent, hempty | ⟨here, hhere, hdirectory⟩⟩ := directory_of_file hresolve hfile
  · rw [hparent]
    obtain ⟨text⟩ := dir
    cases hempty
    exact ⟨rfl, fun place hplace => nomatch hplace⟩
  · have hpersists := persists_of_growsTo h
    rw [hparent]
    refine alike_of_growsTo h fun place hplace => ?_
    obtain rfl := Except.ok.inj ((resolve_of_growsTo h hhere).symm.trans hplace)
    rw [hdirectory, directory_of_persists hpersists hdirectory]

end FileTree

/-!
## What a pipeline reads

The stages of the project itself are taken as readers, which say what they look at. Compilers look
at no file of the tree, so they are left as they are.
-/

namespace Pipeline

/-- The stages of a project before compiling, those of the project itself being readers. -/
def readersBefore (mode : Mode) (pre : List Reader) : List Reader :=
  [.inclusion, .language, .translation] ++ pre ++ [.templating mode]

/-- The stages of a project behind compiling. -/
def readersBehind (post : List Reader) : List Reader := .strip :: post

/-- A project whose stages are readers has a pipeline of readers. -/
theorem ofProject_of_readers {project : LoadedProject} {pre post : List Reader}
    (hpre : project.preprocessors = pre.map Reader.stage)
    (hpost : project.postprocessors = post.map Reader.stage) :
    ofProject project = ⟨(readersBefore project.mode pre).map Reader.stage,
      (readersBehind post).map Reader.stage⟩ := by
  unfold ofProject readersBefore readersBehind
  rw [hpre, hpost, List.map_append, List.map_append, List.map_singleton, Reader.stage_templating]
  rfl

/-- What a pipeline reads for a template: its source, and then what the stages read, up to the first
that fails. It is computed in a tree along the run there; in another tree the list may be another
one, unless the two are alike at what is listed. -/
def inputs (pre post : List Reader) (tree : FileTree) (project : LoadedProject)
    (compiler : Compiler) (template : Template) : List Path :=
  let root := project.toProject
  project.sourceOf template ::
    match readSource tree root template with
    | .error _ => []
    | .ok source =>
      Reader.inputs (readersBefore project.mode pre) tree root template source ++
        match Pipe.run tree root template
            ((readersBefore project.mode pre).map Reader.stage) source with
        | .error _ => []
        | .ok document =>
          match compiler document (optionsFor root project.components template) with
          | .error _ => []
          | .ok page => Reader.inputs (readersBehind post) tree root template page

section Alike

variable {first second : FileTree} {project : LoadedProject} {pre post : List Reader}
  {compiler : Compiler} {template : Template}

/-- The source is read alike if its file is. -/
theorem toOption_readSource (h : first.Alike second (project.sourceOf template)) :
    (readSource first project.toProject template).toOption =
      (readSource second project.toProject template).toOption := by
  unfold readSource
  rw [toOption_inStage, toOption_inStage]
  rcases cases_of_toOption_eq (FileTree.toOption_readText h) with
    ⟨source, hfirst, hsecond⟩ | ⟨_, _, hfirst, hsecond⟩
  · rw [hfirst, hsecond]
  · rw [hfirst, hsecond]
    rfl

/-- The page of a template is the same in two trees that are alike at what the pipeline reads in the
one. The steps of the pipeline are gone through one after another; each gives the same in both
trees, and so the next one has the same text to start from. -/
theorem toOption_pageOf (hpre : project.preprocessors = pre.map Reader.stage)
    (hpost : project.postprocessors = post.map Reader.stage)
    (hdirectory : first.Alike second (project.directoryOf template))
    (h : ∀ p ∈ inputs pre post first project compiler template, first.Alike second p) :
    (Sync.pageOf first project compiler template).toOption =
      (Sync.pageOf second project compiler template).toOption := by
  unfold Sync.pageOf
  rw [buildTemplate_eq, buildTemplate_eq, ofProject_of_readers hpre hpost]
  rw [inputs, List.forall_mem_cons] at h
  obtain ⟨hsource, hstages⟩ := h
  refine toOption_bind_congr (toOption_readSource hsource) fun source hread => ?_
  rw [hread, List.forall_mem_append] at hstages
  obtain ⟨hbefore, hrest⟩ := hstages
  refine toOption_bind_congr (Reader.toOption_run hdirectory _ source hbefore)
    fun document hdocument => ?_
  rw [hdocument] at hrest
  dsimp only at hrest
  refine toOption_bind_congr rfl fun page hpage => ?_
  have hcompiled : compiler document
      (optionsFor project.toProject project.components template) = .ok page :=
    eq_ok_of_toOption (by rw [← toOption_inStage, hpage]; rfl)
  rw [hcompiled] at hrest
  exact Reader.toOption_run hdirectory _ page hrest

end Alike

end Pipeline

/-!
## The page after the build

What was built at some time is compared with what would be built at the end. In between only outputs
were written.
-/

namespace Build

/-- The paths of all files that a build of some templates writes. -/
def outputPaths (project : Project) (templates : List Template) : List Path :=
  templates.flatMap fun template =>
    [Artifact.pagePath project template, Artifact.subjectPath project template]

/-- What outputs write lies on the output paths of their templates. -/
theorem mem_outputPaths_of_mem_files {project : Project} {outputs : List Output}
    {templates : List Template} (houtputs : ∀ output ∈ outputs, output.template ∈ templates)
    {write : Path × String} (h : write ∈ outputs.flatMap (Output.files project)) :
    write.1 ∈ outputPaths project templates := by
  obtain ⟨output, houtput, hwrite⟩ := List.mem_flatMap.1 h
  refine List.mem_flatMap.2 ⟨output.template, houtputs output houtput, ?_⟩
  exact List.mem_map_of_mem hwrite

end Build

section After

variable {tree final : FileTree} {project : LoadedProject} {compiler : Compiler}
  {pre post : List Reader} {outputs : List Output}

/-- A page that is built has a source that can be read. -/
theorem readText_of_pageOf {template : Template} {page : String}
    (h : Sync.pageOf tree project compiler template = .ok page) :
    ∃ source, tree.readText (project.sourceOf template) = .ok source := by
  unfold Sync.pageOf at h
  rw [Pipeline.buildTemplate_eq] at h
  obtain ⟨source, hread, -⟩ := bind_eq_ok_iff.1 h
  exact ⟨source, Pipeline.readSource_eq_ok_iff.1 hread⟩

/-- What was built is built again after the build, if no file was written that is read for it. It
was built in a tree of some earlier time, and from then on only outputs have been written, none of
which is an input. -/
theorem pageOf_of_progress (hpre : project.preprocessors = pre.map Reader.stage)
    (hpost : project.postprocessors = post.map Reader.stage)
    (hprogress : Build.Progress project compiler project.components tree outputs final)
    {output : Output} (hmem : output ∈ outputs)
    (hapart : ∀ input ∈ Pipeline.inputs pre post final project compiler output.template,
      ∀ write ∈ outputs.flatMap (Output.files project.toProject),
        ¬final.SamePlace input write.1) :
    Sync.pageOf final project compiler output.template = .ok output.page := by
  -- Between the tree that the template was made from and the last one only outputs were written.
  obtain ⟨before, writes, hwrites, hsubset, hmake⟩ := Build.make_of_progress hprogress hmem
  have hgrows := FileTree.growsTo_of_writeAll hwrites
  have hpage : Sync.pageOf before project compiler output.template = .ok output.page :=
    (Build.make_eq_ok_iff.1 hmake).2
  obtain ⟨source, hread⟩ := readText_of_pageOf hpage
  have hinputs : ∀ input ∈ Pipeline.inputs pre post final project compiler output.template,
      final.Alike before input := by
    intro input hinput
    refine FileTree.alike_of_growsTo hgrows fun place hplace => ?_
    rcases FileTree.node?_of_writeAll hwrites place with hsame | ⟨write, hwrite, hresolve⟩
    · exact hsame
    · exact absurd ⟨place, hplace, hresolve⟩ (hapart input hinput write (hsubset hwrite))
  have hagree := Pipeline.toOption_pageOf hpre hpost
    (FileTree.alike_parent_of_growsTo hgrows hread project.root) hinputs
  rw [hpage] at hagree
  exact eq_ok_of_toOption hagree

/-- The components of a project are still there after a build. -/
theorem load_of_progress {components : Components} {made : FileTree} {name : String}
    (hload : Components.load tree project.toProject = .ok components)
    (hmade : (ensureDirectory tree project.toProject name).1 = made)
    (hprogress : Build.Progress project compiler components made outputs final) :
    components = project.components ∧ Components.load final project.toProject = .ok components := by
  obtain ⟨rfl, hfiles⟩ := (Components.load_eq_ok_iff ..).1 hload
  have hgains := gainsDirectories_ensureDirectory tree project.toProject name
  rw [hmade] at hgains
  have hpersists : tree.Persists final :=
    (FileTree.persists_of_gainsDirectories hgains).trans
      (FileTree.persists_of_growsTo
        (FileTree.growsTo_of_writeAll (Build.writeAll_of_progress hprogress)))
  exact ⟨rfl, (Components.load_eq_ok_iff ..).2
    ⟨rfl, fun c hc => FileTree.isFile_of_persists hpersists (hfiles c hc)⟩⟩

end After

/-- Whether a build comes to a template that has a subject and whose page fails with a cause. The
templates in front of it have been built, so that the tree is known in which it fails. -/
def Build.FailsInPipeline (tree : FileTree) (project : LoadedProject) (compiler : Compiler)
    (cause : Failure) : Prop :=
  ∃ components made directory outputs template later reached subject,
    Components.load tree project.toProject = .ok components ∧
    ensureDirectory tree project.toProject Artifact.directoryName = (made, .ok directory) ∧
    project.templates = outputs.map Output.template ++ template :: later ∧
    Build.Progress project compiler components made outputs reached ∧
    Translation.subject reached project.toProject template = .ok subject ∧
    (Pipeline.ofProject project).buildTemplate reached project.toProject compiler components
      template = .error (.failure cause)

namespace Sync

variable {S : Type}

/-- The first failure is that of the first template whose page fails, if none of the fetches does.
What the templates behind it would come to does not matter. -/
theorem firstFailureOf_eq_some {schedule : Schedule} {tree : FileTree} {project : LoadedProject}
    {compiler : Compiler} {store : Store S} {s : S} {before later : List Template}
    {template : Template} {cause : Failure}
    (htemplates : project.templates = before ++ template :: later)
    (hbefore : ∀ t ∈ before, ∃ page, pageOf tree project compiler t = .ok page)
    (hfetched : ∀ i t, project.templates[i]? = some t →
      ∃ content, fetchedAt schedule tree project compiler store s i t = .ok content)
    (hpage : pageOf tree project compiler template = .error (.failure cause)) :
    firstFailureOf schedule tree project compiler store s = some cause := by
  unfold firstFailureOf
  have hnone : (before.zipIdx.findSome? fun e => failureOf e.1 (pageOf tree project compiler e.1)
      (fetchedAt schedule tree project compiler store s e.2 e.1)) = none := by
    rw [List.findSome?_eq_none_iff]
    intro e he
    have hget := List.mem_zipIdx_iff_getElem?.1 he
    refine failureOf_eq_none_iff.2 ⟨hbefore e.1 (List.mem_of_getElem? hget), hfetched e.2 e.1 ?_⟩
    rw [htemplates, List.getElem?_append_left (List.getElem?_eq_some_iff.1 hget).1, hget]
  rw [htemplates, List.zipIdx_append, List.findSome?_append, hnone, List.zipIdx_cons,
    List.findSome?_cons, hpage]
  rfl

/-- If all pages are built and every fetch succeeds then collecting gives these pages. -/
theorem collect_of_pages {schedule : Schedule} {tree : FileTree} {project : LoadedProject}
    {compiler : Compiler} {store : Store S} {s : S} {components : Components}
    {outputs : List Output} (hload : Components.load tree project.toProject = .ok components)
    (htemplates : outputs.map Output.template = project.templates)
    (hpage : ∀ output ∈ outputs,
      pageOf tree project compiler output.template = .ok output.page)
    (hfetched : ∀ i t, project.templates[i]? = some t →
      ∃ content, fetchedAt schedule tree project compiler store s i t = .ok content) :
    ∃ cs, (collect schedule tree project compiler store s).2 = .ok cs ∧
      cs.map (fun c => (c.template, c.content)) =
        outputs.map fun output => (output.template, output.page) := by
  have hnone : firstFailureOf schedule tree project compiler store s = none := by
    refine firstFailureOf_eq_none_iff.2 fun i t ht => ⟨?_, hfetched i t ht⟩
    have hmem := List.mem_of_getElem? ht
    rw [← htemplates] at hmem
    obtain ⟨output, houtput, rfl⟩ := List.mem_map.1 hmem
    exact ⟨output.page, hpage output houtput⟩
  cases hcollect : (collect schedule tree project compiler store s).2 with
  | error failure =>
    rw [collect_eq_error_iff hload, hnone] at hcollect
    nomatch hcollect
  | ok cs =>
    obtain ⟨hsame, hcontents⟩ := (collect_eq_ok_iff hload).1 hcollect
    -- Pages are a function of the templates, so equal lists of templates have equal lists of pages.
    let page := fun t => (pageOf tree project compiler t).toOption.getD ""
    have hcontent : ∀ c ∈ cs, c.content = page c.template := by
      intro c hc
      obtain ⟨i, hi⟩ := List.getElem?_of_mem hc
      simp only [page, (hcontents i c hi).1, Except.toOption, Option.getD_some]
    have hbuilt : ∀ output ∈ outputs, output.page = page output.template := by
      intro output hmem
      simp only [page, hpage output hmem, Except.toOption, Option.getD_some]
    refine ⟨cs, rfl, ?_⟩
    calc cs.map (fun c => (c.template, c.content))
      _ = (cs.map Comparable.template).map fun t => (t, page t) := by
        rw [List.map_map]
        exact List.map_congr_left fun c hc => by rw [hcontent c hc]; rfl
      _ = (outputs.map Output.template).map fun t => (t, page t) := by rw [hsame, htemplates]
      _ = outputs.map fun output => (output.template, output.page) := by
        rw [List.map_map]
        exact List.map_congr_left fun output hmem => by rw [hbuilt output hmem]; rfl

/-- After a build, collecting gives the pages that the build has written, if no file that the
pipeline reads is one that a build writes and every fetch succeeds. If the pipeline has stopped the
build then collecting fails with the same failure. -/
theorem collect_agrees_with_build {tree final : FileTree} {project : LoadedProject}
    {compiler : Compiler} {outcome : Outcome (List Built)}
    (hbuild : build tree project compiler = (final, outcome)) {pre post : List Reader}
    (hpre : project.preprocessors = pre.map Reader.stage)
    (hpost : project.postprocessors = post.map Reader.stage)
    (hapart : ∀ template ∈ project.templates,
      ∀ input ∈ Pipeline.inputs pre post final project compiler template,
      ∀ output ∈ Build.outputPaths project.toProject project.templates,
        ¬final.SamePlace input output)
    (schedule : Schedule) (store : Store S) (s : S)
    (hfetched : ∀ i t, project.templates[i]? = some t →
      ∃ content, fetchedAt schedule final project compiler store s i t = .ok content) :
    let made := (ensureDirectory tree project.toProject Artifact.directoryName).1
    let collected := (collect schedule final project compiler store s).2
    (∀ results, outcome = .ok results → ∃ outputs cs,
      outputs.map Output.template = project.templates ∧
      results = outputs.map (Output.built project.toProject) ∧
      Build.Progress project compiler project.components made outputs final ∧
      Build.Written project.toProject made outputs final ∧
      collected = .ok cs ∧
      cs.map (fun c => (c.template, c.content)) =
        outputs.map fun output => (output.template, output.page)) ∧
    ∀ cause, Build.FailsInPipeline tree project compiler cause →
      outcome = .error (.failure cause) ∧ collected = .error cause ∧
        ∃ name label inner, cause = .stage name label inner := by
  intro made collected
  -- Whatever has been built is built again in the last tree, since no output is an input.
  have hpages : ∀ outputs : List Output, (∀ output ∈ outputs, output.template ∈ project.templates) →
      Build.Progress project compiler project.components made outputs final →
      ∀ output ∈ outputs, pageOf final project compiler output.template = .ok output.page := by
    intro outputs houtputs hprogress output hmem
    refine pageOf_of_progress hpre hpost hprogress hmem fun input hinput write hwrite => ?_
    exact hapart _ (houtputs output hmem) input hinput _
      (Build.mem_outputPaths_of_mem_files houtputs hwrite)
  refine ⟨?_, ?_⟩
  · rintro results rfl
    obtain ⟨components, made', directory, outputs, hload, hmade, htemplates, hresults,
      hprogress⟩ := progress_of_build hbuild
    obtain ⟨rfl, hfinal⟩ := load_of_progress hload (congrArg Prod.fst hmade) hprogress
    obtain rfl : made = made' := congrArg Prod.fst hmade
    have hpage := hpages outputs (fun output hmem => htemplates ▸ List.mem_map_of_mem hmem)
      hprogress
    obtain ⟨cs, hcs, hsame⟩ := collect_of_pages hfinal htemplates hpage hfetched
    exact ⟨outputs, cs, htemplates, hresults, hprogress, Build.written_of_progress hprogress, hcs,
      hsame⟩
  · rintro cause ⟨components, made', directory, outputs, template, later, reached, subject, hload,
      hmade, htemplates, hprogress, hsubject, hpage⟩
    obtain rfl : made = made' := congrArg Prod.fst hmade
    have hrun : build tree project compiler = (reached, .error (.failure cause)) := by
      rw [build_of_load hload, hmade, htemplates]
      exact Build.buildAll_of_not_made hprogress (Build.make_of_page_error hsubject hpage) later
    -- The template fails in the last tree, since nothing is written for it.
    rw [hbuild] at hrun
    cases hrun
    obtain ⟨rfl, hfinal⟩ := load_of_progress hload rfl hprogress
    refine ⟨rfl, (collect_eq_error_iff hfinal).2 (firstFailureOf_eq_some htemplates ?_ hfetched
      hpage), ?_⟩
    · intro t ht
      obtain ⟨output, hmem, rfl⟩ := List.mem_map.1 ht
      exact ⟨output.page, hpages outputs (fun output hmem =>
        htemplates ▸ List.mem_append_left _ (List.mem_map_of_mem hmem)) hprogress output hmem⟩
    · obtain ⟨name, inner, hstage⟩ := Pipeline.stage_of_buildTemplate_error hpage
      exact ⟨name, template.label, inner, hstage⟩

/-! ## Cards -/

/-- A card that includes a file and has words of its own for a language and a reader. -/
def cardA : Template := ⟨"a", "a", "a", some "en", none, []⟩

/-- A card that includes a file that is not there. -/
def cardB : Template := ⟨"b", "b", "b", some "en", none, []⟩

/-- A stage of the project itself. -/
def shout : Reader := .ofPure (.ofText "shout" fun cs => cs ++ ['!']) fun _ _ => rfl

/-- A preview of some cards. -/
def cards (templates : List Template) : LoadedProject where
  mode := .dev
  root := ⟨"/p"⟩
  package := ⟨none, none, []⟩
  configFile := none
  components := []
  templates := templates
  preprocessors := [shout.stage]
  postprocessors := []

/-- The stages of the cards are readers. -/
theorem preprocessors_cards (templates : List Template) :
    (cards templates).preprocessors = [shout].map Reader.stage := rfl

theorem postprocessors_cards (templates : List Template) :
    (cards templates).postprocessors = ([] : List Reader).map Reader.stage := rfl

/-- The files of the cards. -/
def cardFiles : FileTree := ⟨[
  (["p"], .directory),
  (["p", "a"], .file "<mj-include path=\"greeting\" /> \x7b\x7bwho\x7d\x7d".toUTF8 false),
  (["p", "b"], .file "<mj-include path=\"nowhere\" />".toUTF8 false),
  (["p", "greeting"], .file "<%= hi %>".toUTF8 false),
  (["p", "translations.json"],
    .file "\x7b\"en\":\x7b\"subject\":\"S\",\"hi\":\"Hello\"\x7d\x7d".toUTF8 false),
  (["p", "data.json"], .file "\x7b\"who\":\"Ann\"\x7d".toUTF8 false)]⟩

/-- Why the second card is not built. -/
def cardFailure : Failure :=
  .stage "inline-includes" "b (en)" (.inclusion (.unresolvable "nowhere" ⟨"/p"⟩ .notFound))

/-- Two cards, the second of which fails in the pipeline of a build. -/
theorem cards_fail_in_pipeline :
    Build.FailsInPipeline cardFiles (cards [cardA, cardB]) (fun document _ => .ok document)
      cardFailure := by
  let made := (ensureDirectory cardFiles (cards [cardA, cardB]).toProject Artifact.directoryName).1
  let output : Output := ⟨cardA, "S", "Hello Ann!"⟩
  let reached := made.writeAll (output.files (cards [cardA, cardB]).toProject)
  have hreached : reached = .ok (reached.toOption.getD made) := eq_ok_getD (by decide +kernel) made
  refine ⟨[], made, ⟨"/p/dist"⟩, [output], cardB, [], reached.toOption.getD made, "S",
    eq_ok_of_toOption (by decide +kernel), Prod.ext rfl (eq_ok_of_toOption (by decide +kernel)),
    rfl, .of_make (eq_ok_of_toOption (by decide +kernel)) hreached (.start _),
    eq_ok_of_toOption (by decide +kernel), ?_⟩
  exact errorOf?_eq_some_iff.1 (by decide +kernel)

/-- Cards that are built and collected: the pages agree, and so does the failure. -/
theorem collect_agrees_with_cards :
    let run := fun templates => build cardFiles (cards templates) fun document _ => .ok document
    let collected := fun templates => (collect .inOrder (run templates).1 (cards templates)
      (fun document _ => .ok document) Memory.store {}).2
    (∃ outputs : List Output,
      (run [cardA]).2 = .ok (outputs.map (Output.built (cards [cardA]).toProject)) ∧
      outputs.map (fun output => (output.template, output.page)) = [(cardA, "Hello Ann!")] ∧
      collected [cardA] = .ok [⟨cardA, "Hello Ann!", ""⟩]) ∧
    (run [cardA, cardB]).2 = .error (.failure cardFailure) ∧
      collected [cardA, cardB] = .error cardFailure := by
  intro run collected
  refine ⟨?_, ?_⟩
  · have hrun : (run [cardA]).2.toOption.isSome = true := by decide +kernel
    have hcollected : collected [cardA] = .ok [⟨cardA, "Hello Ann!", ""⟩] :=
      eq_ok_of_toOption (by decide +kernel)
    have hfetched : ∀ i t, (cards [cardA]).templates[i]? = some t → ∃ content,
        fetchedAt .inOrder (run [cardA]).1 (cards [cardA]) (fun document _ => .ok document)
          Memory.store {} i t = .ok content := by
      intro i t ht
      match i with
      | 0 =>
        cases ht
        exact ⟨"", eq_ok_of_toOption (by decide +kernel)⟩
    obtain ⟨hok, -⟩ := collect_agrees_with_build (Prod.eta (run [cardA])).symm
      (preprocessors_cards [cardA]) (postprocessors_cards [cardA]) (by decide +kernel) .inOrder
      Memory.store {} hfetched
    have hresults := eq_ok_getD hrun []
    obtain ⟨outputs, cs, -, hbuilt, -, -, hcs, hsame⟩ := hok _ hresults
    obtain rfl := Except.ok.inj (hcs.symm.trans hcollected)
    exact ⟨outputs, hbuilt ▸ hresults, hsame.symm, hcollected⟩
  · have hfetched : ∀ i t, (cards [cardA, cardB]).templates[i]? = some t → ∃ content,
        fetchedAt .inOrder (run [cardA, cardB]).1 (cards [cardA, cardB])
          (fun document _ => .ok document) Memory.store {} i t = .ok content := by
      intro i t ht
      match i with
      | 0 =>
        cases ht
        exact ⟨"", eq_ok_of_toOption (by decide +kernel)⟩
      | 1 =>
        cases ht
        exact ⟨"", eq_ok_of_toOption (by decide +kernel)⟩
    obtain ⟨-, hfails⟩ := collect_agrees_with_build (Prod.eta (run [cardA, cardB])).symm
      (preprocessors_cards [cardA, cardB]) (postprocessors_cards [cardA, cardB])
      (by decide +kernel) .inOrder Memory.store {} hfetched
    obtain ⟨hrun, hcollected, -⟩ := hfails cardFailure cards_fail_in_pipeline
    exact ⟨hrun, hcollected⟩

end Sync

end MailTemplates
