import MailTemplates.Build.Run
import MailTemplates.Proofs.FileTree.Directories
import MailTemplates.Proofs.Stage.Running
/-!
# How far a build comes

A build goes through the templates in order. Each is made from what the tree is by then, and its
page and its subject are written before the next one is looked at. So after some templates the tree
is the one at the start with the files of these templates written to it, one after another
(`writeAll_of_progress`), and that is the tree in which the next template succeeds or fails
(`progress_of_buildAll`, `stops_of_buildAll`). A template that cannot be made leaves nothing.

A step of the loop is dealt with once, by what it comes to: the template is made and both files are
written, or it stops the build (`buildOne_cases`). From this the two runs are inductions over the
templates, with the tree that each step leaves as the start of the next one.

The result speaks of the tree at the end, so what was written early has to be kept by what is
written later. This is where the order of the files counts: `FileTree.writeAll` writes those of all
templates as one list, and the lemmas on it say which paths name which files in the end.

Main statement: `build_writes_in_order`.
-/

namespace MailTemplates

open FileTree (GainsDirectories)

/-!
## The output directory

It is made once, before the first template, and with it the directories above it if they are
missing.
-/

section Directory

variable (tree : FileTree) (project : Project) (name : String)

/-- Ensuring a directory leaves the tree, or makes the directory with those above it. -/
theorem fst_ensureDirectory :
    (ensureDirectory tree project name).1 = tree ∨
      (ensureDirectory tree project name).1 = (tree.makeDirectories (project.resolve name)).1 := by
  unfold ensureDirectory
  dsimp only
  split
  · exact .inl rfl
  · right
    split
    · next made hmade => rw [hmade]
    · next made problem hmade => rw [hmade]

/-- Ensuring a directory changes nothing but that there may be more directories on the way to it. -/
theorem gainsDirectories_ensureDirectory :
    GainsDirectories (project.resolve name) tree (ensureDirectory tree project name).1 := by
  rcases fst_ensureDirectory tree project name with h | h
  · rw [h]
    exact .refl _ tree
  · rw [h]
    exact FileTree.gainsDirectories_makeDirectories tree _

/-- In a root that exists nothing is made but the directory itself. -/
theorem node?_of_ensureDirectory {place : Place} (hroot : tree.resolve project.root = .ok place)
    (hrelative : (⟨name⟩ : Path).isAbsolute = false)
    (hname : (⟨name⟩ : Path).steps = [.into name]) (q : Place) :
    (ensureDirectory tree project name).1.node? q = tree.node? q ∨
      q = place ++ [name] ∧ tree.node? q = none ∧
        (ensureDirectory tree project name).1.node? q = some .directory := by
  rcases fst_ensureDirectory tree project name with h | h
  · exact .inl (by rw [h])
  · rw [h]
    exact FileTree.node?_of_makeDirectories_join hroot hrelative hname q

end Directory

/-!
## Outputs

An output is what was made for one template, with the files that it is written to.
-/

/-- A template with the subject and the page that were made for it. -/
structure Output where
  template : Template
  subject : String
  page : String
deriving DecidableEq, Repr

namespace Output

/-- The files of an output, in the order in which they are written. -/
def files (project : Project) (output : Output) : List (Path × String) :=
  [(Artifact.pagePath project output.template, output.page),
    (Artifact.subjectPath project output.template, output.subject)]

/-- What is reported of an output. -/
def built (project : Project) (output : Output) : Built where
  name := output.template.name
  language := output.template.language
  source := project.sourceOf output.template
  page := Artifact.pagePath project output.template
  subject := Artifact.subjectPath project output.template
  size := output.page.utf8ByteSize

end Output

namespace Build

/-!
## Making a template

Making writes nothing: its two texts come from the tree as it is, the subject first. That a template
without a subject has no page built either is a matter of this order.
-/

section Make

variable {project : LoadedProject} {compiler : Compiler} {components : Components}
  {tree : FileTree} {template : Template}

/-- Making an output is making its subject and then its page. -/
theorem make_eq (project : LoadedProject) (compiler : Compiler) (components : Components)
    (tree : FileTree) (template : Template) :
    make tree project compiler components template =
      (inStage "subject" template.label
        (uncrashed (Translation.subject tree project.toProject template))).bind fun subject =>
          ((Pipeline.ofProject project).buildTemplate tree project.toProject compiler components
            template).bind fun page => .ok (subject, page) := rfl

/-- An output is made if both of its texts are. -/
theorem make_eq_ok_iff {subject page : String} :
    make tree project compiler components template = .ok (subject, page) ↔
      Translation.subject tree project.toProject template = .ok subject ∧
        (Pipeline.ofProject project).buildTemplate tree project.toProject compiler components
          template = .ok page := by
  rw [make_eq]
  simp only [bind_eq_ok_iff, inStage_eq_ok_iff, uncrashed_eq_ok_iff, Except.ok.injEq,
    Prod.mk.injEq]
  constructor
  · rintro ⟨_, hsubject, _, hpage, rfl, rfl⟩
    exact ⟨hsubject, hpage⟩
  · rintro ⟨hsubject, hpage⟩
    exact ⟨subject, hsubject, page, hpage, rfl, rfl⟩

/-- A subject that fails is blamed on its stage, and no page is built. -/
theorem make_of_subject_error {cause : Failure}
    (hsubject : Translation.subject tree project.toProject template = .error cause) :
    make tree project compiler components template =
      .error (.failure (.stage "subject" template.label cause)) := by
  rw [make_eq, hsubject]
  rfl

theorem make_of_page_error {subject : String} {halt : Halt}
    (hsubject : Translation.subject tree project.toProject template = .ok subject)
    (hpage : (Pipeline.ofProject project).buildTemplate tree project.toProject compiler components
      template = .error halt) :
    make tree project compiler components template = .error halt := by
  rw [make_eq, inStage_eq_ok_iff.2 (uncrashed_eq_ok_iff.2 hsubject), ok_bind, hpage, error_bind]

/-- What cannot be made has no subject, which is looked up first, or no page. -/
theorem make_error_cases {halt : Halt}
    (h : make tree project compiler components template = .error halt) :
    (∃ cause, Translation.subject tree project.toProject template = .error cause ∧
      halt = .failure (.stage "subject" template.label cause)) ∨
    ∃ subject, Translation.subject tree project.toProject template = .ok subject ∧
      (Pipeline.ofProject project).buildTemplate tree project.toProject compiler components
        template = .error halt := by
  cases hsubject : Translation.subject tree project.toProject template with
  | error cause =>
    rw [make_of_subject_error hsubject] at h
    exact .inl ⟨cause, rfl, (Except.error.inj h).symm⟩
  | ok subject =>
    refine .inr ⟨subject, rfl, ?_⟩
    cases hpage : (Pipeline.ofProject project).buildTemplate tree project.toProject compiler
        components template with
    | error cause =>
      rw [make_of_page_error hsubject hpage] at h
      rw [Except.error.inj h]
    | ok page =>
      rw [make_eq_ok_iff.2 ⟨hsubject, hpage⟩] at h
      nomatch h

end Make

/-!
## The way of a build

The three notions in which the result is stated. None of them speaks of the loop.
-/

/-- The way from one tree to another on which the subjects of some templates are looked up and their
pages built, and both are written, each in what the ones before it have left. The trees in between
do not show; each output has been made from the one that the outputs before it have left. -/
inductive Progress (project : LoadedProject) (compiler : Compiler) (components : Components) :
    FileTree → List Output → FileTree → Prop where
  | start (tree : FileTree) : Progress project compiler components tree [] tree
  | next {tree after final : FileTree} {output : Output} {outputs : List Output}
      (hsubject : Translation.subject tree project.toProject output.template = .ok output.subject)
      (hpage : (Pipeline.ofProject project).buildTemplate tree project.toProject compiler components
        output.template = .ok output.page)
      (hwrite : tree.writeAll (output.files project.toProject) = .ok after)
      (hrest : Progress project compiler components after outputs final) :
      Progress project compiler components tree (output :: outputs) final

/-- What it means that the files of some outputs, and nothing else, were written to a tree. It is
about the tree before and the tree after, and not about the way from the one to the other. -/
structure Written (project : Project) (tree : FileTree) (outputs : List Output)
    (final : FileTree) : Prop where
  /-- The files were written one after another, the page of a template before its subject. -/
  inOrder : tree.writeAll (outputs.flatMap (Output.files project)) = .ok final
  elsewhere (q : Place) : final.node? q = tree.node? q ∨
    ∃ write ∈ outputs.flatMap (Output.files project), final.resolve write.1 = .ok q
  /-- A page is there, unless a path that was written to later names the same file. -/
  page {earlier later : List Output} {output : Output} (h : outputs = earlier ++ output :: later)
    (hlast : ∀ write ∈ (Artifact.subjectPath project output.template, output.subject) ::
        later.flatMap (Output.files project),
      final.resolve write.1 ≠ final.resolve (Artifact.pagePath project output.template)) :
    final.readText (Artifact.pagePath project output.template) = .ok output.page
  /-- A subject is there, unless a path that was written to later names the same file. -/
  subject {earlier later : List Output} {output : Output}
    (h : outputs = earlier ++ output :: later)
    (hlast : ∀ write ∈ later.flatMap (Output.files project),
      final.resolve write.1 ≠ final.resolve (Artifact.subjectPath project output.template)) :
    final.readText (Artifact.subjectPath project output.template) = .ok output.subject

/-- How a template stops a build, and what it leaves: it has no subject, its page cannot be built,
or one of its two files cannot be written. In the first two cases nothing has been written for the
template, in the third neither, and in the fourth its page. -/
inductive Stops (project : LoadedProject) (compiler : Compiler) (components : Components)
    (tree : FileTree) (template : Template) : FileTree → Halt → Prop where
  | noSubject {cause : Failure}
      (hsubject : Translation.subject tree project.toProject template = .error cause) :
      Stops project compiler components tree template tree
        (.failure (.stage "subject" template.label cause))
  | noPage {subject : String} {halt : Halt}
      (hsubject : Translation.subject tree project.toProject template = .ok subject)
      (hpage : (Pipeline.ofProject project).buildTemplate tree project.toProject compiler components
        template = .error halt) :
      Stops project compiler components tree template tree halt
  | pageUnwritten {subject page : String} {problem : FileProblem}
      (hsubject : Translation.subject tree project.toProject template = .ok subject)
      (hpage : (Pipeline.ofProject project).buildTemplate tree project.toProject compiler components
        template = .ok page)
      (hwrite : tree.writeText (Artifact.pagePath project.toProject template) page =
        .error problem) :
      Stops project compiler components tree template tree (.failure (.io problem))
  | subjectUnwritten {subject page : String} {problem : FileProblem} {after : FileTree}
      (hsubject : Translation.subject tree project.toProject template = .ok subject)
      (hpage : (Pipeline.ofProject project).buildTemplate tree project.toProject compiler components
        template = .ok page)
      (hfirst : tree.writeText (Artifact.pagePath project.toProject template) page = .ok after)
      (hwrite : after.writeText (Artifact.subjectPath project.toProject template) subject =
        .error problem) :
      Stops project compiler components tree template after (.failure (.io problem))

section Run

variable {project : LoadedProject} {compiler : Compiler} {components : Components}
  {tree after final : FileTree} {template : Template} {templates : List Template}
  {outputs : List Output}

/-!
## One template

The body of the loop, by cases.
-/

/-- A progress with an output in front: it is made on the tree as it is, and written before the
others. -/
theorem Progress.of_make {output : Output}
    (hmake : make tree project compiler components output.template =
      .ok (output.subject, output.page))
    (hwrite : tree.writeAll (output.files project.toProject) = .ok after)
    (hrest : Progress project compiler components after outputs final) :
    Progress project compiler components tree (output :: outputs) final := by
  obtain ⟨hsubject, hpage⟩ := make_eq_ok_iff.1 hmake
  exact .next hsubject hpage hwrite hrest

/-- A template whose output cannot be made leaves the tree as it is. -/
theorem Stops.of_make_error {halt : Halt}
    (hmake : make tree project compiler components template = .error halt) :
    Stops project compiler components tree template tree halt := by
  rcases make_error_cases hmake with ⟨cause, hsubject, rfl⟩ | ⟨subject, hsubject, hpage⟩
  · exact .noSubject hsubject
  · exact .noPage hsubject hpage

/-- A template that cannot be made leaves nothing. -/
theorem Stops.of_not_made {halt cause : Halt}
    (h : Stops project compiler components tree template final halt)
    (hmake : make tree project compiler components template = .error cause) :
    halt = cause ∧ final = tree := by
  cases h with
  | noSubject hsubject =>
    exact ⟨Except.error.inj ((make_of_subject_error hsubject).symm.trans hmake), rfl⟩
  | noPage hsubject hpage =>
    exact ⟨Except.error.inj ((make_of_page_error hsubject hpage).symm.trans hmake), rfl⟩
  | pageUnwritten hsubject hpage => nomatch (make_eq_ok_iff.2 ⟨hsubject, hpage⟩).symm.trans hmake
  | subjectUnwritten hsubject hpage =>
    nomatch (make_eq_ok_iff.2 ⟨hsubject, hpage⟩).symm.trans hmake

/-- The files of an output are its page and then its subject. -/
theorem writeAll_files_of_writes {root : Project} {output : Output} {next : FileTree}
    (hpage : tree.writeText (Artifact.pagePath root output.template) output.page = .ok next)
    (hsubject : next.writeText (Artifact.subjectPath root output.template) output.subject =
      .ok after) :
    tree.writeAll (output.files root) = .ok after :=
  FileTree.writeAll_cons_eq_ok_iff.2
    ⟨next, hpage, FileTree.writeAll_cons_eq_ok_iff.2 ⟨after, hsubject, rfl⟩⟩

/-- A template is built if its output can be made and written. -/
theorem buildOne_of_make {output : Output}
    (hmake : make tree project compiler components output.template =
      .ok (output.subject, output.page))
    (hwrite : tree.writeAll (output.files project.toProject) = .ok after) :
    buildOne project compiler components tree output.template =
      (after, .ok (output.built project.toProject)) := by
  obtain ⟨next, hpage, hrest⟩ := FileTree.writeAll_cons_eq_ok_iff.1 hwrite
  obtain ⟨last, hsubject, ⟨⟩⟩ := FileTree.writeAll_cons_eq_ok_iff.1 hrest
  unfold buildOne
  rw [hmake]
  dsimp only [store, writeFile] at hpage hsubject ⊢
  rw [hpage]
  dsimp only
  rw [hsubject]
  rfl

/-- A template is made and both of its files are written, or it stops the build. This is all that
the proofs below know about the body of the loop. -/
theorem buildOne_cases (project : LoadedProject) (compiler : Compiler) (components : Components)
    (tree : FileTree) (template : Template) :
    (∃ (output : Output) (after : FileTree), output.template = template ∧
      make tree project compiler components output.template =
        .ok (output.subject, output.page) ∧
      tree.writeAll (output.files project.toProject) = .ok after ∧
      buildOne project compiler components tree template =
        (after, .ok (output.built project.toProject))) ∨
    ∃ after halt, Stops project compiler components tree template after halt ∧
      buildOne project compiler components tree template = (after, .error halt) := by
  cases hmake : make tree project compiler components template with
  | error halt => exact .inr ⟨tree, halt, .of_make_error hmake, by rw [buildOne, hmake]⟩
  | ok made =>
    obtain ⟨subject, page⟩ := made
    obtain ⟨hsubject, hpage⟩ := make_eq_ok_iff.1 hmake
    -- The texts are there; what can fail now is writing them, first the page and then the subject.
    cases hfirst : tree.writeText (Artifact.pagePath project.toProject template) page with
    | error problem =>
      refine .inr ⟨_, _, .pageUnwritten hsubject hpage hfirst, ?_⟩
      rw [buildOne, hmake]
      dsimp only [store, writeFile]
      rw [hfirst]
    | ok next =>
      cases hsecond :
          next.writeText (Artifact.subjectPath project.toProject template) subject with
      | error problem =>
        refine .inr ⟨_, _, .subjectUnwritten hsubject hpage hfirst hsecond, ?_⟩
        rw [buildOne, hmake]
        dsimp only [store, writeFile]
        rw [hfirst]
        dsimp only
        rw [hsecond]
      | ok after =>
        let output : Output := ⟨template, subject, page⟩
        have hwrite : tree.writeAll (output.files project.toProject) = .ok after :=
          writeAll_files_of_writes hfirst hsecond
        exact .inl ⟨output, after, rfl, hmake, hwrite, buildOne_of_make hmake hwrite⟩

/-- A template that is built has an output that was made and written. -/
theorem output_of_buildOne {built : Built}
    (h : buildOne project compiler components tree template = (after, .ok built)) :
    ∃ output : Output, output.template = template ∧ built = output.built project.toProject ∧
      make tree project compiler components output.template =
        .ok (output.subject, output.page) ∧
      tree.writeAll (output.files project.toProject) = .ok after := by
  rcases buildOne_cases project compiler components tree template with
    ⟨output, _, htemplate, hmake, hwrite, hone⟩ | ⟨_, _, -, hone⟩
  · cases h.symm.trans hone
    exact ⟨output, htemplate, rfl, hmake, hwrite⟩
  · nomatch h.symm.trans hone

/-- A template that is not built stops the build in one of the four ways. -/
theorem stops_of_buildOne {halt : Halt}
    (h : buildOne project compiler components tree template = (after, .error halt)) :
    Stops project compiler components tree template after halt := by
  rcases buildOne_cases project compiler components tree template with
    ⟨_, _, -, -, -, hone⟩ | ⟨_, _, hstops, hone⟩
  · nomatch h.symm.trans hone
  · cases h.symm.trans hone
    exact hstops

/-!
## All templates

From one template to all of them, by induction.
-/

/-- A build that succeeds has made progress through all its templates. The induction is on these.
The induction is on these: the step is one template, and the rest of the loop starts from the tree
that it has left. -/
theorem progress_of_buildAll {results : List Built}
    (h : buildAll project compiler components tree templates = (final, .ok results)) :
    ∃ outputs : List Output, outputs.map Output.template = templates ∧
      results = outputs.map (Output.built project.toProject) ∧
      Progress project compiler components tree outputs final := by
  induction templates generalizing tree results with
  | nil =>
    cases h
    exact ⟨[], rfl, rfl, .start _⟩
  | cons template rest ih =>
    unfold buildAll at h
    split at h
    · nomatch h
    · next after built hone =>
      split at h
      · nomatch h
      · next last more hall =>
        cases h
        obtain ⟨output, rfl, rfl, hmake, hwrite⟩ := output_of_buildOne hone
        obtain ⟨outputs, rfl, rfl, hrest⟩ := ih hall
        exact ⟨output :: outputs, rfl, rfl, .of_make hmake hwrite hrest⟩

/-- A build that fails has made and written the templates before the one that it fails at. -/
theorem stops_of_buildAll {halt : Halt}
    (h : buildAll project compiler components tree templates = (final, .error halt)) :
    ∃ (outputs : List Output) (template : Template) (later : List Template) (reached : FileTree),
      templates = outputs.map Output.template ++ template :: later ∧
      Progress project compiler components tree outputs reached ∧
      Stops project compiler components reached template final halt := by
  induction templates generalizing tree with
  | nil => cases h
  | cons template rest ih =>
    unfold buildAll at h
    split at h
    · next after cause hone =>
      cases h
      exact ⟨[], template, rest, tree, rfl, .start tree, stops_of_buildOne hone⟩
    · next after built hone =>
      split at h
      · next last cause hall =>
        cases h
        obtain ⟨output, rfl, -, hmake, hwrite⟩ := output_of_buildOne hone
        obtain ⟨outputs, failing, later, reached, rfl, hrest, hstops⟩ := ih hall
        exact ⟨output :: outputs, failing, later, reached, rfl, .of_make hmake hwrite hrest, hstops⟩
      · cases h

/-- And progress is a build that succeeds. -/
theorem buildAll_of_progress (h : Progress project compiler components tree outputs final) :
    buildAll project compiler components tree (outputs.map Output.template) =
      (final, .ok (outputs.map (Output.built project.toProject))) := by
  induction h with
  | start tree => rfl
  | next hsubject hpage hwrite hrest ih =>
    rw [List.map_cons, buildAll, buildOne_of_make (make_eq_ok_iff.2 ⟨hsubject, hpage⟩) hwrite]
    dsimp only
    rw [ih]
    rfl

/-- A build ends at the first template that cannot be made. -/
theorem buildAll_of_not_made {halt : Halt}
    (h : Progress project compiler components tree outputs final)
    (hmake : make final project compiler components template = .error halt)
    (later : List Template) :
    buildAll project compiler components tree (outputs.map Output.template ++ template :: later) =
      (final, .error halt) := by
  have hone : buildOne project compiler components final template = (final, .error halt) := by
    rw [buildOne, hmake]
  rw [buildAll_append, buildAll_of_progress h]
  dsimp only
  rw [buildAll, hone]

/-- What a progress does to the tree is writing its files in order. So what is known of writing many
files holds of a whole build. -/
theorem writeAll_of_progress (h : Progress project compiler components tree outputs final) :
    tree.writeAll (outputs.flatMap (Output.files project.toProject)) = .ok final := by
  induction h with
  | start tree => rfl
  | next _ _ hwrite _ ih => exact FileTree.writeAll_append_eq_ok_iff.2 ⟨_, hwrite, ih⟩

/-- Each output was made from the tree at some time, and from then on only outputs were written. -/
theorem make_of_progress (h : Progress project compiler components tree outputs final)
    {output : Output} (hmem : output ∈ outputs) :
    ∃ before writes, before.writeAll writes = .ok final ∧
      writes ⊆ outputs.flatMap (Output.files project.toProject) ∧
      make before project compiler components output.template =
        .ok (output.subject, output.page) := by
  induction h with
  | start tree => nomatch hmem
  | @next tree after final first outputs hsubject hpage hwrite hrest ih =>
    rcases List.mem_cons.1 hmem with rfl | hmem
    · refine ⟨tree, _, ?_, List.Subset.refl _, make_eq_ok_iff.2 ⟨hsubject, hpage⟩⟩
      rw [List.flatMap_cons]
      exact FileTree.writeAll_append_eq_ok_iff.2 ⟨after, hwrite, writeAll_of_progress hrest⟩
    · obtain ⟨before, writes, hwrites, hsubset, hmade⟩ := ih hmem
      rw [List.flatMap_cons]
      exact ⟨before, writes, hwrites, List.subset_append_of_subset_right _ hsubset, hmade⟩

/-- At the end the files of a progress hold what was written, and other files are as before. That a
file holds what was written for it needs that no later one goes to the same place; where two
templates share a path, the later one counts. -/
theorem written_of_progress (h : Progress project compiler components tree outputs final) :
    Written project.toProject tree outputs final := by
  have hall := writeAll_of_progress h
  refine ⟨hall, FileTree.node?_of_writeAll hall, ?_, ?_⟩
  · rintro earlier later output rfl hlast
    rw [List.flatMap_append, List.flatMap_cons] at hall
    exact FileTree.readText_of_writeAll hall hlast
  · rintro earlier later output rfl hlast
    rw [List.flatMap_append, List.flatMap_cons] at hall
    -- The subject is written behind the page of the same template.
    have hbehind : tree.writeAll ((earlier.flatMap (Output.files project.toProject) ++
        [(Artifact.pagePath project.toProject output.template, output.page)]) ++
        (Artifact.subjectPath project.toProject output.template, output.subject) ::
          later.flatMap (Output.files project.toProject)) = .ok final := by
      rw [List.append_assoc]
      exact hall
    exact FileTree.readText_of_writeAll hbehind hlast

end Run

end Build

/-- A build with all its components ensures the output directory and then goes through the
templates. -/
theorem build_of_load {tree : FileTree} {project : LoadedProject} {compiler : Compiler}
    {components : Components} (h : Components.load tree project.toProject = .ok components) :
    build tree project compiler =
      match ensureDirectory tree project.toProject Artifact.directoryName with
      | (made, .error failure) => (made, .error (.failure failure))
      | (made, .ok _) => Build.buildAll project compiler components made project.templates := by
  unfold build
  cases hload : Components.load tree project.toProject with
  | error failure => nomatch hload.symm.trans h
  | ok loaded =>
    cases hload.symm.trans h
    rfl

/-- A build that succeeds has all components, has the output directory and makes every template. -/
theorem progress_of_build {tree final : FileTree} {project : LoadedProject} {compiler : Compiler}
    {results : List Built} (h : build tree project compiler = (final, .ok results)) :
    ∃ components made directory outputs,
      Components.load tree project.toProject = .ok components ∧
      ensureDirectory tree project.toProject Artifact.directoryName = (made, .ok directory) ∧
      outputs.map Output.template = project.templates ∧
      results = outputs.map (Output.built project.toProject) ∧
      Build.Progress project compiler components made outputs final := by
  cases hload : Components.load tree project.toProject with
  | error failure =>
    rw [build, hload] at h
    nomatch h
  | ok components =>
    rw [build_of_load hload] at h
    split at h
    · nomatch h
    · next made directory hmade =>
      obtain ⟨outputs, htemplates, hresults, hprogress⟩ := Build.progress_of_buildAll h
      exact ⟨components, made, directory, outputs, rfl, hmade, htemplates, hresults, hprogress⟩

/-- A build makes the templates in their order and writes the two files of each before it looks at
the next one. If a component is missing the tree stays as it is. Else nothing changes but the output
directory, which is made if it is missing, and the files of the templates that were built: all of
them, or those in front of one that fails. If that one has no subject, or its page cannot be built,
nothing is written for it. -/
theorem build_writes_in_order (tree : FileTree) (project : LoadedProject) (compiler : Compiler) :
    let root := project.toProject
    let made := ensureDirectory tree root Artifact.directoryName
    (∀ failure, Components.load tree root = .error failure →
      build tree project compiler = (tree, .error (.failure failure))) ∧
    ∀ components, Components.load tree root = .ok components →
      (GainsDirectories (Artifact.directory root) tree made.1 ∧
        ∀ place, tree.resolve root.root = .ok place → ∀ q, made.1.node? q = tree.node? q ∨
          q = place ++ [Artifact.directoryName] ∧ tree.node? q = none ∧
            made.1.node? q = some .directory) ∧
      (∀ failure, made.2 = .error failure →
        build tree project compiler = (made.1, .error (.failure failure))) ∧
      ∀ directory, made.2 = .ok directory →
        (∀ final results, build tree project compiler = (final, .ok results) →
          ∃ outputs : List Output, outputs.map Output.template = project.templates ∧
            results = outputs.map (Output.built root) ∧
            (∀ output ∈ outputs, (output.built root).size = output.page.toUTF8.size) ∧
            Build.Progress project compiler components made.1 outputs final ∧
            Build.Written root made.1 outputs final) ∧
        ∀ final halt, build tree project compiler = (final, .error halt) →
          ∃ (outputs : List Output) (template : Template) (later : List Template)
            (reached : FileTree),
            project.templates = outputs.map Output.template ++ template :: later ∧
            Build.Progress project compiler components made.1 outputs reached ∧
            Build.Written root made.1 outputs reached ∧
            Build.Stops project compiler components reached template final halt ∧
            (∀ cause, Translation.subject reached root template = .error cause →
              halt = .failure (.stage "subject" template.label cause) ∧ final = reached) ∧
            ∀ subject cause, Translation.subject reached root template = .ok subject →
              (Pipeline.ofProject project).buildTemplate reached root compiler components template =
                .error cause →
              halt = cause ∧ final = reached := by
  intro root made
  refine ⟨fun failure hload => by rw [build, hload], fun components hload => ?_⟩
  -- With the components loaded, a build is the directory and then the templates.
  have hbuild : build tree project compiler =
      match made with
      | (made, .error failure) => (made, .error (.failure failure))
      | (made, .ok _) => Build.buildAll project compiler components made project.templates :=
    build_of_load hload
  refine ⟨⟨gainsDirectories_ensureDirectory tree root _, ?_⟩, ?_, fun directory hdirectory => ?_⟩
  · intro place hplace q
    exact node?_of_ensureDirectory tree root _ hplace rfl rfl q
  · intro failure hfailure
    rw [hbuild, ← Prod.eta made, hfailure]
  · rw [← Prod.eta made, hdirectory] at hbuild
    dsimp only at hbuild
    rw [hbuild]
    refine ⟨fun final results hrun => ?_, fun final halt hrun => ?_⟩
    · obtain ⟨outputs, htemplates, hresults, hprogress⟩ := Build.progress_of_buildAll hrun
      exact ⟨outputs, htemplates, hresults, fun _ _ => rfl, hprogress,
        Build.written_of_progress hprogress⟩
    · obtain ⟨outputs, template, later, reached, htemplates, hprogress, hstops⟩ :=
        Build.stops_of_buildAll hrun
      exact ⟨outputs, template, later, reached, htemplates, hprogress,
        Build.written_of_progress hprogress, hstops,
        fun cause hsubject => hstops.of_not_made (Build.make_of_subject_error hsubject),
        fun subject cause hsubject hpage =>
          hstops.of_not_made (Build.make_of_page_error hsubject hpage)⟩

end MailTemplates
