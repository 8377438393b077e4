import MailTemplates.Proofs.Build.Progress
import MailTemplates.Proofs.FileTree.Leading
import MailTemplates.Proofs.Stage.Registering
/-!
# Where the files of a build land

The files of a template are named by its name and its language, whatever is in these. The names are
joined to the output directory like any path, so one that starts with a slash or goes up leads
elsewhere, and a manifest may have such names (`load_escapes_leaves_output_directory`).

Main statement: `build_lands_by_name` (a file lies where its name leads from the output directory,
unless there is a link on the way; so it lies in that directory if its name does not lead above
it).
-/

namespace MailTemplates

open FileTree (GainsDirectories)

namespace Artifact

/-- The names of the two files of a template, as they are joined to the output directory. -/
def fileNames (template : Template) : List Path :=
  [⟨stem template ++ ".html"⟩, ⟨stem template ++ ".subject.hbs"⟩]

theorem text_directory_ne_empty (project : Project) : (directory project).text ≠ "" :=
  FileTree.text_join_ne_empty rfl rfl

/-- The name of a file without a slash is one step down. -/
theorem steps_of_fileName {template : Template} (h : '/' ∉ (stem template).toList) {name : Path}
    (hname : name ∈ fileNames template) :
    name.isAbsolute = false ∧ name.steps = [.into name.text] := by
  simp only [fileNames, List.mem_cons, List.not_mem_nil, or_false] at hname
  rcases hname with rfl | rfl
  · exact Path.steps_of_name (by simpa using h) ⟨'h', by simp, by decide⟩
  · exact Path.steps_of_name (by simpa using h) ⟨'h', by simp, by decide⟩

end Artifact

/-- Where a name leads from a directory: an absolute one from the root, without regard to the
directory, and a relative one from the directory, unless a link is on the way. With no links in the
directory, a name that does not lead above it leads into it. -/
def LeadsTo (tree : FileTree) (directory name : Path) (place : Place) : Prop :=
  (name.isAbsolute = true → place = Place.after [] name.steps ∨ tree.MeetsLink [] name.steps) ∧
  (name.isAbsolute = false → ∃ here, tree.resolve directory = .ok here ∧
    (place = here.after name.steps ∨ tree.MeetsLink here name.steps) ∧
    (tree.LinkFree here → descends 0 name.steps = true →
      place = here.after name.steps ∧ place.isWithin here = true))

/-- What a path in a directory resolves to is where its name leads from there. -/
theorem leadsTo_of_resolve {tree : FileTree} {directory name : Path} {place : Place}
    (h : tree.resolve (directory.join name) = .ok place) (hdirectory : directory.text ≠ "") :
    LeadsTo tree directory name place := by
  refine ⟨fun habsolute => ?_, fun hrelative => ?_⟩
  · rw [Path.join_of_isAbsolute habsolute] at h
    exact FileTree.eq_after_of_follow
      (FileTree.target_eq_ok_iff.1 (FileTree.resolve_eq_ok_iff.1 h)).2.2
  · obtain ⟨here, left, hhere, hfollow⟩ := Path.follow_of_resolve_join h hrelative hdirectory
    exact ⟨here, hhere, FileTree.eq_after_of_follow hfollow, fun hlinks hdescends =>
      FileTree.eq_after_of_descends hfollow hdescends hlinks⟩

/-! ## What is written -/

namespace Build

/-- Whether a path is that of a file of one of some templates. -/
def IsOutputPath (project : Project) (templates : List Template) (path : Path) : Prop :=
  ∃ template ∈ templates, ∃ name ∈ Artifact.fileNames template,
    path = (Artifact.directory project).join name

/-- A file of one of some templates with what is written to it: a page, or a subject that the
translations of the template have. -/
def IsOutput (project : Project) (templates : List Template) (write : Path × String) : Prop :=
  ∃ template ∈ templates, write.1 = Artifact.pagePath project template ∨
    write.1 = Artifact.subjectPath project template ∧
      ∃ tree, Translation.subject tree project template = .ok write.2

theorem IsOutput.isOutputPath {project : Project} {templates : List Template}
    {write : Path × String} (h : IsOutput project templates write) :
    IsOutputPath project templates write.1 := by
  obtain ⟨template, htemplate, hpage | ⟨hsubject, -⟩⟩ := h
  · exact ⟨template, htemplate, _, List.mem_cons_self, hpage⟩
  · exact ⟨template, htemplate, _, List.mem_cons_of_mem _ List.mem_cons_self, hsubject⟩

section Writes

variable {project : LoadedProject} {compiler : Compiler} {components : Components}
  {tree final : FileTree} {template : Template} {templates : List Template}
  {outputs : List Output}

/-- The files of a progress are those of its templates, with the page and the subject made. -/
theorem isOutput_of_progress (h : Progress project compiler components tree outputs final)
    (houtputs : ∀ output ∈ outputs, output.template ∈ templates) {write : Path × String}
    (hwrite : write ∈ outputs.flatMap (Output.files project.toProject)) :
    IsOutput project.toProject templates write := by
  obtain ⟨output, houtput, hfile⟩ := List.mem_flatMap.1 hwrite
  obtain ⟨before, -, -, -, hmake⟩ := make_of_progress h houtput
  refine ⟨output.template, houtputs output houtput, ?_⟩
  simp only [Output.files, List.mem_cons, List.not_mem_nil, or_false] at hfile
  rcases hfile with rfl | rfl
  · exact .inl rfl
  · exact .inr ⟨rfl, before, (make_eq_ok_iff.1 hmake).1⟩

/-- The files of outputs lie where their templates are written. -/
theorem isOutputPath_of_mem_files {root : Project}
    (houtputs : ∀ output ∈ outputs, output.template ∈ templates) {write : Path × String}
    (h : write ∈ outputs.flatMap (Output.files root)) : IsOutputPath root templates write.1 := by
  obtain ⟨output, houtput, hwrite⟩ := List.mem_flatMap.1 h
  refine ⟨output.template, houtputs output houtput, ?_⟩
  simp only [Output.files, List.mem_cons, List.not_mem_nil, or_false] at hwrite
  rcases hwrite with rfl | rfl
  · exact ⟨_, List.mem_cons_self, rfl⟩
  · exact ⟨_, List.mem_cons_of_mem _ List.mem_cons_self, rfl⟩

/-- Of a template that stops a build nothing is written, or its page. -/
theorem writes_of_stops {halt : Halt}
    (h : Stops project compiler components tree template final halt) :
    ∃ writes, tree.writeAll writes = .ok final ∧
      ∀ write ∈ writes, write.1 = Artifact.pagePath project.toProject template := by
  cases h with
  | noSubject | noPage | pageUnwritten => exact ⟨[], rfl, nofun⟩
  | subjectUnwritten _ _ hfirst _ =>
    -- The page is written by then.
    refine ⟨[(Artifact.pagePath project.toProject template, _)],
      FileTree.writeAll_cons_eq_ok_iff.2 ⟨_, hfirst, rfl⟩, ?_⟩
    intro write hwrite
    rw [List.mem_singleton.1 hwrite]

/-- Whether a build of templates succeeds or stops, it has written some of their files, and nothing
else. -/
theorem writes_of_buildAll (tree : FileTree) (templates : List Template) :
    ∃ writes, tree.writeAll writes =
        .ok (buildAll project compiler components tree templates).1 ∧
      ∀ write ∈ writes, IsOutput project.toProject templates write := by
  cases hrun : buildAll project compiler components tree templates with
  | mk final result =>
  cases result with
  | ok results =>
    obtain ⟨outputs, rfl, -, hprogress⟩ := progress_of_buildAll hrun
    exact ⟨_, writeAll_of_progress hprogress, fun write =>
      isOutput_of_progress hprogress fun output => List.mem_map_of_mem⟩
  | error halt =>
    obtain ⟨outputs, template, later, reached, rfl, hprogress, hstops⟩ := stops_of_buildAll hrun
    obtain ⟨writes, hwrites, hpage⟩ := writes_of_stops hstops
    refine ⟨_, FileTree.writeAll_append_eq_ok_iff.2
      ⟨reached, writeAll_of_progress hprogress, hwrites⟩, fun write hwrite => ?_⟩
    rcases List.mem_append.1 hwrite with hbefore | hlast
    · refine isOutput_of_progress hprogress (fun output houtput => ?_) hbefore
      exact List.mem_append_left _ (List.mem_map_of_mem houtput)
    · exact ⟨template, List.mem_append_right _ List.mem_cons_self, .inl (hpage write hlast)⟩

end Writes

end Build

/-- A build makes the output directory and then writes files of its templates, however it ends. -/
theorem outputs_of_build (tree : FileTree) (project : LoadedProject) (compiler : Compiler) :
    ∃ made writes, GainsDirectories (Artifact.directory project.toProject) tree made ∧
      made.writeAll writes = .ok (build tree project compiler).1 ∧
      ∀ write ∈ writes, Build.IsOutput project.toProject project.templates write := by
  unfold build
  cases Components.load tree project.toProject with
  | error failure => exact ⟨tree, [], .refl _ tree, rfl, nofun⟩
  | ok components =>
    have hgains := gainsDirectories_ensureDirectory tree project.toProject Artifact.directoryName
    dsimp only
    cases hmade : ensureDirectory tree project.toProject Artifact.directoryName with
    | mk made result =>
    rw [hmade] at hgains
    cases result with
    | error failure => exact ⟨made, [], hgains, rfl, nofun⟩
    | ok _ =>
      obtain ⟨writes, hwrites, houtputs⟩ := Build.writes_of_buildAll made project.templates
      exact ⟨made, writes, hgains, hwrites, houtputs⟩

theorem writes_of_build (tree : FileTree) (project : LoadedProject) (compiler : Compiler) :
    ∃ made writes, GainsDirectories (Artifact.directory project.toProject) tree made ∧
      made.writeAll writes = .ok (build tree project compiler).1 ∧
      ∀ write ∈ writes, Build.IsOutputPath project.toProject project.templates write.1 := by
  obtain ⟨made, writes, hgains, hwrites, houtputs⟩ := outputs_of_build tree project compiler
  exact ⟨made, writes, hgains, hwrites, fun write hwrite => (houtputs write hwrite).isOutputPath⟩

/-- All that a build does to a tree is to make directories on the way to the output directory and
then to write files, each of which lies where its name leads from that directory. Without a slash in
the name or the language of a template, and without links, its files are in the directory itself. -/
theorem build_lands_by_name (tree : FileTree) (project : LoadedProject) (compiler : Compiler) :
    let final := (build tree project compiler).1
    let directory := Artifact.directory project.toProject
    ∃ made writes, GainsDirectories directory tree made ∧ made.writeAll writes = .ok final ∧
      (∀ q, final.node? q = made.node? q ∨ ∃ write ∈ writes, final.resolve write.1 = .ok q) ∧
      ∀ write ∈ writes, ∃ template ∈ project.templates, ∃ name ∈ Artifact.fileNames template,
        write.1 = directory.join name ∧ ∃ place, final.resolve write.1 = .ok place ∧
          LeadsTo final directory name place ∧
          ('/' ∉ (Artifact.stem template).toList → ∃ here, final.resolve directory = .ok here ∧
            (final.LinkFree here → place = here ++ [name.text])) := by
  intro final directory
  obtain ⟨made, writes, hmade, hwrites, hpaths⟩ := writes_of_build tree project compiler
  refine ⟨made, writes, hmade, hwrites, FileTree.node?_of_writeAll hwrites, ?_⟩
  intro write hwrite
  obtain ⟨template, htemplate, name, hname, hpath⟩ := hpaths write hwrite
  obtain ⟨place, hplace⟩ := FileTree.resolve_of_writeAll hwrites hwrite
  -- The path of a file is the output directory joined with its name.
  have hleads : LeadsTo final directory name place := by
    rw [hpath] at hplace
    exact leadsTo_of_resolve hplace (Artifact.text_directory_ne_empty _)
  refine ⟨template, htemplate, name, hname, hpath, place, hplace, hleads, fun hslash => ?_⟩
  -- Without a slash the name is one step, and that can only be led astray by a link.
  obtain ⟨hrelative, hsteps⟩ := Artifact.steps_of_fileName hslash hname
  obtain ⟨here, hhere, -, hinside⟩ := hleads.2 hrelative
  refine ⟨here, hhere, fun hlinks => ?_⟩
  have hafter := (hinside hlinks (by rw [hsteps]; rfl)).1
  rwa [hsteps] at hafter

/-! ## Names that lead elsewhere -/

/-- A template whose name leads out of the output directory. -/
def escape : Template := ⟨"x", "../x", "a", some "en", none, []⟩

def escapes : LoadedProject where
  mode := .prod
  root := ⟨"/p"⟩
  package := ⟨none, none, []⟩
  configFile := none
  components := []
  templates := [escape]
  preprocessors := []
  postprocessors := []

/-- The files that the project with the escaping template is loaded from. -/
def escapeFiles : FileTree := ⟨[
  (["p"], .directory),
  (["p", "a"], .file "A".toUTF8 false),
  (["p", "package.json"], .file "\x7b\x7d".toUTF8 false),
  (["p", "templates.json"], .file ("\x7b\"templates\":[" ++
    "\x7b\"id\":\"x\",\"name\":\"../x\",\"template\":\"a\",\"language\":\"en\"\x7d" ++
    "]\x7d").toUTF8 false),
  (["p", "translations.json"],
    .file "\x7b\"en\":\x7b\"subject\":\"S\"\x7d\x7d".toUTF8 false)]⟩

/-- The project with a name that leads up can be loaded. -/
theorem load_escapes : LoadedProject.load escapeFiles .builtIn .prod ⟨"/p"⟩ = .ok escapes := by
  have hsort : LoadedProject.sortTemplates [escape] = [escape] := List.mergeSort_singleton ..
  have hroot : findRoot escapeFiles ⟨"/p"⟩ = .ok ⟨"/p"⟩ :=
    eq_ok_of_toOption (by decide +kernel)
  have hpackage : readWith escapeFiles Package.parse
      (Path.join ⟨"/p"⟩ ⟨Package.fileName⟩) = .ok ⟨none, none, []⟩ :=
    eq_ok_of_toOption (by decide +kernel)
  have hmanifest : LoadedProject.readManifest escapeFiles
      (Path.join ⟨"/p"⟩ ⟨LoadedProject.manifestName⟩) = .ok ⟨[escape], [], []⟩ :=
    eq_ok_of_toOption (by decide +kernel)
  have hconfigure : LoadedProject.configure escapeFiles
      (LoadedProject.described .prod ⟨"/p"⟩ ⟨none, none, []⟩ ⟨[escape], [], []⟩) =
        .ok escapes.toProject := by
    rw [LoadedProject.described, hsort]
    exact eq_ok_of_toOption (by decide +kernel)
  exact LoadedProject.load_eq_ok hroot hpackage hmanifest rfl rfl hconfigure

/-- A project whose template is named with a step up is loaded and built, and its page is a new file
outside the output directory. -/
theorem load_escapes_leaves_output_directory :
    LoadedProject.load escapeFiles .builtIn .prod ⟨"/p"⟩ = .ok escapes ∧
      let run := build escapeFiles escapes fun document _ => .ok document
      run.2 = .ok [⟨"../x", some "en", ⟨"/p/a"⟩, ⟨"/p/dist/../x.en.html"⟩,
        ⟨"/p/dist/../x.en.subject.hbs"⟩, 1⟩] ∧
        run.1.resolve (Artifact.directory escapes.toProject) = .ok ["p", "dist"] ∧
        escapeFiles.node? ["p", "x.en.html"] = none ∧
        run.1.node? ["p", "x.en.html"] = some (.file "A".toUTF8 false) ∧
        Place.isWithin ["p", "x.en.html"] ["p", "dist"] = false := by
  refine ⟨load_escapes, ?_, ?_, ?_, ?_, ?_⟩
  · exact eq_ok_of_toOption (by decide +kernel)
  · exact eq_ok_of_toOption (by decide +kernel)
  · decide +kernel
  · decide +kernel
  · decide +kernel

end MailTemplates
