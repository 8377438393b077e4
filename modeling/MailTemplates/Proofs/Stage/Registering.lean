import MailTemplates.Build.Pipeline
import MailTemplates.Proofs.Fallible
import MailTemplates.Proofs.Stage.Running
/-!
# From registered stages to the pipeline

A registry comes about by registering stages one after the other (`Registered`). Registering under a
known name takes the place of the old stage, so the names stay distinct and in the order of their
first registration, and under each name the stage is found that was registered last
(`Registered.knows`).

The names in a manifest are looked up when the project is loaded, those for before compiling first,
and the first unknown one is reported (`load_eq_of_manifest`). What is found stands between the
built-in stages, in the order of the manifest and as often as it is named there. The built-in stages
are not looked up, so none can take their place.

A registry keeps a list of names for the order and a table for the stages. What it knows is said by
the history of registrations (`Knows`), and one more registration changes this in two ways: under
its own name the last stage is now another, and the name is added if it was not there
(`lastNamed_concat_iff`, `eraseDups_concat`). So the induction goes along the history, with
registrations added at its end.

Loading does not look at the stages, it only passes on what it finds under the names. So the rest of
the module is about a list of look-ups, of which the first that fails is reported.

Main statement: `pipeline_of_registered`.
-/

namespace MailTemplates

/-!
## Registering

A registry is seen through its history. Names are registered at the end, and a name that is
registered again keeps its place.
-/

/-- The registries that come about by registering, with all stages that have been registered, in
this order. -/
inductive Registered : List Stage → Registry → Prop where
  | empty : Registered [] .empty
  | builtIn : Registered Registry.builtIn.stages .builtIn
  | register {history : List Stage} {registry : Registry} (h : Registered history registry)
      (stage : Stage) : Registered (history ++ [stage]) (registry.register stage)

/-- Whether a stage is the last of its name in a list. -/
def LastNamed (history : List Stage) (name : String) (stage : Stage) : Prop :=
  stage.name = name ∧ ∃ earlier later, history = earlier ++ stage :: later ∧
    ∀ other ∈ later, other.name ≠ name

/-- What a registry knows once some stages have been registered. -/
structure Registry.Knows (registry : Registry) (history : List Stage) : Prop where
  distinct : registry.names.Nodup
  /-- The names stand in the order in which they were first registered. -/
  order : registry.names = (history.map Stage.name).eraseDups
  mem_iff (name : String) : name ∈ registry.names ↔ ∃ stage, registry.find? name = some stage
  find_iff (name : String) (stage : Stage) :
    registry.find? name = some stage ↔ LastNamed history name stage

namespace Registry

theorem stages_builtIn :
    builtIn.stages = [Include.stage, Language.stage, Translation.stage, RawMarker.stripStage] := rfl

/-- A registry has the names under which it finds a stage. -/
theorem mem_names_iff {registry : Registry} {name : String} :
    name ∈ registry.names ↔ ∃ stage, registry.find? name = some stage := by
  unfold find? names
  rw [← Option.isSome_iff_exists, List.find?_isSome, List.mem_map]
  simp only [beq_iff_eq]

end Registry

/-- What stands in a list that has grown by one stands at its end or stood in it before. -/
theorem eq_append_cons_of_concat {history earlier later : List Stage} {last stage : Stage}
    (h : history ++ [last] = earlier ++ stage :: later) :
    stage = last ∧ later = [] ∨
      ∃ between, later = between ++ [last] ∧ history = earlier ++ stage :: between := by
  rcases List.eq_nil_or_concat later with rfl | ⟨between, other, rfl⟩
  · exact .inl ⟨(List.singleton_inj.1 (List.append_inj' h rfl).2).symm, rfl⟩
  · rw [List.concat_eq_append, ← List.cons_append, ← List.append_assoc] at h
    obtain ⟨hhistory, hlast⟩ := List.append_inj' h rfl
    obtain rfl := List.singleton_inj.1 hlast
    exact .inr ⟨between, List.concat_eq_append, hhistory⟩

/-- One more registration is the last of its name, and of no other. -/
theorem lastNamed_concat_iff {history : List Stage} {name : String} {stage last : Stage} :
    LastNamed (history ++ [last]) name stage ↔
      if last.name = name then stage = last else LastNamed history name stage := by
  split
  · next hlast =>
    constructor
    · rintro ⟨-, earlier, later, hhistory, hlater⟩
      rcases eq_append_cons_of_concat hhistory with ⟨hstage, -⟩ | ⟨between, rfl, -⟩
      · exact hstage
      · -- One that stood before is not the last of its name any more.
        exact absurd hlast (hlater last (List.mem_append_right _ List.mem_cons_self))
    · rintro rfl
      exact ⟨hlast, history, [], rfl, nofun⟩
  · next hlast =>
    constructor
    · rintro ⟨hname, earlier, later, hhistory, hlater⟩
      rcases eq_append_cons_of_concat hhistory with ⟨rfl, -⟩ | ⟨between, rfl, rfl⟩
      · exact absurd hname hlast
      · exact ⟨hname, earlier, between, rfl, fun s hs => hlater s (List.mem_append_left _ hs)⟩
    · rintro ⟨hname, earlier, later, rfl, hlater⟩
      refine ⟨hname, earlier, later ++ [last], by simp, fun s hs => ?_⟩
      rcases List.mem_append.1 hs with hmem | hmem
      · exact hlater s hmem
      · rwa [List.mem_singleton.1 hmem]

/-- One more name comes last, if it is new. -/
theorem eraseDups_concat (names : List String) (name : String) :
    (names ++ [name]).eraseDups =
      if name ∈ names.eraseDups then names.eraseDups else names.eraseDups ++ [name] := by
  rw [List.eraseDups_append]
  by_cases h : name ∈ names
  · simp [List.removeAll, h]
  · simp [List.removeAll, h, List.eraseDups_cons]

namespace Registry

/-- The empty registry knows nothing. -/
theorem knows_empty : empty.Knows [] where
  distinct := List.nodup_nil
  order := rfl
  mem_iff _ := mem_names_iff
  find_iff name stage := by
    constructor
    · nofun
    · rintro ⟨-, earlier, later, hhistory, -⟩
      nomatch List.append_eq_nil_iff.1 hhistory.symm

/-- Registering one more stage keeps what is known of the others. -/
theorem Knows.register {registry : Registry} {history : List Stage} (h : registry.Knows history)
    (stage : Stage) : (registry.register stage).Knows (history ++ [stage]) where
  distinct := by
    rw [names_register]
    split
    · exact h.distinct
    · next hnew =>
      refine List.nodup_append.2 ⟨h.distinct, List.pairwise_singleton _ _, ?_⟩
      intro name hname other hother
      rw [List.mem_singleton.1 hother]
      rintro rfl
      exact hnew hname
  order := by
    rw [names_register, List.map_append, List.map_singleton, eraseDups_concat, ← h.order]
  mem_iff _ := mem_names_iff
  find_iff name found := by
    rw [find?_register, lastNamed_concat_iff]
    split
    · exact ⟨fun hfound => (Option.some.inj hfound).symm, fun hfound => congrArg some hfound.symm⟩
    · exact h.find_iff name found

/-- The registry that one starts with knows the stages of its own. -/
theorem knows_builtIn : builtIn.Knows builtIn.stages := by
  -- The built-in registry has come about by registering too.
  have hall := (((knows_empty.register Include.stage).register Language.stage).register
    Translation.stage).register RawMarker.stripStage
  exact hall

end Registry

/-- So a registry knows its history. The induction is on this. -/
theorem Registered.knows {history : List Stage} {registry : Registry}
    (h : Registered history registry) : registry.Knows history := by
  induction h with
  | empty => exact Registry.knows_empty
  | builtIn => exact Registry.knows_builtIn
  | register _ stage ih => exact ih.register stage

/-!
## Looking up the names of a manifest

All names are looked up, and the first one that is not known ends it.
-/

namespace Registry

variable {registry : Registry} {names : List String}

/-- Names are resolved if each of them is, to what is found under it. -/
theorem resolveAll_eq_ok_iff {stages : List Stage} :
    registry.resolveAll names = .ok stages ↔ names.map registry.find? = stages.map some := by
  unfold resolveAll
  rw [mapM_eq_ok_iff]
  induction names generalizing stages with
  | nil => cases stages <;> simp
  | cons name names ih =>
    cases stages with
    | nil => exact ⟨nofun, nofun⟩
    | cons stage stages =>
      rw [List.map_cons, List.map_cons, List.map_cons, List.map_cons, List.cons.injEq,
        List.cons.injEq, ih]
      refine and_congr_left' ?_
      cases registry.find? name with
      | none => exact ⟨nofun, nofun⟩
      | some found => rw [Except.ok.injEq, Option.some.injEq]

/-- Looking up fails at the first name that is not known. -/
theorem resolveAll_eq_error_iff {cause : Failure} :
    registry.resolveAll names = .error cause ↔
      ∃ name, names.find? (fun name => decide (name ∉ registry.names)) = some name ∧
        cause = .config (.unknownStage name registry.names) := by
  unfold resolveAll
  rw [mapM_eq_error_iff]
  -- The first name that is found nowhere is the first that is not known; all before it pass.
  induction names with
  | nil => exact ⟨nofun, fun ⟨_, h, _⟩ => (nomatch h)⟩
  | cons name names ih =>
    rw [List.findSome?_cons]
    cases hfound : registry.find? name with
    | some stage =>
      have hknown : name ∈ registry.names := mem_names_iff.2 ⟨stage, hfound⟩
      rw [List.find?_cons_of_neg (by simpa using hknown)]
      exact ih
    | none =>
      have hunknown : name ∉ registry.names := by
        rw [mem_names_iff, hfound]
        nofun
      rw [List.find?_cons_of_pos (by simpa using hunknown)]
      constructor
      · intro h
        cases h
        exact ⟨name, rfl, rfl⟩
      · rintro ⟨_, h, rfl⟩
        cases h
        rfl

/-- Names that a registry has can be resolved. -/
theorem exists_resolveAll (h : ∀ name ∈ names, name ∈ registry.names) :
    ∃ stages, registry.resolveAll names = .ok stages := by
  cases hresolve : registry.resolveAll names with
  | ok stages => exact ⟨stages, rfl⟩
  | error cause =>
    obtain ⟨name, hfirst, -⟩ := resolveAll_eq_error_iff.1 hresolve
    have hunknown := List.find?_some hfirst
    exact absurd (h name (List.mem_of_find?_eq_some hfirst)) (by simpa using hunknown)

end Registry

/-! ## Loading -/

namespace LoadedProject

/-- A project as its descriptor and its manifest describe it, its compiler not yet configured. -/
def described (mode : Mode) (root : Path) (package : Package) (manifest : Manifest) : Project where
  mode := mode
  root := root
  package := package
  configFile := none
  components := []
  templates := sortTemplates manifest.templates

theorem configure_eq_map (tree : FileTree) (project : Project) :
    configure tree project =
      (project.readConfig tree CompilerConfig.parse [CompilerConfig.fileName] project.root).map
        fun
        | none => project
        | some found => { project with
            configFile := some found.file
            components := found.value.packages.map project.resolve } := by
  unfold configure
  rcases project.readConfig tree CompilerConfig.parse [CompilerConfig.fileName] project.root with
    _ | (_ | _) <;> rfl

/-- Configuring the compiler does not change the mode. -/
theorem mode_of_configure {tree : FileTree} {project configured : Project}
    (h : configure tree project = .ok configured) : configured.mode = project.mode := by
  rw [configure_eq_map] at h
  obtain ⟨found, -, rfl⟩ := map_eq_ok_iff.1 h
  cases found <;> rfl

section Manifest

variable {tree : FileTree} {registry : Registry} {mode : Mode} {directory root : Path}
  {package : Package} {manifest : Manifest}
  (hroot : findRoot tree directory = .ok root)
  (hpackage : readWith tree Package.parse (root.join ⟨Package.fileName⟩) = .ok package)
  (hmanifest : readManifest tree (root.join ⟨manifestName⟩) = .ok manifest)
include hroot hpackage hmanifest

/-- With descriptor and manifest read, it remains to look up the stages and then to configure the
compiler. -/
theorem load_eq_of_manifest :
    load tree registry mode directory =
      (registry.resolveAll manifest.preprocessors).bind fun preprocessors =>
        (registry.resolveAll manifest.postprocessors).bind fun postprocessors =>
          (configure tree (described mode root package manifest)).map fun project =>
            { project with preprocessors, postprocessors } := by
  unfold load
  show (findRoot tree directory).bind _ = _
  rw [hroot, ok_bind]
  show (readWith tree Package.parse _).bind _ = _
  rw [hpackage, ok_bind]
  show (readManifest tree _).bind _ = _
  rw [hmanifest, ok_bind]
  refine congrArg (Except.bind _) (funext fun preprocessors => ?_)
  refine congrArg (Except.bind _) (funext fun postprocessors => ?_)
  show (configure tree (described mode root package manifest)).bind _ = _
  cases configure tree (described mode root package manifest) <;> rfl

/-- Once the stages are found and the compiler is configured the project is loaded. -/
theorem load_eq_ok {preprocessors postprocessors : List Stage} {project : Project}
    (hpre : registry.resolveAll manifest.preprocessors = .ok preprocessors)
    (hpost : registry.resolveAll manifest.postprocessors = .ok postprocessors)
    (hconfigure : configure tree (described mode root package manifest) = .ok project) :
    load tree registry mode directory = .ok { project with preprocessors, postprocessors } := by
  rw [load_eq_of_manifest hroot hpackage hmanifest, hpre, ok_bind, hpost, ok_bind, hconfigure]
  rfl

/-- The first unknown name of a manifest is reported, with the names that are known. -/
theorem load_of_unknown {name : String}
    (h : (manifest.preprocessors ++ manifest.postprocessors).find?
      (fun name => decide (name ∉ registry.names)) = some name) :
    load tree registry mode directory = .error (.config (.unknownStage name registry.names)) := by
  rw [load_eq_of_manifest hroot hpackage hmanifest]
  rw [List.find?_append] at h
  -- The names for behind the compiler are only looked up if all of those in front are known.
  cases hpre : manifest.preprocessors.find? fun name => decide (name ∉ registry.names) with
  | some first =>
    rw [hpre] at h
    cases h
    rw [Registry.resolveAll_eq_error_iff.2 ⟨name, hpre, rfl⟩, error_bind]
  | none =>
    rw [hpre, Option.none_or] at h
    obtain ⟨preprocessors, hresolve⟩ := Registry.exists_resolveAll fun name hname =>
      Decidable.byContradiction fun hunknown =>
        List.find?_eq_none.1 hpre name hname (decide_eq_true hunknown)
    rw [hresolve, ok_bind, Registry.resolveAll_eq_error_iff.2 ⟨name, h, rfl⟩, error_bind]

end Manifest

end LoadedProject

/-!
## The pipeline

What is known of the registry and of the manifest is put together: which stages there are, and where
they stand.
-/

/-- How the pipeline of a project comes from its manifest: every name stands for the stage that is
registered under it, and these stages stand between the built-in ones. -/
structure LoadedProject.Assembled (project : LoadedProject) (registry : Registry) (mode : Mode)
    (manifest : Manifest) : Prop where
  mode_eq : project.mode = mode
  preprocessors : manifest.preprocessors.map registry.find? = project.preprocessors.map some
  postprocessors : manifest.postprocessors.map registry.find? = project.postprocessors.map some
  pre : (Pipeline.ofProject project).pre =
    [Include.stage, Language.stage, Translation.stage] ++ project.preprocessors ++
      [templatingStage mode]
  post : (Pipeline.ofProject project).post = RawMarker.stripStage :: project.postprocessors

/-- In a registry that has come about by registering, the names are distinct and stand in the order
of their first registration, and each stands for the stage registered last under it. Loading passes
the lookup of stages exactly if all names of the manifest are known; else it fails with the first
unknown one. The pipeline of a project that is loaded runs the stages that are found between the
built-in ones. -/
theorem pipeline_of_registered {history : List Stage} {registry : Registry}
    (h : Registered history registry) :
    registry.Knows history ∧
    ∀ (tree : FileTree) (mode : Mode) (directory root : Path) (package : Package)
      (manifest : Manifest), findRoot tree directory = .ok root →
      readWith tree Package.parse (root.join ⟨Package.fileName⟩) = .ok package →
      LoadedProject.readManifest tree (root.join ⟨LoadedProject.manifestName⟩) = .ok manifest →
      let listed := manifest.preprocessors ++ manifest.postprocessors
      let loaded := LoadedProject.load tree registry mode directory
      (∀ name, listed.find? (fun name => decide (name ∉ registry.names)) = some name →
        loaded = .error (.config (.unknownStage name registry.names))) ∧
      ((∀ name ∈ listed, name ∈ registry.names) →
        ∃ preprocessors postprocessors, loaded =
          (LoadedProject.configure tree
            (LoadedProject.described mode root package manifest)).map fun project =>
            { project with preprocessors, postprocessors }) ∧
      ∀ project, loaded = .ok project →
        project.Assembled registry mode manifest ∧
        ∀ tree compiler components template,
          (Pipeline.ofProject project).buildTemplate tree project.toProject compiler components
              template =
            (Pipeline.readSource tree project.toProject template).bind fun source =>
              (Pipe.run tree project.toProject template
                  ([Include.stage, Language.stage, Translation.stage] ++ project.preprocessors ++
                    [templatingStage mode]) source).bind fun document =>
                (inStage "compile" template.label (compiler document
                    (Pipeline.optionsFor project.toProject components template))).bind
                  (Pipe.run tree project.toProject template
                    (RawMarker.stripStage :: project.postprocessors)) := by
  refine ⟨h.knows, ?_⟩
  intro tree mode directory root package manifest hroot hpackage hmanifest listed loaded
  have hload := @LoadedProject.load_eq_of_manifest tree registry mode directory root package
    manifest hroot hpackage hmanifest
  refine ⟨fun name => LoadedProject.load_of_unknown hroot hpackage hmanifest, ?_, ?_⟩
  · intro hknown
    rw [List.forall_mem_append] at hknown
    obtain ⟨preprocessors, hpre⟩ := Registry.exists_resolveAll hknown.1
    obtain ⟨postprocessors, hpost⟩ := Registry.exists_resolveAll hknown.2
    rw [hpre, ok_bind, hpost, ok_bind] at hload
    exact ⟨preprocessors, postprocessors, hload⟩
  · intro project hproject
    -- What was loaded is taken apart again into the three steps that have succeeded.
    obtain ⟨preprocessors, hpre, hrest⟩ := bind_eq_ok_iff.1 (hload.symm.trans hproject)
    obtain ⟨postprocessors, hpost, hconfigure⟩ := bind_eq_ok_iff.1 hrest
    obtain ⟨configured, hconfigured, rfl⟩ := map_eq_ok_iff.1 hconfigure
    have hmode : configured.mode = mode := LoadedProject.mode_of_configure hconfigured
    have hassembled : LoadedProject.Assembled { configured with preprocessors, postprocessors }
        registry mode manifest := by
      refine ⟨hmode, Registry.resolveAll_eq_ok_iff.1 hpre, Registry.resolveAll_eq_ok_iff.1 hpost,
        ?_, rfl⟩
      rw [← hmode]
      rfl
    refine ⟨hassembled, fun tree compiler components template => ?_⟩
    rw [Pipeline.buildTemplate_eq, hassembled.pre, hassembled.post]

/-! ## A card -/

/-- A stage that has the name of the one that includes files. -/
def shout : Stage := .ofText "inline-includes" (List.map Char.toUpper)

/-- A stage that sets a mark at the end. -/
def stamp : Stage := .ofText "stamp" (· ++ ['*'])

/-- The built-in stages, one of them replaced, and one more. -/
def cardRegistry : Registry := (Registry.builtIn.register shout).register stamp

def card : Template := ⟨"c", "card", "card", none, none, []⟩

/-- Files of a project with a card; a part of its manifest names stages. -/
def cardFiles (stages : String) : FileTree := ⟨[
  (["p"], .directory),
  (["p", "package.json"], .file "\x7b\x7d".toUTF8 false),
  (["p", "templates.json"], .file ("\x7b\"templates\":[" ++
    "\x7b\"id\":\"c\",\"name\":\"card\",\"template\":\"card\"\x7d]," ++ stages ++
    "\x7d").toUTF8 false)]⟩

/-- A manifest that names the replaced stage twice. -/
def shoutingFiles : FileTree := cardFiles <|
  "\"preprocessors\":[\"inline-includes\",\"stamp\",\"inline-includes\"]," ++
    "\"postprocessors\":[\"stamp\"]"

/-- A manifest that names stages which nobody has registered. -/
def sealedFiles : FileTree := cardFiles
  "\"preprocessors\":[\"stamp\",\"seal\"],\"postprocessors\":[\"wax\"]"

/-- A stage registered under the name of a built-in one runs where the manifest names it, and the
built-in one stays in its place. Of names that are not known the first before compiling is
reported. -/
theorem pipeline_of_cardRegistry :
    (∃ project, LoadedProject.load shoutingFiles cardRegistry .prod ⟨"/p"⟩ = .ok project ∧
        (Pipeline.ofProject project).pre = [Include.stage, Language.stage, Translation.stage,
          shout, stamp, shout, RawMarker.deferStage] ∧
        (Pipeline.ofProject project).post = [RawMarker.stripStage, stamp]) ∧
      LoadedProject.load sealedFiles cardRegistry .prod ⟨"/p"⟩ =
        .error (.config (.unknownStage "seal"
          ["inline-includes", "inject-lang", "translations", "remove-raw-tags", "stamp"])) := by
  have hregistered : Registered (Registry.builtIn.stages ++ [shout] ++ [stamp]) cardRegistry :=
    (Registered.builtIn.register shout).register stamp
  obtain ⟨-, hload⟩ := pipeline_of_registered hregistered
  refine ⟨?_, ?_⟩
  · have hroot : findRoot shoutingFiles ⟨"/p"⟩ = .ok ⟨"/p"⟩ :=
      eq_ok_of_toOption (by decide +kernel)
    have hpackage : readWith shoutingFiles Package.parse (Path.join ⟨"/p"⟩ ⟨Package.fileName⟩) =
        .ok ⟨none, none, []⟩ := eq_ok_of_toOption (by decide +kernel)
    have hmanifest : LoadedProject.readManifest shoutingFiles
        (Path.join ⟨"/p"⟩ ⟨LoadedProject.manifestName⟩) =
          .ok ⟨[card], ["inline-includes", "stamp", "inline-includes"], ["stamp"]⟩ :=
      eq_ok_of_toOption (by decide +kernel)
    obtain ⟨-, hknown, hassembled⟩ := hload _ .prod _ _ _ _ hroot hpackage hmanifest
    obtain ⟨preprocessors, postprocessors, hfound⟩ := hknown (by decide +kernel)
    have hconfigure : LoadedProject.configure shoutingFiles (LoadedProject.described .prod ⟨"/p"⟩
        ⟨none, none, []⟩ ⟨[card], ["inline-includes", "stamp", "inline-includes"], ["stamp"]⟩) =
          .ok ⟨.prod, ⟨"/p"⟩, ⟨none, none, []⟩, none, [], [card]⟩ := by
      rw [LoadedProject.described, LoadedProject.sortTemplates, List.mergeSort_singleton]
      exact eq_ok_of_toOption (by decide +kernel)
    rw [hconfigure] at hfound
    obtain ⟨hproject, -⟩ := hassembled _ hfound
    have hpre : preprocessors = [shout, stamp, shout] :=
      (List.map_inj_right fun _ _ => Option.some.inj).1 hproject.preprocessors.symm
    have hpost : postprocessors = [stamp] :=
      (List.map_inj_right fun _ _ => Option.some.inj).1 hproject.postprocessors.symm
    refine ⟨_, hfound, ?_, ?_⟩
    · rw [hproject.pre, hpre]
      rfl
    · rw [hproject.post, hpost]
  · have hroot : findRoot sealedFiles ⟨"/p"⟩ = .ok ⟨"/p"⟩ :=
      eq_ok_of_toOption (by decide +kernel)
    have hpackage : readWith sealedFiles Package.parse (Path.join ⟨"/p"⟩ ⟨Package.fileName⟩) =
        .ok ⟨none, none, []⟩ := eq_ok_of_toOption (by decide +kernel)
    have hmanifest : LoadedProject.readManifest sealedFiles
        (Path.join ⟨"/p"⟩ ⟨LoadedProject.manifestName⟩) =
          .ok ⟨[card], ["stamp", "seal"], ["wax"]⟩ := eq_ok_of_toOption (by decide +kernel)
    obtain ⟨hunknown, -⟩ := hload _ .prod _ _ _ _ hroot hpackage hmanifest
    have hnames : cardRegistry.names =
        ["inline-includes", "inject-lang", "translations", "remove-raw-tags", "stamp"] := by
      decide +kernel
    rw [← hnames]
    exact hunknown "seal" (by decide +kernel)

end MailTemplates
