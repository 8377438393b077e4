import Mathlib.Data.List.Nodup
import MailTemplates.Proofs.Stage.Registering
/-!
# What loading makes of a manifest

The templates of a loaded project are those of its manifest in the order of their names
(`LoadedProject.exists_manifest_of_load`). The order is stable: those of one name stay in the order
of the manifest (`filter_sortTemplates`). Where the names are distinct nothing else is left of that
order, so manifests whose templates are the same up to their order give the same list
(`sortTemplates_eq_of_perm`).
-/

namespace MailTemplates

namespace LoadedProject

/-!
## The order of the templates

Names are compared byte by byte, which for texts is the order of their code points. It is total and
transitive, so sorting by it is a stable sort.
-/

theorem nameLe_iff {a b : Template} : nameLe a b = true ↔ a.name ≤ b.name := decide_eq_true_iff

/-- Whether a name is in front of another one in the order of their code points. -/
def Precedes (first second : String) : Prop :=
  List.Lex (fun c d : Char => c.toNat < d.toNat) first.toList second.toList

/-- The order of names is the one of their bytes. -/
theorem nameLe_iff_not_precedes {a b : Template} :
    nameLe a b = true ↔ ¬ Precedes b.name a.name := by
  rw [nameLe_iff]
  exact Iff.rfl

theorem nameLe_trans (a b c : Template) (hab : nameLe a b = true) (hbc : nameLe b c = true) :
    nameLe a c = true :=
  nameLe_iff.2 (String.le_trans (nameLe_iff.1 hab) (nameLe_iff.1 hbc))

theorem nameLe_total (a b : Template) : (nameLe a b || nameLe b a) = true := by
  rw [Bool.or_eq_true, nameLe_iff, nameLe_iff]
  exact String.le_total a.name b.name

/-- Templates of one name stay in their order. -/
theorem filter_sortTemplates (templates : List Template) (name : String) :
    (sortTemplates templates).filter (·.name == name) =
      templates.filter (·.name == name) := by
  have hnames : ∀ t ∈ templates.filter (·.name == name), t.name = name := fun t ht =>
    eq_of_beq (List.mem_filter.1 ht).2
  have hpairwise : (templates.filter (·.name == name)).Pairwise fun a b => nameLe a b = true :=
    List.pairwise_of_forall_mem_list fun a ha b hb => by
      have hname : a.name = b.name := (hnames a ha).trans (hnames b hb).symm
      simp only [nameLe_iff, hname, String.le_refl]
  have hsublist : (templates.filter (·.name == name)).Sublist (sortTemplates templates) :=
    List.sublist_mergeSort nameLe_trans nameLe_total hpairwise List.filter_sublist
  have hfilter := hsublist.filter (·.name == name)
  rw [List.filter_filter] at hfilter
  simp only [Bool.and_self] at hfilter
  refine (hfilter.eq_of_length ?_).symm
  exact ((perm_sortTemplates templates).filter _).length_eq.symm

/-- With distinct names the order of the names is the only one. -/
theorem sortTemplates_eq_of_perm {first second : List Template} (h : first.Perm second)
    (hdistinct : (first.map Template.name).Nodup) :
    sortTemplates first = sortTemplates second := by
  have hfirst := perm_sortTemplates first
  have hsecond := perm_sortTemplates second
  refine List.Perm.eq_of_pairwise ?_ (pairwise_sortTemplates first) (pairwise_sortTemplates second)
    (hfirst.trans (h.trans hsecond.symm))
  intro a b ha hb hab hba
  have hname : a.name = b.name := String.le_antisymm (nameLe_iff.1 hab) (nameLe_iff.1 hba)
  exact List.inj_on_of_nodup_map hdistinct (hfirst.subset ha)
    (h.symm.subset (hsecond.subset hb)) hname

/-! ## What has been read -/

variable {tree : FileTree} {registry : Registry} {mode : Mode} {directory : Path}

/-- The configuration of the compiler changes neither the root nor the templates. -/
theorem root_and_templates_of_configure {project configured : Project}
    (h : configure tree project = .ok configured) :
    configured.root = project.root ∧ configured.templates = project.templates := by
  rw [configure_eq_map] at h
  obtain ⟨found, -, rfl⟩ := map_eq_ok_iff.1 h
  cases found <;> exact ⟨rfl, rfl⟩

/-- A manifest is read if the file can be read and its text is accepted. -/
theorem readManifest_eq_ok_iff {file : Path} {manifest : Manifest} :
    readManifest tree file = .ok manifest ↔
      ∃ content, tree.readText file = .ok content ∧ Manifest.parse content = .ok manifest := by
  unfold readManifest
  cases hread : tree.readText file with
  | error problem => exact ⟨nofun, fun ⟨_, h, _⟩ => nomatch h⟩
  | ok content =>
    dsimp only
    cases hparse : Manifest.parse content with
    | error problem =>
      constructor
      · nofun
      · rintro ⟨_, ⟨⟩, h⟩
        rw [hparse] at h
        nomatch h
    | ok read =>
      constructor
      · rintro ⟨⟩
        exact ⟨content, rfl, hparse⟩
      · rintro ⟨_, ⟨⟩, h⟩
        rw [hparse] at h
        cases h
        rfl

/-- A loaded project has the templates of the manifest that lies in its root. -/
theorem exists_manifest_of_load {project : LoadedProject}
    (h : load tree registry mode directory = .ok project) :
    findRoot tree directory = .ok project.root ∧
      ∃ content manifest, tree.readText (project.root.join ⟨manifestName⟩) = .ok content ∧
        Manifest.parse content = .ok manifest ∧
        project.templates = sortTemplates manifest.templates := by
  unfold load at h
  obtain ⟨root, hroot, h⟩ := bind_eq_ok_iff.1 h
  obtain ⟨package, hpackage, h⟩ := bind_eq_ok_iff.1 h
  obtain ⟨manifest, hmanifest, h⟩ := bind_eq_ok_iff.1 h
  obtain ⟨preprocessors, -, h⟩ := bind_eq_ok_iff.1 h
  obtain ⟨postprocessors, -, h⟩ := bind_eq_ok_iff.1 h
  obtain ⟨configured, hconfigure, h⟩ := bind_eq_ok_iff.1 h
  obtain ⟨hconfigured, htemplates⟩ := root_and_templates_of_configure hconfigure
  obtain ⟨content, hread, hparse⟩ := readManifest_eq_ok_iff.1 hmanifest
  cases h
  refine ⟨hroot.trans (congrArg Except.ok hconfigured.symm), content, manifest, ?_, hparse,
    htemplates⟩
  show tree.readText (configured.root.join ⟨manifestName⟩) = .ok content
  rw [hconfigured]
  exact hread

/-- The templates of a project are those of its manifest in the order of their names. -/
theorem templates_of_load {project : LoadedProject} {root : Path} {manifest : Manifest}
    (h : load tree registry mode directory = .ok project)
    (hroot : findRoot tree directory = .ok root)
    (hmanifest : readManifest tree (root.join ⟨manifestName⟩) = .ok manifest) :
    project.templates = sortTemplates manifest.templates := by
  obtain ⟨hfound, content, parsed, hread, hparse, htemplates⟩ := exists_manifest_of_load h
  obtain rfl : project.root = root := Except.ok.inj (hfound.symm.trans hroot)
  have hparsed := readManifest_eq_ok_iff.2 ⟨content, hread, hparse⟩
  obtain rfl : parsed = manifest := Except.ok.inj (hparsed.symm.trans hmanifest)
  exact htemplates

end LoadedProject

end MailTemplates
