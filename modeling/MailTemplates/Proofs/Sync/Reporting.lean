import Mathlib.Data.List.Forall2
import MailTemplates.Proofs.Json.Spelling
import MailTemplates.Proofs.Manifest.Entries
import MailTemplates.Proofs.Project.Loading
import MailTemplates.Proofs.Sync.UpdateSet
/-!
# Reports and manifest entries

The report of a synchronisation names the changed templates in the order of the project
(`updated_of_sync`), and its text stands for an array with an object for each
(`Report.spells_render`). A template has all members of its manifest entry and no others
(`Manifest.entries_of_parse`), so the report repeats the entries of what has changed, apart from the
order of the members.

What the text stands for is said by the grammar of JSON (`Json.Spells`), member by member, and not
by the printer of the report. A number of an entry is one that was read, so it has the form that the
grammar asks for (`Manifest.proper_entries`).

Main statement: `report_repeats_entries`.
-/

namespace MailTemplates

/-- The report is the text of an array with the entries of the updated templates. -/
theorem Report.render_json (report : Report) :
    report.render .json =
      (Json.array (report.updated.map fun t => .object t.entries)).compact := by
  have hitems : (",".intercalate (report.updated.map fun t => String.ofList t.text)).toList =
      Json.itemsText (report.updated.map fun t => .object t.entries) := by
    rw [String.toList_intercalate, Json.itemsText_eq_intercalate, List.map_map, List.map_map]
    refine congrArg _ (List.map_congr_left fun t _ => ?_)
    exact String.toList_ofList
  rw [← String.toList_inj, Json.compact, String.toList_ofList, render, String.toList_append,
    String.toList_append, hitems]
  rfl

/-- The text of a report stands for the array of the entries of the updated templates, if the
numbers in these have their usual form. -/
theorem Report.spells_render {report : Report}
    (h : ∀ t ∈ report.updated, ∀ m ∈ t.entries, m.2.Proper) :
    Json.Spells (report.render .json).toList
      (.array ((report.updated.map Template.entries).map .object)) := by
  rw [report.render_json, List.map_map]
  refine Json.spells_compact (.array ?_)
  rw [List.forall_mem_map]
  exact fun t ht => .object (h t ht)

/-- So they have in the templates of a manifest, as these have the members of its entries. -/
theorem Manifest.proper_entries {content : String} {manifest : Manifest}
    (h : Manifest.parse content = .ok manifest) :
    ∀ t ∈ manifest.templates, ∀ m ∈ t.entries, m.2.Proper := by
  obtain ⟨v, entries, hparse, hget, hentries, hlossless⟩ := Manifest.entries_of_parse h
  intro t ht m hm
  obtain ⟨ms, hms, hperm⟩ := (hlossless t ht).written
  cases Json.proper_of_get? (Json.proper_of_parse hparse) hget with
  | array hitems =>
    have hproper : (Json.object ms).Proper := by
      rw [← hms]
      exact hitems _ (hentries ▸ List.mem_map_of_mem ht)
    cases hproper with
    | object hmembers => exact hmembers m (hperm.mem_iff.1 hm)

namespace Sync

section Updated

variable {S : Type} {schedule : Schedule} {tree : FileTree} {project : LoadedProject}
  {compiler : Compiler} {store : Store S} {version : String} {dryRun : Bool} {s : S}

/-- A synchronisation that succeeds has compared all templates and reports those that differ. -/
theorem updated_of_sync {report : Report}
    (h : (sync schedule tree project compiler store version dryRun s).2 = .ok report) :
    ∃ cs, (collect schedule tree project compiler store s).2 = .ok cs ∧
      report.updated = (changes cs).map Comparable.template := by
  cases hcollect : (collect schedule tree project compiler store s).2 with
  | error failure =>
    rw [sync_of_collect_error hcollect] at h
    nomatch h
  | ok cs =>
    refine ⟨cs, rfl, ?_⟩
    cases dryRun with
    | true =>
      rw [sync_dry_of_collect hcollect] at h
      cases h
      rfl
    | false =>
      rw [sync_live_of_collect hcollect] at h
      obtain ⟨_, -, hreport⟩ := map_eq_ok_iff.1 h
      rw [← hreport]

end Updated

/-- An accepted manifest has a list of entries, its templates are written as these again and have
none of the known keys among the others, and reading what a template is written as gives the
template. So a report is the JSON text of an array that repeats, member for member, the entry of
each changed template. -/
theorem report_repeats_entries {content : String} {manifest : Manifest}
    (h : Manifest.parse content = .ok manifest) :
    ∃ v entries, Json.parse content = .ok v ∧ v.get? "templates" = some (.array entries) ∧
      manifest.templates.map Template.toJson = entries ∧
      (∀ t ∈ manifest.templates, Template.ofJson t.toJson = .ok t ∧
        ∀ m ∈ t.extra, m.1 ∉ Template.knownKeys) ∧
      ∀ (tree : FileTree) (registry : Registry) (mode : Mode) (directory : Path)
        (project : LoadedProject),
        LoadedProject.load tree registry mode directory = .ok project →
        tree.readText (project.root.join ⟨LoadedProject.manifestName⟩) = .ok content →
        ∀ (S : Type) (schedule : Schedule) (compiler : Compiler) (store : Store S)
          (version : String) (dryRun : Bool) (s : S) (report : Report),
          (sync schedule tree project compiler store version dryRun s).2 = .ok report →
          ∃ cs written, (collect schedule tree project compiler store s).2 = .ok cs ∧
            Json.Spells (report.render .json).toList (.array (written.map .object)) ∧
            List.Forall₂ (fun c w => ∃ ms, c.template.toJson = .object ms ∧
              .object ms ∈ entries ∧ w.Perm ms) (changes cs) written := by
  obtain ⟨v, entries, hparse, hget, hentries, hlossless⟩ := Manifest.entries_of_parse h
  refine ⟨v, entries, hparse, hget, hentries, fun t ht => ?_, ?_⟩
  · exact ⟨(hlossless t ht).reread, (hlossless t ht).unknown⟩
  intro tree registry mode directory project hload hread S schedule compiler store version dryRun s
    report hsync
  obtain ⟨cs, hcollect, hupdated⟩ := updated_of_sync hsync
  -- The project has no templates but those of this manifest.
  obtain ⟨-, content', manifest', hread', hparse', htemplates⟩ :=
    LoadedProject.exists_manifest_of_load hload
  obtain rfl : content' = content := Except.ok.inj (hread'.symm.trans hread)
  obtain rfl : manifest' = manifest := Except.ok.inj (hparse'.symm.trans h)
  have hmanifest : ∀ c ∈ changes cs, c.template ∈ manifest'.templates := by
    intro c hc
    have hcollected := List.mem_map_of_mem (f := Comparable.template) (mem_changes.1 hc).1
    rw [templates_of_collect hcollect, htemplates] at hcollected
    exact (LoadedProject.perm_sortTemplates _).subset hcollected
  refine ⟨cs, (changes cs).map fun c => c.template.entries, hcollect, ?_, ?_⟩
  · have hspells := report.spells_render (by
      rw [hupdated, List.forall_mem_map]
      exact fun c hc => Manifest.proper_entries h _ (hmanifest c hc))
    rwa [hupdated, List.map_map (f := Comparable.template)] at hspells
  rw [List.forall₂_map_right_iff, List.forall₂_same]
  intro c hc
  obtain ⟨ms, hms, hperm⟩ := (hlossless _ (hmanifest c hc)).written
  refine ⟨ms, hms, ?_, hperm⟩
  rw [← hentries, ← hms]
  exact List.mem_map_of_mem (hmanifest c hc)

/-! ## A letter with tags -/

/-- A manifest with one entry, which has keys of its own. -/
def taggedManifest : String :=
  "\x7b\"templates\":[\x7b\"tags\":\x7b\"z\":[1,null],\"id\":\"not the id\"\x7d," ++
    "\"subject\":\"S\",\"template\":\"a\",\"id\":\"t\",\"name\":\"tagged\",\"rank\":2\x7d]\x7d"

/-- The template of that entry. -/
def tagged : Template where
  id := "t"
  name := "tagged"
  source := "a"
  language := none
  subject := some "S"
  extra := [("rank", .number (.integer 2)), ("tags", .object [
    ("id", .string "not the id"), ("z", .array [.number (.integer 1), .null])])]

/-- The files that the tagged letter is loaded from. -/
def taggedFiles : FileTree := ⟨letterFiles.entries ++ [
  (["p", "package.json"], .file "\x7b\x7d".toUTF8 false),
  (["p", "templates.json"], .file taggedManifest.toUTF8 false)]⟩

/-- The entry with tags is repeated with these. -/
theorem report_repeats_tagged :
    Manifest.parse taggedManifest = .ok ⟨[tagged], [], []⟩ ∧
      ∃ report, (sync .inOrder taggedFiles { letters with templates := [tagged] } verbatim
          Memory.store "v" true {}).2 = .ok report ∧
        ∃ cs written, (collect .inOrder taggedFiles { letters with templates := [tagged] } verbatim
            Memory.store {}).2 = .ok cs ∧
          Json.Spells (report.render .json).toList (.array (written.map .object)) ∧
          List.Forall₂ (fun c w => ∃ ms, c.template.toJson = .object ms ∧
            .object ms ∈ [tagged.toJson] ∧ w.Perm ms) (changes cs) written := by
  have hparse : Manifest.parse taggedManifest = .ok ⟨[tagged], [], []⟩ :=
    eq_ok_of_toOption (by decide +kernel)
  have hroot : findRoot taggedFiles ⟨"/p"⟩ = .ok ⟨"/p"⟩ := eq_ok_of_toOption (by decide +kernel)
  have hpackage : readWith taggedFiles Package.parse (Path.join ⟨"/p"⟩ ⟨Package.fileName⟩) =
      .ok ⟨none, none, []⟩ :=
    eq_ok_of_toOption (by decide +kernel)
  have hread : taggedFiles.readText (Path.join ⟨"/p"⟩ ⟨LoadedProject.manifestName⟩) =
      .ok taggedManifest :=
    eq_ok_of_toOption (by decide +kernel)
  have hmanifest := LoadedProject.readManifest_eq_ok_iff.2 ⟨_, hread, hparse⟩
  have hconfigure : LoadedProject.configure taggedFiles
      (LoadedProject.described .prod ⟨"/p"⟩ ⟨none, none, []⟩ ⟨[tagged], [], []⟩) =
        .ok { letters.toProject with templates := [tagged] } := by
    rw [LoadedProject.described, LoadedProject.sortTemplates, List.mergeSort_singleton]
    exact eq_ok_of_toOption (by decide +kernel)
  have hload : LoadedProject.load taggedFiles .builtIn .prod ⟨"/p"⟩ =
      .ok { letters with templates := [tagged] } :=
    LoadedProject.load_eq_ok hroot hpackage hmanifest rfl rfl hconfigure
  have hsync : (sync .inOrder taggedFiles { letters with templates := [tagged] } verbatim
      Memory.store "v" true {}).2 = .ok ⟨true, [tagged]⟩ :=
    eq_ok_of_toOption (by decide +kernel)
  obtain ⟨v, entries, -, -, rfl, -, hreport⟩ := report_repeats_entries hparse
  exact ⟨hparse, _, hsync, hreport _ _ _ _ _ hload hread _ _ _ _ _ _ _ _ hsync⟩

end Sync

end MailTemplates
