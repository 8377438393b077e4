import Mathlib.Data.List.Nodup
import MailTemplates.Proofs.Json.Ordered
import MailTemplates.Proofs.Project.Climbing
import MailTemplates.Proofs.Project.Searching
import MailTemplates.Stage.SampleData
/-!
# What the tags of a template see

Tags see the descriptor of a template with its sample data laid over it, key by key. The sample data
is in one file: of the directories from that of the template up to the root of the project
(`Path.Climbs`) the nearest decides that has a file under one of three names, and in it the first of
these names. What that file says is laid over the descriptor if it is an object, and otherwise
nothing is; no other file is looked at instead.

Main statement: `SampleData.context_overlays`.
-/

namespace MailTemplates

/-!
## Keys of an overlay

Laying one object over another is setting its members one after another; so each key shows the upper
value if there is one, and else the lower.
-/

namespace Members

/-- Of two lists of members the front one is looked at first. -/
theorem get?_append (front behind : Members) (key : String) :
    get? (front ++ behind) key = (front.get? key).or (behind.get? key) := by
  induction front with
  | nil => rfl
  | cons m front ih =>
    obtain ⟨k, v⟩ := m
    rw [List.cons_append, get?, get?]
    split
    · rfl
    · exact ih

/-- In an overlay a key has the last value that is laid over it, or else the one that it had. -/
theorem get?_overlay (base top : Members) (key : String) :
    (base.overlay top).get? key = (Members.get? top.reverse key).or (base.get? key) := by
  unfold overlay
  induction top generalizing base with
  | nil => rfl
  | cons m top ih =>
    obtain ⟨k, v⟩ := m
    rw [List.foldl_cons, ih, get?_insert, List.reverse_cons, get?_append, Option.or_assoc]
    congr 1
    rw [get?, get?]
    split <;> rfl

/-- Of members that are set one after the other the last one counts. -/
theorem get?_ofList (entries : List (String × Json)) (key : String) :
    (ofList entries).get? key = Members.get? entries.reverse key := by
  have h := get?_overlay [] entries key
  rwa [show Members.get? [] key = none from rfl, Option.or_none] at h

/-- Members in order may be looked at from the end. -/
theorem get?_reverse {ms : Members} (h : ms.Ordered) (key : String) :
    Members.get? ms.reverse key = ms.get? key := by
  induction ms with
  | nil => rfl
  | cons m rest ih =>
    obtain ⟨k, v⟩ := m
    obtain ⟨hfirst, hrest⟩ := List.pairwise_cons.1 h
    rw [List.reverse_cons, get?_append, ih hrest, get?, get?, get?]
    split
    · next heq =>
      -- The key of the first member is not there a second time.
      subst heq
      have hnone : get? rest k = none := by
        rw [Option.eq_none_iff_forall_ne_some]
        intro w hw
        exact String.lt_irrefl k (hfirst _ ((get?_eq_some_iff hrest).1 hw))
      rw [hnone, Option.none_or]
    · exact Option.or_none

/-- Members in order are known by what is found under each key. -/
theorem ext_of_ordered {ms ns : Members} (hms : ms.Ordered) (hns : ns.Ordered)
    (h : ∀ key, ms.get? key = ns.get? key) : ms = ns := by
  have hperm : ms.Perm ns := by
    refine (List.perm_ext_iff_of_nodup (nodup_of_ordered hms).of_map
      (nodup_of_ordered hns).of_map).2 ?_
    rintro ⟨key, v⟩
    rw [← get?_eq_some_iff hms, ← get?_eq_some_iff hns, h]
  refine hperm.eq_of_pairwise ?_ hms hns
  intro a b _ _ hab hba
  exact absurd (String.lt_trans hab hba) (String.lt_irrefl _)

end Members

namespace Template

/-- The field of a template that has a key of its own. -/
def field? (t : Template) (key : String) : Option Json :=
  if key = "id" then some (.string t.id)
  else if key = "name" then some (.string t.name)
  else if key = "template" then some (.string t.source)
  else if key = "language" then t.language.map .string
  else if key = "subject" then t.subject.map .string
  else none

/-- What the descriptor of a template says under a key: the other member with this key, or else the
field. A list of members that was read has each key once; of more than one the last counts. -/
def value? (t : Template) (key : String) : Option Json :=
  (Members.get? t.extra.reverse key).or (t.field? key)

/-- The members of a template are its fields and what was kept aside. -/
theorem get?_members (t : Template) (key : String) : t.members.get? key = t.value? key := by
  rw [members, Members.get?_ofList, entries, List.reverse_append, Members.get?_append, value?]
  congr 1
  obtain ⟨id, name, source, language, subject, extra⟩ := t
  by_cases hkey : key ∈ knownKeys
  · simp only [knownKeys, List.mem_cons, List.not_mem_nil, or_false] at hkey
    rcases hkey with rfl | rfl | rfl | rfl | rfl <;> cases language <;> cases subject <;>
      simp [Members.get?, field?]
  · simp only [knownKeys, List.mem_cons, List.not_mem_nil, or_false, not_or] at hkey
    cases language <;> cases subject <;> simp [Members.get?, field?, hkey, Ne.symm]

end Template

/-! ## The file that is laid over -/

namespace FileTree

/-- Whether a file is the one that is found under one of the names in the nearest directory that has
any, and there under the first. -/
def IsFirst (tree : FileTree) (directories : List Path) (names : List String) (found : Path) :
    Prop :=
  ∃ nearer directory farther, directories = nearer ++ directory :: farther ∧
    (∀ d ∈ nearer, ∀ name ∈ names, tree.isFile (d.join ⟨name⟩) = false) ∧
    ∃ before name after, names = before ++ name :: after ∧
      (∀ other ∈ before, tree.isFile (directory.join ⟨other⟩) = false) ∧
      tree.isFile (directory.join ⟨name⟩) = true ∧ found = directory.join ⟨name⟩

end FileTree

namespace SampleData

variable {tree : FileTree} {project : Project} {template : Template}

/-- The stem of the source document, or the name of the template if the document has none. -/
def stem (template : Template) : String :=
  (⟨template.source⟩ : Path).fileStem.getD template.name

/-- The names that are looked for: the name of the template, that with the language, and the general
one. -/
theorem names_eq (template : Template) :
    names template = [template.name ++ ".json", stem template ++ ".json", "data.json"] := by
  unfold names stem
  cases (⟨template.source⟩ : Path).fileStem <;> rfl

/-- Whether a file is the sample data of a template. -/
def Selected (tree : FileTree) (project : Project) (template : Template) (file : Path) : Prop :=
  tree.IsFirst (project.searchPath tree (project.directoryOf template))
    [template.name ++ ".json", stem template ++ ".json", "data.json"] file

/-- A file is selected if it is the first candidate that is there. -/
theorem selected_iff {file : Path} :
    Selected tree project template file ↔
      (project.candidates tree (names template) (project.directoryOf template)).find?
        tree.isFile = some file := by
  rw [names_eq]
  exact find?_flatMap_map_eq_some_iff.symm

/-- What the tags of a template see: an object that has the value of the sample data under each key
that it has one for, and that of the descriptor under all other keys. -/
inductive Sees (tree : FileTree) (project : Project) (template : Template) : Json → Prop where
  | descriptor {members : Members} (hnone : ∀ file, ¬Selected tree project template file)
      (horder : members.Ordered) (hkeys : ∀ key, members.get? key = template.value? key) :
      Sees tree project template (.object members)
  | overlaid {file : Path} {content : String} {data : Json} {members : Members}
      (hselected : Selected tree project template file)
      (hcontent : tree.readText file = .ok content) (hdata : Json.parse content = .ok data)
      (horder : members.Ordered)
      (hkeys : ∀ key, members.get? key = (data.get? key).or (template.value? key)) :
      Sees tree project template (.object members)

/-- Without a file the context is the template itself. -/
theorem context_of_not_selected (h : ∀ file, ¬Selected tree project template file) :
    context tree project template = .ok (.object template.members) := by
  have hnone : (project.candidates tree (names template) (project.directoryOf template)).find?
      tree.isFile = none :=
    Option.eq_none_iff_forall_ne_some.2 fun file hfile => h file (selected_iff.2 hfile)
  have hfiles : ∀ file ∈
      project.candidates tree (names template) (project.directoryOf template),
      tree.isFile file = false :=
    fun file hfile => Bool.eq_false_iff.2 (List.find?_eq_none.1 hnone file hfile)
  rw [context, (project.readConfig_eq_none tree Json.parse _ _).2 hfiles]
  rfl

/-- With one it is the template overlaid with the members of the file. -/
theorem context_of_selected {file : Path} (h : Selected tree project template file) :
    context tree project template = (readWith tree Json.parse file).map fun data =>
      .object (template.members.overlay (membersOf (some ⟨data, file⟩))) := by
  rw [context, Project.readConfig_of_first (selected_iff.1 h)]
  cases readWith tree Json.parse file <;> rfl

/-- A file is read if it is text and that can be parsed. -/
theorem readWith_eq_ok_iff {α : Type} {parse : String → Except Json.Fault α} {file : Path}
    {value : α} :
    readWith tree parse file = .ok value ↔
      ∃ content, tree.readText file = .ok content ∧ parse content = .ok value := by
  unfold readWith
  cases tree.readText file with
  | error problem => exact ⟨nofun, fun ⟨_, h, _⟩ => nomatch h⟩
  | ok content =>
    dsimp only
    cases hparse : parse content with
    | error fault =>
      refine ⟨nofun, ?_⟩
      rintro ⟨_, ⟨⟩, h⟩
      nomatch hparse.symm.trans h
    | ok read =>
      constructor
      · rintro ⟨⟩
        exact ⟨content, rfl, hparse⟩
      · rintro ⟨_, ⟨⟩, h⟩
        exact congrArg Except.ok (Except.ok.inj (hparse.symm.trans h))

/-- The members of a template are in order. -/
theorem ordered_members (template : Template) : template.members.Ordered :=
  Members.ordered_ofList template.entries

/-- Laid over the descriptor, what a file says has its keys, if it is an object, and none if it is
another value. -/
theorem get?_overlay_membersOf {data : Json} (h : data.Ordered) (file : Path) (key : String) :
    (template.members.overlay (membersOf (some ⟨data, file⟩))).get? key =
      (data.get? key).or (template.value? key) := by
  rw [Members.get?_overlay, Template.get?_members]
  cases h with
  | object horder _ => exact congrArg (Option.or · _) (Members.get?_reverse horder key)
  | _ => rfl

/-- The directories that are searched for sample data lead from that of the template, all links
followed if it exists, up to and including the root, and there are none if the template is not in
the root. What the tags of the template see, if anything comes of it, is an object that has the
value of the sample data under each key that this has one for, and the value of the descriptor, if
any, under all other keys. -/
theorem context_overlays (tree : FileTree) (project : Project) (template : Template) :
    (∃ start,
      (tree.canonical (project.directoryOf template) = .ok start ∨
        (∃ problem, tree.canonical (project.directoryOf template) = .error problem) ∧
          start = project.directoryOf template) ∧
      project.root.Climbs start (project.searchPath tree (project.directoryOf template))) ∧
      ∀ seen, context tree project template = .ok seen ↔ Sees tree project template seen := by
  refine ⟨project.climbs_searchPath tree _, fun seen => ⟨fun h => ?_, fun h => ?_⟩⟩
  · by_cases hselected : ∃ file, Selected tree project template file
    · obtain ⟨file, hfile⟩ := hselected
      rw [context_of_selected hfile, map_eq_ok_iff] at h
      obtain ⟨data, hread, rfl⟩ := h
      obtain ⟨content, hcontent, hdata⟩ := readWith_eq_ok_iff.1 hread
      exact .overlaid hfile hcontent hdata
        (Members.ordered_foldl_insert _ (ordered_members template))
        (get?_overlay_membersOf (Json.ordered_of_parse hdata) file)
    · rw [not_exists] at hselected
      rw [context_of_not_selected hselected] at h
      cases h
      exact .descriptor hselected (ordered_members template) template.get?_members
  · -- Members in order are determined by what is under each key, so a description key by key is a
    -- description of the whole.
    cases h with
    | descriptor hnone horder hkeys =>
      rw [context_of_not_selected hnone]
      refine congrArg (Except.ok ∘ Json.object) ?_
      refine Members.ext_of_ordered (ordered_members template) horder fun key => ?_
      rw [hkeys, Template.get?_members]
    | @overlaid file content data members hselected hcontent hdata horder hkeys =>
      rw [context_of_selected hselected, readWith_eq_ok_iff.2 ⟨content, hcontent, hdata⟩]
      refine congrArg (Except.ok ∘ Json.object) ?_
      refine Members.ext_of_ordered
        (Members.ordered_foldl_insert _ (ordered_members template)) horder fun key => ?_
      rw [hkeys]
      exact get?_overlay_membersOf (Json.ordered_of_parse hdata) file key

end SampleData

end MailTemplates
