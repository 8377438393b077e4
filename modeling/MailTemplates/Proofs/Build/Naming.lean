import MailTemplates.Proofs.Build.Landing
import MailTemplates.Proofs.FileTree.Unlinked
/-!
# Which files belong to which template

The two files of a template have its stem in front and differ in their endings, and a text with an
ending that has no slash is cut like the text alone, with the ending at the last part
(`Path.written_of_ending`). So a page is never a subject, and two pages have one path exactly if the
subjects have, which is a question of the stems. A stem is a name and a language with a dot between
them, and another dot in it may be taken for that one (`stem_eq_iff`).

There are two questions, and they are kept apart. Whether two paths are written alike is a question
of texts: joining and cutting lead it back to the stems, and `stem_eq_iff` answers it for these.
Whether two paths name one file is a question of the tree. Without links a path names the place that
its parts lead to, so different parts can only name one place if some of them go up; plain names do
not, and a page and a subject differ in their last part, which is a name in any case.

In `Build.Written.keeps` the two come together: an output that was written is still there when
others have been written, if their stems are different.

Main statement: `artifacts_apart`.
-/

namespace MailTemplates

/-!
## Endings

Two texts with the same ending are equal if they are so without it; with two different endings they
never are.
-/

namespace Text

/-- What has no separator goes to the last part. So an ending changes one part only. -/
theorem splitAt_append_of_not_mem {sep : Char} {w : List Char} (hw : sep ∉ w) {cs last : List Char}
    {front : List (List Char)} (h : splitAt sep cs = front ++ [last]) :
    splitAt sep (cs ++ w) = front ++ [last ++ w] := by
  have hcs : cs ++ w = [sep].intercalate (front ++ [last ++ w]) := by
    rw [← intercalate_splitAt sep cs, h]
    cases front with
    | nil => simp only [List.nil_append, List.intercalate_singleton]
    | cons part front =>
      rw [intercalate_append (List.cons_ne_nil part front) (List.cons_ne_nil _ _),
        intercalate_append (List.cons_ne_nil part front) (List.cons_ne_nil _ _),
        List.intercalate_singleton, List.intercalate_singleton, List.append_assoc]
  have hparts : ∀ part ∈ front ++ [last], sep ∉ part := fun part hpart =>
    not_mem_of_mem_splitAt (h ▸ hpart)
  rw [List.forall_mem_append, List.forall_mem_singleton] at hparts
  rw [hcs, splitAt_intercalate (by simp)]
  rw [List.forall_mem_append, List.forall_mem_singleton, List.mem_append, not_or]
  exact ⟨hparts.1, hparts.2, hw⟩

end Text

namespace Path

/-- A path with an ending is written like the one without it but for the last part. -/
theorem written_of_ending {base : String} (hbase : base ≠ "") :
    ∃ front last, ∀ ending : String, '/' ∉ ending.toList →
      (⟨base ++ ending⟩ : Path).written = front ++ [last ++ ending.toList] := by
  obtain ⟨front, last, hsplit⟩ : ∃ front last,
      Text.splitAt '/' (⟨base⟩ : Path).body = front ++ [last] :=
    ⟨_, _, (List.dropLast_concat_getLast (Text.splitAt_ne_nil _ _)).symm⟩
  refine ⟨front, last, fun ending hslash => ?_⟩
  have hbody : (⟨base ++ ending⟩ : Path).body = (⟨base⟩ : Path).body ++ ending.toList :=
    body_of_append hbase (by rw [String.toList_append])
  rw [written_eq, hbody, Text.splitAt_append_of_not_mem hslash hsplit]

/-- Relative paths with the same parts are the same. -/
theorem eq_of_written_eq {p q : Path} (hp : p.isAbsolute = false) (hq : q.isAbsolute = false)
    (h : p.written = q.written) : p = q := by
  rw [written_of_not_isAbsolute hp, written_of_not_isAbsolute hq] at h
  have hlists : p.text.toList = q.text.toList := by
    rw [← Text.intercalate_splitAt '/' p.text.toList, h, Text.intercalate_splitAt]
  obtain ⟨text⟩ := p
  exact congrArg Path.mk (String.toList_inj.1 hlists)

end Path

namespace Artifact

theorem getLast?_directory (project : Project) :
    (directory project).text.toList.getLast? = some 't' := by
  unfold directory Project.resolve Path.join
  split
  · rfl
  · split
    · rfl
    · simp [directoryName]
    · simp [directoryName]

/-!
## Stems

A stem is a name, a dot and a language. It can be cut at each of its dots, so it may be the stem of
several templates.
-/

/-- The language of a template as it is written in the names of its files. -/
def languageText (template : Template) : String := template.language.getD ""

/-- Whether the dot behind the name of one template stands within the name of the other. The name of
the other one then holds a dot, and what is behind it counts as a part of the name there and of the
language here. -/
def Shifted (t u : Template) : Prop :=
  ∃ between, u.name = t.name ++ "." ++ between ∧
    languageText t = between ++ "." ++ languageText u

/-- A name that continues another one in the same stem is equal to it, or the dot between name and
language has moved. -/
theorem same_or_shifted {t u : Template} {more : List Char}
    (hname : u.name.toList = t.name.toList ++ more)
    (hlanguage : '.' :: (languageText t).toList = more ++ '.' :: (languageText u).toList) :
    (t.name = u.name ∧ languageText t = languageText u) ∨ Shifted t u := by
  cases more with
  | nil =>
    rw [List.append_nil, String.toList_inj] at hname
    exact .inl ⟨hname.symm, String.toList_inj.1 (List.cons.inj hlanguage).2⟩
  | cons c between =>
    -- Behind the shorter name stands its dot, and that is within the longer one.
    obtain ⟨rfl, hlanguage⟩ := List.cons.inj hlanguage
    refine .inr ⟨String.ofList between, String.toList_inj.1 ?_, String.toList_inj.1 ?_⟩
    · simpa using hname
    · simpa using hlanguage

/-- Two stems are equal if the names and languages are, or if the dot between them has moved. Of two
equal stems one name continues the other; what it has more begins with the dot that stands between
name and language in the shorter case. -/
theorem stem_eq_iff {t u : Template} :
    stem t = stem u ↔
      (t.name = u.name ∧ languageText t = languageText u) ∨ Shifted t u ∨ Shifted u t := by
  constructor
  · intro h
    have hlists : t.name.toList ++ '.' :: (languageText t).toList =
        u.name.toList ++ '.' :: (languageText u).toList := by
      simpa [stem, languageText] using congrArg String.toList h
    rcases List.append_eq_append_iff.1 hlists with
      ⟨more, hname, hlanguage⟩ | ⟨more, hname, hlanguage⟩
    · exact (same_or_shifted hname hlanguage).imp_right .inl
    · exact (same_or_shifted hname hlanguage).imp (.imp Eq.symm Eq.symm) .inr
  · rintro (⟨hname, hlanguage⟩ | ⟨between, hname, hlanguage⟩ | ⟨between, hname, hlanguage⟩)
    · show t.name ++ "." ++ languageText t = u.name ++ "." ++ languageText u
      rw [hname, hlanguage]
    · show t.name ++ "." ++ languageText t = u.name ++ "." ++ languageText u
      rw [hname, hlanguage]
      simp only [String.append_assoc]
    · show t.name ++ "." ++ languageText t = u.name ++ "." ++ languageText u
      rw [hname, hlanguage]
      simp only [String.append_assoc]

/-- With languages that have no dot in them, the stem tells a name and a language. -/
theorem eq_of_stem_eq {t u : Template} (ht : '.' ∉ (languageText t).toList)
    (hu : '.' ∉ (languageText u).toList) (h : stem t = stem u) :
    t.name = u.name ∧ languageText t = languageText u := by
  rcases stem_eq_iff.1 h with hsame | ⟨between, -, hlanguage⟩ | ⟨between, -, hlanguage⟩
  · exact hsame
  · exact absurd (by simp [hlanguage]) ht
  · exact absurd (by simp [hlanguage]) hu

/-!
## Paths as they are written

Here the question is whether two paths are the same text, or the same parts.
-/

/-- What the paths of the two files of a template start with. -/
def base (project : Project) (template : Template) : String :=
  if (⟨template.name⟩ : Path).isAbsolute then stem template
  else (directory project).text ++ "/" ++ stem template

theorem stem_ne_empty (template : Template) : stem template ≠ "" := by
  simp [stem]

theorem base_ne_empty (project : Project) (template : Template) : base project template ≠ "" := by
  unfold base
  split
  · exact stem_ne_empty template
  · simp [stem]

theorem isAbsolute_fileName (template : Template) (ending : String) :
    (⟨stem template ++ ending⟩ : Path).isAbsolute = (⟨template.name⟩ : Path).isAbsolute := by
  unfold Path.isAbsolute stem
  cases hname : template.name.toList with
  | nil => simp [hname]
  | cons c cs => simp [hname]

/-- The file of a template in the output directory is its base with an ending. -/
theorem join_fileName (project : Project) (template : Template) (ending : String) :
    (directory project).join ⟨stem template ++ ending⟩ = ⟨base project template ++ ending⟩ := by
  unfold Path.join base
  rw [isAbsolute_fileName, getLast?_directory]
  split
  · rfl
  · simp only [String.append_assoc]
    rfl

theorem pagePath_eq (project : Project) (template : Template) :
    pagePath project template = ⟨base project template ++ ".html"⟩ :=
  join_fileName project template ".html"

theorem subjectPath_eq (project : Project) (template : Template) :
    subjectPath project template = ⟨base project template ++ ".subject.hbs"⟩ :=
  join_fileName project template ".subject.hbs"

/-- One ending makes different paths of different fronts. -/
theorem path_eq_iff {first second ending : String} :
    (⟨first ++ ending⟩ : Path) = ⟨second ++ ending⟩ ↔ first = second := by
  simp

/-- The bases of two templates are equal if their stems are, provided that both names are relative,
or neither is. A name that starts with a slash leaves the output directory, so that a relative one
might be written out to the same path. -/
theorem base_eq_iff {project : Project} {t u : Template}
    (h : (⟨t.name⟩ : Path).isAbsolute = (⟨u.name⟩ : Path).isAbsolute) :
    base project t = base project u ↔ stem t = stem u := by
  unfold base
  rw [h]
  split
  · rfl
  · simp

/-- The last part of a path with one of the two endings. -/
theorem exists_parts_eq (project : Project) (template : Template) :
    ∃ front steps last, ∀ ending ∈ [".html", ".subject.hbs"],
      (⟨base project template ++ ending⟩ : Path).parts = front ++ [last ++ ending.toList] ∧
      (⟨base project template ++ ending⟩ : Path).steps =
        steps ++ [.into (String.ofList (last ++ ending.toList))] := by
  obtain ⟨front, last, hwritten⟩ := Path.written_of_ending (base_ne_empty project template)
  refine ⟨front.filter fun part => !Path.idle part, front.map Path.stepOf, last,
    fun ending hending => ?_⟩
  have hslash : '/' ∉ ending.toList := by
    revert ending
    decide
  -- Both endings have this letter, so the last part is a name whatever the stem ends with.
  have hname : 'h' ∈ last ++ ending.toList := by
    refine List.mem_append_right _ ?_
    revert ending
    decide
  obtain ⟨hidle, hup⟩ := Path.idle_of_mem hname (by decide)
  rw [Path.parts, Path.steps_eq, hwritten ending hslash, List.filter_append, List.map_append,
    List.map_singleton, Path.stepOf_of_named hidle hup]
  exact ⟨by simp [hidle], rfl⟩

/-- No text ends like a page and like a subject. -/
theorem append_page_ne (first second : List Char) :
    first ++ ".html".toList ≠ second ++ ".subject.hbs".toList := by
  intro h
  simpa using congrArg List.getLast? h

/-- A page and a subject never have the same parts, whatever the templates. Their last parts end in
different letters. -/
theorem parts_pagePath_ne (project : Project) (t u : Template) :
    (pagePath project t).parts ≠ (subjectPath project u).parts := by
  obtain ⟨front, _, last, hpage⟩ := exists_parts_eq project t
  obtain ⟨front', _, last', hsubject⟩ := exists_parts_eq project u
  rw [pagePath_eq, subjectPath_eq, (hpage ".html" (by simp)).1,
    (hsubject ".subject.hbs" (by simp)).1]
  intro h
  exact append_page_ne last last' (List.singleton_inj.1 (List.append_inj' h rfl).2)

/-- Without links, the page of a template and the subject of one are never the same file. Without
links a path that leads to a file ends in the name of the file, and no name ends in both ways. -/
theorem resolve_pagePath_ne {tree : FileTree} (hlinks : tree.LinkFree []) (project : Project)
    (t u : Template) {place : Place} (hpage : tree.resolve (pagePath project t) = .ok place) :
    tree.resolve (subjectPath project u) ≠ .ok place := by
  intro hsubject
  -- Without links a path ends at a place with the name of its last part.
  obtain ⟨_, front, last, hpageSteps⟩ := exists_parts_eq project t
  obtain ⟨_, front', last', hsubjectSteps⟩ := exists_parts_eq project u
  have hplace := (FileTree.eq_after_of_resolve hlinks hpage).symm.trans
    (FileTree.eq_after_of_resolve hlinks hsubject)
  rw [pagePath_eq, subjectPath_eq, (hpageSteps ".html" (by simp)).2,
    (hsubjectSteps ".subject.hbs" (by simp)).2, Place.after_append, Place.after_append] at hplace
  have hnames := List.singleton_inj.1 (List.append_inj' hplace rfl).2
  exact append_page_ne last last' (String.ofList_inj.1 hnames)

/-!
## Plain names

Here it is whether they lead to the same file, for templates whose names do not lead anywhere else.
-/

/-- Steps down lead below where they start. -/
theorem after_map_into (here : Place) (parts : List (List Char)) :
    here.after (parts.map fun part => .into (String.ofList part)) =
      here ++ parts.map String.ofList := by
  induction parts generalizing here with
  | nil => exact (List.append_nil here).symm
  | cons part parts ih =>
    rw [List.map_cons, Place.after, ih, List.append_assoc]
    rfl

/-- A template whose files have names with nothing in them but names of directories and files. It
has no steps that stay or go up, so where the files are is told by their names. -/
def Plain (template : Template) : Prop :=
  ∀ name ∈ fileNames template, name.isAbsolute = false ∧
    ∀ part ∈ name.written, Path.idle part = false ∧ part ≠ ['.', '.']

/-- A template without a slash in its stem has files with plain names. -/
theorem plain_of_not_mem {template : Template} (h : '/' ∉ (stem template).toList) :
    Plain template := by
  intro name hname
  obtain ⟨hrelative, -⟩ := steps_of_fileName h hname
  refine ⟨hrelative, fun part hpart => ?_⟩
  simp only [fileNames, List.mem_cons, List.not_mem_nil, or_false] at hname
  have hslash : '/' ∉ name.text.toList := by
    rcases hname with rfl | rfl
    · simpa using h
    · simpa using h
  rw [Path.written_of_not_isAbsolute hrelative, Text.splitAt_of_not_mem hslash,
    List.mem_singleton] at hpart
  subst hpart
  have hletter : 'h' ∈ name.text.toList := by
    rcases hname with rfl | rfl <;> simp
  exact Path.idle_of_mem hletter (by decide)

section Plain

variable {t u : Template} {first second name : Path}

/-- No page has the name of a subject. -/
theorem pageName_ne (t u : Template) :
    (⟨stem t ++ ".html"⟩ : Path) ≠ ⟨stem u ++ ".subject.hbs"⟩ := by
  intro h
  refine append_page_ne (stem t).toList (stem u).toList ?_
  simpa using congrArg (fun path => path.text.toList) h

/-- Templates with different stems have no file name in common. -/
theorem fileName_ne (hstem : stem t ≠ stem u) (hfirst : first ∈ fileNames t)
    (hsecond : second ∈ fileNames u) : first ≠ second := by
  simp only [fileNames, List.mem_cons, List.not_mem_nil, or_false] at hfirst hsecond
  rcases hfirst with rfl | rfl <;> rcases hsecond with rfl | rfl
  · exact fun h => hstem (path_eq_iff.1 h)
  · exact pageName_ne t u
  · exact (pageName_ne u t).symm
  · exact fun h => hstem (path_eq_iff.1 h)

/-- Different plain names have different parts. -/
theorem written_ne (ht : Plain t) (hu : Plain u) (hfirst : first ∈ fileNames t)
    (hsecond : second ∈ fileNames u) (hne : first ≠ second) : first.written ≠ second.written :=
  fun h => hne (Path.eq_of_written_eq (ht first hfirst).1 (hu second hsecond).1 h)

theorem parts_eq_written (ht : Plain t) (hname : name ∈ fileNames t) :
    name.parts = name.written := by
  rw [Path.parts, List.filter_eq_self]
  intro part hpart
  rw [((ht name hname).2 part hpart).1]
  rfl

/-- Different plain names stay different in the output directory. -/
theorem parts_join_ne (project : Project) (ht : Plain t) (hu : Plain u)
    (hfirst : first ∈ fileNames t) (hsecond : second ∈ fileNames u) (hne : first ≠ second) :
    ((directory project).join first).parts ≠ ((directory project).join second).parts := by
  rw [Path.parts_join _ (ht first hfirst).1, Path.parts_join _ (hu second hsecond).1,
    parts_eq_written ht hfirst, parts_eq_written hu hsecond]
  exact fun h => written_ne ht hu hfirst hsecond hne (List.append_cancel_left h)

theorem steps_eq_map (ht : Plain t) (hname : name ∈ fileNames t) :
    name.steps = name.written.map fun part => .into (String.ofList part) := by
  rw [Path.steps_eq]
  refine List.map_congr_left fun part hpart => ?_
  exact Path.stepOf_of_named ((ht name hname).2 part hpart).1 ((ht name hname).2 part hpart).2

/-- Where a plain name leads when there are no links in the output directory. -/
theorem place_of_resolve {tree : FileTree} {project : Project} {place : Place} (ht : Plain t)
    (hname : name ∈ fileNames t)
    (hlinks : ∀ here, tree.resolve (directory project) = .ok here → tree.LinkFree here)
    (hplace : tree.resolve ((directory project).join name) = .ok place) :
    ∃ here, tree.resolve (directory project) = .ok here ∧
      place = here ++ name.written.map String.ofList := by
  have hleads := leadsTo_of_resolve hplace (text_directory_ne_empty project)
  obtain ⟨here, hhere, -, hinside⟩ := hleads.2 (ht name hname).1
  refine ⟨here, hhere, ?_⟩
  -- Plain names only go down, so only a link in the directory could lead out of it.
  rw [steps_eq_map ht hname] at hinside
  rw [(hinside (hlinks here hhere) (descends_map_into ..)).1, after_map_into]

/-- Files with different plain names resolve to different places, if nothing below the output
directory is a link. Both names lead below the directory, and where they lead is written in the
parts. -/
theorem resolve_join_ne {tree : FileTree} {project : Project} (ht : Plain t) (hu : Plain u)
    (hfirst : first ∈ fileNames t) (hsecond : second ∈ fileNames u) (hne : first ≠ second)
    (hlinks : ∀ here, tree.resolve (directory project) = .ok here → tree.LinkFree here)
    {place : Place} (hplace : tree.resolve ((directory project).join first) = .ok place) :
    tree.resolve ((directory project).join second) ≠
      tree.resolve ((directory project).join first) := by
  intro hsame
  obtain ⟨here, hhere, hbehind⟩ := place_of_resolve ht hfirst hlinks hplace
  obtain ⟨here', hhere', hbehind'⟩ := place_of_resolve hu hsecond hlinks (hsame.trans hplace)
  cases hhere.symm.trans hhere'
  rw [hbehind] at hbehind'
  exact written_ne ht hu hfirst hsecond hne
    ((List.map_inj_right fun _ _ => String.ofList_inj.1).1 (List.append_cancel_left hbehind'))

end Plain

end Artifact

/-! ## Builds -/

open Artifact (fileNames pagePath subjectPath directory stem languageText Shifted Plain)

/-- Every file of a template is among those that its output writes. -/
theorem Output.exists_mem_files (root : Project) (output : Output) {name : Path}
    (h : name ∈ fileNames output.template) :
    ∃ content, ((directory root).join name, content) ∈ output.files root := by
  simp only [fileNames, List.mem_cons, List.not_mem_nil, or_false] at h
  rcases h with rfl | rfl
  · exact ⟨output.page, List.mem_cons_self⟩
  · exact ⟨output.subject, List.mem_cons_of_mem _ List.mem_cons_self⟩

/-- The files of an output are there if the templates that come later have other stems. -/
theorem Build.Written.keeps {root : Project} {tree final : FileTree} {outputs : List Output}
    (h : Build.Written root tree outputs final) {earlier later : List Output} {output : Output}
    (houtputs : outputs = earlier ++ output :: later) (hplain : Plain output.template)
    (hlater : ∀ other ∈ later, Plain other.template ∧
      stem output.template ≠ stem other.template)
    (hlinks : ∀ here, final.resolve (directory root) = .ok here → final.LinkFree here) :
    final.readText (pagePath root output.template) = .ok output.page ∧
      final.readText (subjectPath root output.template) = .ok output.subject := by
  -- Each of the two files is there in the end.
  have hresolves : ∀ name ∈ fileNames output.template, ∃ place,
      final.resolve ((directory root).join name) = .ok place := by
    intro name hname
    obtain ⟨content, hwrite⟩ := output.exists_mem_files root hname
    have hmem := List.mem_flatMap.2 ⟨output, (by simp [houtputs] : output ∈ outputs), hwrite⟩
    obtain ⟨place, hplace⟩ := FileTree.resolve_of_writeAll h.inOrder hmem
    exact ⟨place, hplace⟩
  -- No file of a later template is in its place.
  have hbehind : ∀ name ∈ fileNames output.template,
      ∀ write ∈ later.flatMap (Output.files root),
        final.resolve write.1 ≠ final.resolve ((directory root).join name) := by
    intro name hname write hwrite
    obtain ⟨_, htemplate, second, hsecond, hpath⟩ := Build.isOutputPath_of_mem_files
      (fun other hother => List.mem_map_of_mem (f := Output.template) hother) hwrite
    obtain ⟨other, hother, rfl⟩ := List.mem_map.1 htemplate
    obtain ⟨hplainOther, hstem⟩ := hlater other hother
    obtain ⟨place, hplace⟩ := hresolves name hname
    rw [hpath]
    exact Artifact.resolve_join_ne hplain hplainOther hname hsecond
      (Artifact.fileName_ne hstem hname hsecond) hlinks hplace
  have hpageName : (⟨stem output.template ++ ".html"⟩ : Path) ∈
      fileNames output.template := List.mem_cons_self
  have hsubjectName : (⟨stem output.template ++ ".subject.hbs"⟩ : Path) ∈
      fileNames output.template := List.mem_cons_of_mem _ List.mem_cons_self
  -- Behind a page there is also the subject of the same template.
  refine ⟨h.page houtputs ?_, h.subject houtputs (hbehind _ hsubjectName)⟩
  rw [List.forall_mem_cons]
  obtain ⟨place, hplace⟩ := hresolves _ hpageName
  exact ⟨Artifact.resolve_join_ne hplain hplain hpageName hsubjectName
    (Artifact.pageName_ne _ _) hlinks hplace, hbehind _ hpageName⟩

/-- A page and a subject never have one path, and without links they are never one file. Two pages
have one path if and only if the subjects have; unless only one of the names is absolute, that is if
the stems are the same. Then name and language are the same, no language counting as an empty one,
or the dot between them is another one. Plain templates with different stems have different paths,
and what was built of one is still there when the others have been built. -/
theorem artifacts_apart (project : LoadedProject) :
    let root := project.toProject
    (∀ t u : Template,
      (pagePath root t).parts ≠ (subjectPath root u).parts ∧
      (∀ tree : FileTree, tree.LinkFree [] → ∀ place,
        tree.resolve (pagePath root t) = .ok place →
          tree.resolve (subjectPath root u) ≠ .ok place) ∧
      (pagePath root t = pagePath root u ↔ subjectPath root t = subjectPath root u) ∧
      ((⟨t.name⟩ : Path).isAbsolute = (⟨u.name⟩ : Path).isAbsolute →
        (pagePath root t = pagePath root u ↔ stem t = stem u)) ∧
      (stem t = stem u ↔
        (t.name = u.name ∧ languageText t = languageText u) ∨ Shifted t u ∨ Shifted u t) ∧
      ('.' ∉ (languageText t).toList → '.' ∉ (languageText u).toList → stem t = stem u →
        t.name = u.name ∧ languageText t = languageText u) ∧
      ('/' ∉ (stem t).toList → Plain t) ∧
      (Plain t → Plain u → stem t ≠ stem u →
        (pagePath root t).parts ≠ (pagePath root u).parts ∧
          (subjectPath root t).parts ≠ (subjectPath root u).parts)) ∧
    ∀ compiler components tree final templates results,
      Build.buildAll project compiler components tree templates = (final, .ok results) →
      (∀ here, final.resolve (directory root) = .ok here → final.LinkFree here) →
      ∃ outputs : List Output, outputs.map Output.template = templates ∧
        Build.Progress project compiler components tree outputs final ∧
        ∀ earlier output later, outputs = earlier ++ output :: later → Plain output.template →
          (∀ other ∈ later, Plain other.template ∧ stem output.template ≠ stem other.template) →
          final.readText (pagePath root output.template) = .ok output.page ∧
            final.readText (subjectPath root output.template) = .ok output.subject := by
  intro root
  refine ⟨fun t u => ⟨Artifact.parts_pagePath_ne root t u,
    fun tree hlinks place => Artifact.resolve_pagePath_ne hlinks root t u, ?_, ?_,
    Artifact.stem_eq_iff, Artifact.eq_of_stem_eq, Artifact.plain_of_not_mem, ?_⟩, ?_⟩
  · rw [Artifact.pagePath_eq, Artifact.pagePath_eq, Artifact.subjectPath_eq,
      Artifact.subjectPath_eq, Artifact.path_eq_iff, Artifact.path_eq_iff]
  · intro hnames
    rw [Artifact.pagePath_eq, Artifact.pagePath_eq, Artifact.path_eq_iff,
      Artifact.base_eq_iff hnames]
  · intro ht hu hstem
    -- The four paths of the two templates are pairwise different.
    have hne : ∀ first ∈ fileNames t, ∀ second ∈ fileNames u,
        ((directory root).join first).parts ≠ ((directory root).join second).parts :=
      fun first hfirst second hsecond => Artifact.parts_join_ne root ht hu hfirst hsecond
        (Artifact.fileName_ne hstem hfirst hsecond)
    simp only [fileNames, List.forall_mem_cons] at hne
    exact ⟨hne.1.1, hne.2.1.2.1⟩
  · intro compiler components tree final templates results hbuild hlinks
    obtain ⟨outputs, htemplates, -, hprogress⟩ := Build.progress_of_buildAll hbuild
    exact ⟨outputs, htemplates, hprogress, fun earlier output later houtputs hplain hlater =>
      (Build.written_of_progress hprogress).keeps houtputs hplain hlater hlinks⟩

/-! ## Templates that share their files -/

/-- Files that are written are no links. -/
theorem FileTree.linkFree_of_growsTo {before after : FileTree} {base : Place}
    (h : before.GrowsTo after) (hfree : before.LinkFree base) : after.LinkFree base := by
  intro q hq target
  rcases h q with hsame | ⟨-, _, _, hfile⟩
  · rw [hsame]
    exact hfree q hq target
  · rw [hfile]
    nofun

def dotted : Template := ⟨"1", "a", "one", some "b.c", none, []⟩

/-- A template with another name and another language, and the same stem. -/
def redotted : Template := ⟨"2", "a.b", "two", some "c", none, []⟩

def dots : LoadedProject where
  mode := .prod
  root := ⟨"/p"⟩
  package := ⟨none, none, []⟩
  configFile := none
  components := []
  templates := [dotted, redotted]
  preprocessors := []
  postprocessors := []

/-- The files that the project with the two templates is loaded from. -/
def dotFiles : FileTree :=
  ((((((FileTree.empty.put ["p"] .directory).put ["p", "dist"] .directory).put
    ["p", "one"] (.file "A".toUTF8 false)).put
    ["p", "two"] (.file "B".toUTF8 false)).put
    ["p", "package.json"] (.file "\x7b\x7d".toUTF8 false)).put
    ["p", "templates.json"] (.file ("\x7b\"templates\":[" ++
      "\x7b\"id\":\"1\",\"name\":\"a\",\"template\":\"one\",\"language\":\"b.c\"\x7d," ++
      "\x7b\"id\":\"2\",\"name\":\"a.b\",\"template\":\"two\",\"language\":\"c\"\x7d" ++
      "]\x7d").toUTF8 false)).put
    ["p", "translations.json"]
      (.file ("\x7b\"b.c\":\x7b\"subject\":\"S\"\x7d," ++
        "\"c\":\x7b\"subject\":\"T\"\x7d\x7d").toUTF8 false)

/-- Two letters with dots in their names whose files are apart, and a build that writes both. -/
theorem artifacts_apart_dots :
    let apart : Template := ⟨"3", "a.b", "two", some "b.c", none, []⟩
    let page := pagePath dots.toProject
    Plain dotted ∧ Plain apart ∧ stem dotted ≠ stem apart ∧
      (page dotted).parts ≠ (page apart).parts ∧
      ∃ final results, Build.buildAll dots (fun document _ => .ok document) [] dotFiles
          [dotted, apart] = (final, .ok results) ∧
        final.LinkFree [] ∧ ∃ content, final.readText (page dotted) = .ok content := by
  intro apart page
  have hdotted : Plain dotted := Artifact.plain_of_not_mem (by decide)
  have hapart : Plain apart := Artifact.plain_of_not_mem (by decide)
  have hstem : stem dotted ≠ stem apart := by decide
  obtain ⟨final, results, hrun⟩ : ∃ final results, Build.buildAll dots
      (fun document _ => .ok document) [] dotFiles [dotted, apart] = (final, .ok results) := by
    have hsome : (Build.buildAll dots (fun document _ => .ok document) [] dotFiles
        [dotted, apart]).2.toOption.isSome = true := by decide +kernel
    cases hrun : Build.buildAll dots (fun document _ => .ok document) [] dotFiles
      [dotted, apart] with
    | mk final result =>
      rw [hrun] at hsome
      cases result with
      | ok results => exact ⟨final, results, rfl⟩
      | error halt => nomatch hsome
  have hfree : final.LinkFree [] := by
    have hstart : dotFiles.LinkFree [] := by
      refine FileTree.linkFree_put (FileTree.linkFree_put (FileTree.linkFree_put
        (FileTree.linkFree_put (FileTree.linkFree_put (FileTree.linkFree_put
          (FileTree.linkFree_put (FileTree.linkFree_empty []) ?_ ?_) ?_ ?_) ?_ ?_) ?_ ?_) ?_ ?_)
            ?_ ?_) ?_ ?_ <;> nofun
    obtain ⟨outputs, -, -, hprogress⟩ := Build.progress_of_buildAll hrun
    exact FileTree.linkFree_of_growsTo
      (FileTree.growsTo_of_writeAll (Build.writeAll_of_progress hprogress)) hstart
  obtain ⟨hpaths, hbuilds⟩ := artifacts_apart dots
  obtain ⟨-, -, -, -, -, -, -, hparts⟩ := hpaths dotted apart
  obtain ⟨outputs, htemplates, -, hfiles⟩ := hbuilds _ _ _ _ _ _ hrun fun _ _ q _ =>
    hfree q (Place.isWithin_iff.2 ⟨q, rfl⟩)
  obtain ⟨output, outputs, rfl, houtput, hrest⟩ := List.map_eq_cons_iff.1 htemplates
  obtain ⟨other, outputs, rfl, hother, hnone⟩ := List.map_eq_cons_iff.1 hrest
  obtain rfl := List.map_eq_nil_iff.1 hnone
  have hlater : ∀ last ∈ [other], Plain last.template ∧
      stem output.template ≠ stem last.template := by
    rw [List.forall_mem_singleton, houtput, hother]
    exact ⟨hapart, hstem⟩
  have hpage := (hfiles [] output [other] rfl (houtput ▸ hdotted) hlater).1
  rw [houtput] at hpage
  exact ⟨hdotted, hapart, hstem, (hparts hdotted hapart hstem).1, final, results, hrun, hfree, _,
    hpage⟩

/-- The project with two letters that share a stem can be loaded. -/
theorem load_dots : LoadedProject.load dotFiles .builtIn .prod ⟨"/p"⟩ = .ok dots := by
  have hsort : LoadedProject.sortTemplates [dotted, redotted] = [dotted, redotted] := by
    simp [LoadedProject.sortTemplates, List.mergeSort, LoadedProject.nameLe, dotted, redotted]
  have hroot : findRoot dotFiles ⟨"/p"⟩ = .ok ⟨"/p"⟩ := eq_ok_of_toOption (by decide +kernel)
  have hpackage : readWith dotFiles Package.parse (Path.join ⟨"/p"⟩ ⟨Package.fileName⟩) =
      .ok ⟨none, none, []⟩ := eq_ok_of_toOption (by decide +kernel)
  have hmanifest : LoadedProject.readManifest dotFiles
      (Path.join ⟨"/p"⟩ ⟨LoadedProject.manifestName⟩) = .ok ⟨[dotted, redotted], [], []⟩ :=
    eq_ok_of_toOption (by decide +kernel)
  have hconfigure : LoadedProject.configure dotFiles
      (LoadedProject.described .prod ⟨"/p"⟩ ⟨none, none, []⟩ ⟨[dotted, redotted], [], []⟩) =
        .ok dots.toProject := by
    rw [LoadedProject.described, hsort]
    exact eq_ok_of_toOption (by decide +kernel)
  exact LoadedProject.load_eq_ok hroot hpackage hmanifest rfl rfl hconfigure

/-- Two templates of a manifest have one page and one subject between them, those of the one that is
built last. The files of others are one only as they lie, over a step up or a link. -/
theorem load_dots_shares_files :
    LoadedProject.load dotFiles .builtIn .prod ⟨"/p"⟩ = .ok dots ∧
      (dotted.name, dotted.language) ≠ (redotted.name, redotted.language) ∧
      let run := build dotFiles dots fun document _ => .ok document
      let page := pagePath dots.toProject
      page dotted = page redotted ∧
        subjectPath dots.toProject dotted =
          subjectPath dots.toProject redotted ∧
        run.2 = .ok [
          ⟨"a", some "b.c", ⟨"/p/one"⟩, ⟨"/p/dist/a.b.c.html"⟩, ⟨"/p/dist/a.b.c.subject.hbs"⟩, 1⟩,
          ⟨"a.b", some "c", ⟨"/p/two"⟩, ⟨"/p/dist/a.b.c.html"⟩, ⟨"/p/dist/a.b.c.subject.hbs"⟩, 1⟩] ∧
        run.1.readText (page dotted) = .ok "B" ∧
        page { dotted with language := none } = page { dotted with language := some "" } ∧
        page { dotted with name := "/p/dist/a" } = page dotted ∧
        (page { dotted with name := "./a" }).parts = (page dotted).parts ∧
        run.1.resolve (page { dotted with name := "../dist/a" }) = run.1.resolve (page dotted) ∧
        (run.1.put ["p", "dist", "x.b.c.html"] (.link ⟨"a.b.c.html"⟩)).resolve
          (page { dotted with name := "x" }) = run.1.resolve (page dotted) := by
  refine ⟨load_dots, by decide, ?_⟩
  intro run page
  have hplace : run.1.resolve (page dotted) = .ok ["p", "dist", "a.b.c.html"] :=
    eq_ok_of_toOption (by decide +kernel)
  refine ⟨by decide +kernel, by decide +kernel, eq_ok_of_toOption (by decide +kernel),
    eq_ok_of_toOption (by decide +kernel), by decide +kernel, by decide +kernel, by decide +kernel,
    ?_, ?_⟩
  · rw [hplace]
    exact eq_ok_of_toOption (by decide +kernel)
  · rw [hplace]
    exact eq_ok_of_toOption (by decide +kernel)

end MailTemplates
