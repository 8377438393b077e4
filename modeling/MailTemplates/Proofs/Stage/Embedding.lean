import MailTemplates.Proofs.FileTree.Moving
import MailTemplates.Proofs.Project.Searching
import MailTemplates.Proofs.Stage.Including
/-!
# Building a document and including it

A document may be built as the source of a template, and it may be included in another one. In both
cases its directives are replaced, but they are read from two directories: the source of a template
stands in the directory that its path leads to without the last name, an included file in the
directory where the file itself lies. If every directive of the document names the same file from
both then the two texts are the same (`Inlined.eq_of_sameTargets`), whatever is on the way there,
since what files say does not depend on how they are reached.

The two directories are the same if the last name of the path is not a link
(`liesInDirectory_of_not_link`), whatever links are in front of it. If it is a link into another
directory, a directive may name one file from there and another one from here
(`including_linked_differs`).

Main statement: `including_matches_building`.
-/

namespace MailTemplates

namespace Include

open Text (Piece Cut pieces)

variable {tree : FileTree} {project : Project}

/-- Whether every directive of a text that names a file from each of two directories names the same
file from both. -/
def SameTargets (tree : FileTree) (first second : Path) (cs : List Char) : Prop :=
  ∀ m written, .token m written ∈ pieces directive cs → ∀ file other,
    tree.canonical (first.join ⟨String.ofList written⟩) = .ok file →
      tree.canonical (second.join ⟨String.ofList written⟩) = .ok other → file = other

/-- Whether the source of a template lies in the directory that its path leads to without its last
name. -/
def LiesInDirectory (tree : FileTree) (project : Project) (template : Template) : Prop :=
  ∃ here name, tree.resolve (project.directoryOf template) = .ok here ∧
    tree.resolve (project.sourceOf template) = .ok (here ++ [name])

/-- A document becomes the same from two directories if its directives name the same files. -/
theorem Inlined.eq_of_sameTargets {first second : Path} {ps : List (Piece (List Char))}
    {out other : List Char}
    (hsame : ∀ m written, .token m written ∈ ps → ∀ file other,
      tree.canonical (first.join ⟨String.ofList written⟩) = .ok file →
        tree.canonical (second.join ⟨String.ofList written⟩) = .ok other → file = other)
    (h : Inlined tree first ps out) (hother : Inlined tree second ps other) : out = other := by
  induction h generalizing other with
  | done =>
    cases hother
    rfl
  | plain c _ ih =>
    cases hother with
    | plain _ hrest =>
      rw [ih (fun m written hmem => hsame m written (List.mem_cons_of_mem _ hmem)) hrest]
  | included htarget hread hparent hcut htext _ _ ih =>
    cases hother with
    | included htarget' hread' hparent' hcut' htext' hrest =>
      -- Below this file both go on from its own directory.
      obtain rfl := hsame _ _ List.mem_cons_self _ _ htarget htarget'
      cases hread.symm.trans hread'
      cases hparent.symm.trans hparent'
      rw [recognises_directive.cut_iff] at hcut hcut'
      obtain rfl := hcut.symm.trans hcut'
      rw [htext.unique htext',
        ih (fun m written hmem => hsame m written (List.mem_cons_of_mem _ hmem)) hrest]

/-- If the last name of the path to a source is not a link, the source lies in the directory in
front of it. -/
theorem liesInDirectory_of_not_link {template : Template} {content : String} {here : Place}
    {name : List Char} (hcontent : tree.readText (project.sourceOf template) = .ok content)
    (hhere : tree.resolve (project.directoryOf template) = .ok here)
    (hname : (project.sourceOf template).fileName = some name)
    (hlink : ∀ target, tree.node? (here ++ [String.ofList name]) ≠ some (.link target)) :
    LiesInDirectory tree project template := by
  refine ⟨here, String.ofList name, hhere, ?_⟩
  obtain ⟨within, hparent⟩ := exists_parent_of_readText hcontent
  obtain ⟨place, -, hplace, -⟩ := FileTree.exists_bytes_of_readText hcontent
  have hwithin : project.directoryOf template = within := by
    rw [Project.directoryOf, hparent]
    rfl
  rw [hwithin] at hhere
  obtain ⟨last, hparts⟩ := Path.parts_of_parent hparent
  obtain ⟨left, hfollow⟩ := FileTree.follow_behind hhere hplace hparts
  have hlast : last = name ∧ last ≠ ['.', '.'] := by
    unfold Path.fileName at hname
    rw [hparts, List.getLast?_concat] at hname
    dsimp only at hname
    split at hname
    · nomatch hname
    · next hup =>
      cases hname
      exact ⟨rfl, by simpa using hup⟩
  obtain ⟨rfl, hup⟩ := hlast
  have hidle : Path.idle last = false := by
    have hmem : last ∈ (project.sourceOf template).parts := by
      rw [hparts]
      exact List.mem_append_right _ List.mem_cons_self
    simpa using (List.mem_filter.1 hmem).2
  rw [List.map_singleton, Path.stepOf_of_named hidle hup] at hfollow
  rcases FileTree.eq_after_of_follow hfollow with rfl | ⟨front, met, rest, target, hsteps, hmet⟩
  · exact hplace
  · -- There is no other step at which a link could be met.
    rcases front with _ | ⟨step, front⟩
    · cases hsteps
      exact absurd hmet (hlink target)
    · simp at hsteps

/-- A source that lies in its directory names the same files from both. -/
theorem sameTargets_of_liesInDirectory {template : Template} {file within : Path}
    (hfile : tree.canonical (project.sourceOf template) = .ok file)
    (hparent : file.parent = some within) (h : LiesInDirectory tree project template)
    (cs : List Char) : SameTargets tree (project.directoryOf template) within cs := by
  obtain ⟨here, name, hhere, hsource⟩ := h
  obtain ⟨place, hplace, rfl⟩ := map_eq_ok_iff.1 hfile
  cases hplace.symm.trans hsource
  rw [Path.parent_path_concat (FileTree.proper_of_resolve hplace)] at hparent
  cases hparent
  intro m written _ file other
  refine FileTree.canonical_join_unique hhere (fun p hp => FileTree.eq_of_resolve_path hhere hp) ?_
  intro hempty
  have habsolute := Path.isAbsolute_path here
  rw [Path.isAbsolute, hempty] at habsolute
  exact absurd habsolute (by decide)

/-- A document that is just a directive which names the source of a template becomes the text of
that source, expanded from the directory where it lies. -/
theorem inlined_of_run_directive {template : Template} {m written : List Char} {file within : Path}
    {content out : String} (hdirective : IsDirective m written)
    (htarget : tree.canonical ((project.directoryOf template).join ⟨String.ofList written⟩) =
      .ok file)
    (hread : ∀ other, tree.readText file = .ok other → other = content)
    (hparent : file.parent = some within)
    (h : stage.run tree project template (String.ofList m) = .ok out) :
    Inlined tree within (pieces directive content.toList) out.toList := by
  have hinlined := inlined_of_expand (run_stage_eq_ok_iff.1 h)
  rw [String.toList_ofList, pieces_of_isDirective hdirective] at hinlined
  generalize out.toList = text at hinlined ⊢
  cases hinlined with
  | included htarget' hread' hparent' hcut htext hrest =>
    cases htarget.symm.trans htarget'
    obtain rfl := hread _ hread'
    cases hparent.symm.trans hparent'
    rw [recognises_directive.cut_iff] at hcut
    cases hrest
    rwa [List.append_nil, hcut]

/-- A document that just includes the source of another template becomes what that source becomes,
if every directive in there names the same file from the directory that the path of the source
leads to without its last name as from the directory where the source lies. These are the same if
the last name is not a link. -/
theorem including_matches_building (tree : FileTree) (project : Project) {first second : Template}
    {m written : List Char} {content out other : String} (hdirective : IsDirective m written)
    (hnames : tree.canonical ((project.directoryOf first).join ⟨String.ofList written⟩) =
      tree.canonical (project.sourceOf second))
    (hcontent : tree.readText (project.sourceOf second) = .ok content)
    (hfirst : stage.run tree project first (String.ofList m) = .ok out)
    (hsecond : stage.run tree project second content = .ok other) :
    ∃ file within, tree.canonical (project.sourceOf second) = .ok file ∧
      file.parent = some within ∧
      (SameTargets tree (project.directoryOf second) within content.toList → out = other) ∧
      (LiesInDirectory tree project second →
        SameTargets tree (project.directoryOf second) within content.toList) ∧
      ∀ here name, tree.resolve (project.directoryOf second) = .ok here →
        (project.sourceOf second).fileName = some name →
        (∀ target, tree.node? (here ++ [String.ofList name]) ≠ some (.link target)) →
          LiesInDirectory tree project second := by
  obtain ⟨place, bytes, hplace, ⟨executable, hnode⟩, -⟩ :=
    FileTree.exists_bytes_of_readText hcontent
  have hfile : tree.canonical (project.sourceOf second) = .ok place.path :=
    map_eq_ok_iff.2 ⟨place, hplace, rfl⟩
  -- The root is a directory, so the place of a file has a place above it.
  obtain ⟨above, name, rfl⟩ : ∃ above name, place = above ++ [name] := by
    rcases List.eq_nil_or_concat place with rfl | ⟨above, name, rfl⟩
    · nomatch hnode
    · exact ⟨above, name, List.concat_eq_append⟩
  have hparent := Path.parent_path_concat (FileTree.proper_of_resolve hplace)
  refine ⟨_, _, hfile, hparent, fun hsame => ?_,
    fun hlies => sameTargets_of_liesInDirectory hfile hparent hlies _,
    fun here name hhere hname hlink => liesInDirectory_of_not_link hcontent hhere hname hlink⟩
  -- Both texts are inlinings of one source, read from directories with the same targets.
  have hincluded := inlined_of_run_directive hdirective (hnames.trans hfile)
    (fun _ hread => FileTree.readText_canonical hfile hcontent hread) hparent hfirst
  have hbuilt := inlined_of_expand (run_stage_eq_ok_iff.1 hsecond)
  exact String.toList_inj.1 (hbuilt.eq_of_sameTargets hsame hincluded).symm

/-- A letter that includes a page, the directory of which is reached by a link. -/
def cover : Template := ⟨"c", "cover", "cover", none, none, []⟩

def page : Template := ⟨"p", "page", "link/page", none, none, []⟩

def sharedPages : FileTree := ⟨[
  (["p"], .directory),
  (["p", "link"], .link ⟨"/shared/mails"⟩),
  (["p", "part"], .file "here".toUTF8 false),
  (["shared"], .directory),
  (["shared", "part"], .file "there".toUTF8 false),
  (["shared", "mails"], .directory),
  (["shared", "mails", "page"], .file "<mj-include path=\"../part\"/>".toUTF8 false)]⟩

/-- A page that is included through a link to its directory: it lies there, so including it gives
what building it gives. -/
theorem including_matches_building_page :
    let directive := "<mj-include path=\"link/page\"/>"
    let content := "<mj-include path=\"../part\"/>"
    IsDirective directive.toList "link/page".toList ∧
      sharedPages.canonical ((Project.mails.directoryOf cover).join ⟨"link/page"⟩) =
        sharedPages.canonical (Project.mails.sourceOf page) ∧
      sharedPages.readText (Project.mails.sourceOf page) = .ok content ∧
      stage.run sharedPages Project.mails cover directive = .ok "there" ∧
      stage.run sharedPages Project.mails page content = .ok "there" ∧
      LiesInDirectory sharedPages Project.mails page ∧
      ∃ file within, sharedPages.canonical (Project.mails.sourceOf page) = .ok file ∧
        file.parent = some within ∧
        SameTargets sharedPages (Project.mails.directoryOf page) within content.toList := by
  intro directive content
  have hdirective : IsDirective directive.toList "link/page".toList :=
    isDirective_of_eq (by decide) (by decide)
  have hnames : sharedPages.canonical ((Project.mails.directoryOf cover).join ⟨"link/page"⟩) =
      sharedPages.canonical (Project.mails.sourceOf page) := rfl
  have hcontent : sharedPages.readText (Project.mails.sourceOf page) = .ok content :=
    eq_ok_of_toOption (by decide +kernel)
  have hcover : stage.run sharedPages Project.mails cover directive = .ok "there" :=
    eq_ok_of_toOption (by decide +kernel)
  have hpage : stage.run sharedPages Project.mails page content = .ok "there" :=
    eq_ok_of_toOption (by decide +kernel)
  have hhere : sharedPages.resolve (Project.mails.directoryOf page) = .ok ["shared", "mails"] :=
    eq_ok_of_toOption (by decide +kernel)
  obtain ⟨file, within, hfile, hparent, -, hsame, hlies⟩ := including_matches_building sharedPages
    Project.mails hdirective (by rw [String.ofList_toList]; exact hnames) hcontent
    (by rw [String.ofList_toList]; exact hcover) hpage
  have hname : (Project.mails.sourceOf page).fileName = some "page".toList := by decide +kernel
  have hnode : sharedPages.node? (["shared", "mails"] ++ ["page"]) =
      some (.file content.toUTF8 false) := by decide +kernel
  have hplain : LiesInDirectory sharedPages Project.mails page := by
    refine hlies _ _ hhere hname fun target hlink => ?_
    rw [String.ofList_toList, hnode] at hlink
    nomatch hlink
  exact ⟨hdirective, hnames, hcontent, hcover, hpage, hplain, file, within, hfile, hparent,
    hsame hplain⟩

/-! ## Sources that are links -/

/-- A page the source of which is a link into another directory. -/
def linked : Template := ⟨"l", "linked", "page", none, none, []⟩

def linkedPages : FileTree := ⟨[
  (["p"], .directory),
  (["p", "page"], .link ⟨"sub/page"⟩),
  (["p", "part"], .file "here".toUTF8 false),
  (["p", "sub"], .directory),
  (["p", "sub", "part"], .file "there".toUTF8 false),
  (["p", "sub", "page"], .file "<mj-include path=\"part\"/>".toUTF8 false)]⟩

/-- A directive in a document names the file next to the link if the document is built, and the file
next to the document itself if it is included by the very same path. -/
theorem including_linked_differs :
    (Project.mails.directoryOf cover).join ⟨"page"⟩ = Project.mails.sourceOf linked ∧
      IsDirective "<mj-include path=\"page\"/>".toList "page".toList ∧
      linkedPages.readText (Project.mails.sourceOf linked) =
        .ok "<mj-include path=\"part\"/>" ∧
      stage.run linkedPages Project.mails cover "<mj-include path=\"page\"/>" = .ok "there" ∧
      stage.run linkedPages Project.mails linked "<mj-include path=\"part\"/>" = .ok "here" := by
  refine ⟨by decide +kernel, isDirective_of_eq (by decide) (by decide), ?_, ?_, ?_⟩
  · exact eq_ok_of_toOption (by decide +kernel)
  · exact eq_ok_of_toOption (by decide +kernel)
  · exact eq_ok_of_toOption (by decide +kernel)

end Include

end MailTemplates
