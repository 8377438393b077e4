import MailTemplates.Proofs.Build.Landing
import MailTemplates.Proofs.Project.Climbing
import MailTemplates.Proofs.Project.Searching
import MailTemplates.Proofs.Translation.Filling
/-!
# One table for the body and the subject

The body of a template and its subject are translated with the table of its language in the nearest
file of translations (`Nearest`) on the way up to the root (`Path.Climbs`), and files farther up are
not looked at. The two differ in what they make of a table that is not there: the body stays as it
is, if it asks for nothing, while there is no subject. What is wrong with the file is wrong for both
(`Settles`).

The search for the table is described first, without the search: which file is the nearest, and that
there is none. Then each of the cases of `Settles` is a way in which body and subject come about,
with conditions that no two cases share. So it is enough to show that each case gives what it says
(`Settles.eq`) and that there is always one (`exists_settles`); the converse, that nothing else
settles body and subject, follows from these two.

Main statement: `body_and_subject_share_table`.
-/

namespace MailTemplates.Translation

open FileTree (GainsDirectories)
open Placeholder (IsPlaceholder Dotted Reaches recognise recognises_placeholder)
open Text (Piece pieces)

/-!
## The nearest file

There is one candidate in each directory on the way up, so the nearest file is the first of these
that is there.
-/

section Nearest

variable {tree : FileTree} {project : Project} {template : Template} {file : Path}

/-- Whether a file is the first one with translations on the way up from the directory of a
template, whatever it says. It is nearest by its directory alone: a file that cannot be read, or has
no table for the language, still hides those farther up. -/
def Nearest (tree : FileTree) (project : Project) (template : Template) (file : Path) : Prop :=
  ∃ nearer directory farther,
    project.searchPath tree (project.directoryOf template) = nearer ++ directory :: farther ∧
    (∀ d ∈ nearer, tree.isFile (d.join ⟨fileName⟩) = false) ∧
    tree.isFile (directory.join ⟨fileName⟩) = true ∧ file = directory.join ⟨fileName⟩

/-- Whether there is no file with translations on the way up. -/
def Missing (tree : FileTree) (project : Project) (template : Template) : Prop :=
  ∀ d ∈ project.searchPath tree (project.directoryOf template),
    tree.isFile (d.join ⟨fileName⟩) = false

/-- What a file of translations holds for the languages, if it holds an object. -/
def languagesOf (content : String) : Except Json.Fault Members :=
  Json.readAll (Json.Cursor.plainObject Json.Cursor.depthLimit) content

theorem candidates_fileName (tree : FileTree) (project : Project) (directory : Path) :
    project.candidates tree [fileName] directory =
      (project.searchPath tree directory).map fun d => d.join ⟨fileName⟩ :=
  List.map_eq_flatMap.symm

/-- The nearest file is the first candidate that is there. -/
theorem nearest_iff :
    Nearest tree project template file ↔
      (project.candidates tree [fileName] (project.directoryOf template)).find? tree.isFile =
        some file := by
  rw [candidates_fileName]
  exact find?_map_eq_some_iff.symm

/-- It is missing if none of the candidates is. -/
theorem missing_iff :
    Missing tree project template ↔
      (project.candidates tree [fileName] (project.directoryOf template)).find? tree.isFile =
        none := by
  rw [candidates_fileName]
  exact find?_map_eq_none_iff.symm

/-- One of the two is the case. -/
theorem missing_or_nearest (tree : FileTree) (project : Project) (template : Template) :
    Missing tree project template ∨ ∃ file, Nearest tree project template file := by
  simp only [missing_iff, nearest_iff]
  cases (project.candidates tree [fileName] (project.directoryOf template)).find? tree.isFile with
  | none => exact .inl rfl
  | some file => exact .inr ⟨file, rfl⟩

/-- Without a file there is no table. -/
theorem tableFor_of_missing (h : Missing tree project template) :
    tableFor tree project template = .ok none := by
  unfold tableFor Project.readConfig
  rw [missing_iff.1 h]
  cases template.language <;> rfl

/-- With a nearest file the table comes from it alone. In front of the nearest file no candidate is
a file, so the search ends with it. -/
theorem tableFor_of_nearest {language : String} (hlanguage : template.language = some language)
    (h : Nearest tree project template file) :
    tableFor tree project template = (readWith tree languagesOf file).bind fun languages =>
      ((tableOf language file languages).map fun table => some (table, file)).mapError
        .translation := by
  have hfound : project.readConfig tree (Json.readAll (Json.Cursor.plainObject
      Json.Cursor.depthLimit)) [fileName] (project.directoryOf template) =
        (readWith tree languagesOf file).map fun languages => some ⟨languages, file⟩ := by
    unfold Project.readConfig
    rw [nearest_iff.1 h]
    rfl
  rw [tableFor, hlanguage]
  dsimp only
  rw [hfound]
  cases readWith tree languagesOf file with
  | error failure => rfl
  | ok languages =>
    dsimp only [Except.map, Except.bind]
    cases tableOf language file languages <;> rfl

/-- Whatever else is in the tree, the nearest file gives the same table as long as it says the same.
So changes to files farther up, and to files that are no candidates at all, show neither in the body
nor in the subject. -/
theorem tableFor_congr {changed : FileTree} (h : Nearest tree project template file)
    (hchanged : Nearest changed project template file)
    (hread : tree.readText file = changed.readText file) :
    tableFor tree project template = tableFor changed project template := by
  cases hlanguage : template.language with
  | none => rw [tableFor, tableFor, hlanguage]
  | some language =>
    rw [tableFor_of_nearest hlanguage h, tableFor_of_nearest hlanguage hchanged, readWith, readWith,
      hread]

end Nearest

/-!
## Texts without placeholders

Where there is no table for a language an empty one is taken. From this a body is filled exactly if
it asks for nothing.
-/

/-- Whether no placeholder stands anywhere in a text. Such a text has nothing to be filled in,
whatever the table. -/
def PlaceholderFree (cs : List Char) : Prop := ∀ m p, IsPlaceholder m p → ¬m <:+: cs

/-- Placeholders are only filled from what the table has. -/
theorem not_fills_nil {p : Placeholder} {text : List Char} : ¬Placeholder.Fills [] p text := by
  have hnone : ∀ {key : List Char} {parts : List (List Char)} {v : Json}, Dotted key parts →
      ¬Reaches (.object []) (parts.map String.ofList) v := by
    rintro key parts v ⟨hparts, -, -⟩ hreaches
    obtain ⟨part, parts, rfl⟩ := List.exists_cons_of_ne_nil hparts
    cases hreaches with
    | member hmember _ => nomatch hmember
  intro h
  cases h with
  | raw hkey hvalue _ => exact hnone hkey hvalue
  | escaped hkey hvalue _ => exact hnone hkey hvalue

/-- A text without placeholders is filled already. -/
theorem filled_of_plain {table : Members} {ps : List (Piece Placeholder)}
    (h : ∀ p ∈ ps, ∃ c, p = .plain c) : Filled table ps (ps.flatMap Piece.source) := by
  induction ps with
  | nil => exact .done
  | cons p ps ih =>
    rw [List.forall_mem_cons] at h
    obtain ⟨⟨c, rfl⟩, hrest⟩ := h
    exact .plain c (ih hrest)

/-- So interpolation leaves it, whatever the table. -/
theorem interpolate_of_placeholderFree {source : List Char} (h : PlaceholderFree source)
    (table : Members) : interpolate table source = .ok source := by
  rw [interpolate_eq_ok_iff]
  have hfilled : Filled table (pieces recognise source)
      ((pieces recognise source).flatMap Piece.source) :=
    filled_of_plain (recognises_placeholder.forall_not_infix_iff.1 h)
  rwa [Text.source_pieces] at hfilled

/-- Without translations, exactly the texts that ask for none are filled. A placeholder cannot be
filled from the empty table, so a text that is filled from it had none. -/
theorem exists_interpolate_nil_eq_ok_iff {source : List Char} :
    (∃ out, interpolate [] source = .ok out) ↔ PlaceholderFree source := by
  constructor
  · rw [exists_interpolate_eq_ok_iff, PlaceholderFree, recognises_placeholder.forall_not_infix_iff]
    rintro hfillable (c | ⟨m, p⟩) hp
    · exact ⟨c, rfl⟩
    · obtain ⟨text, hfills⟩ := hfillable m p hp
      exact absurd hfills not_fills_nil
  · intro h
    exact ⟨source, interpolate_of_placeholderFree h []⟩

/-!
## What is settled by the nearest file

The rules are those of the source text of a template and of its subject side by side, since both
depend on the same file and differ in what they do without a table.
-/

/-- Whether the nearest file of translations is read for a template of some language, and holds an
object with these members. -/
def Holds (tree : FileTree) (project : Project) (template : Template) (language : String)
    (file : Path) (languages : Members) : Prop :=
  template.language = some language ∧ Nearest tree project template file ∧
    ∃ content, tree.readText file = .ok content ∧ languagesOf content = .ok languages

/-- What filling a source from a table comes to. -/
inductive FillsBody (table : Members) (file : Path) (source : String) :
    Except Failure String → Prop where
  | filled {out : List Char} (h : interpolate table source.toList = .ok out) :
      FillsBody table file source (.ok (String.ofList out))
  | refused {problem : PlaceholderProblem} (h : interpolate table source.toList = .error problem) :
      FillsBody table file source (.error (.translation (.placeholderFrom problem file)))

/-- What taking the subject from a table comes to. -/
inductive TakesSubject (table : Members) (file : Path) (language : String) (template : Template) :
    Except Failure String → Prop where
  | taken {s : String} (h : table.get? "subject" = some (.string s)) (hs : s ≠ "") :
      TakesSubject table file language template (.ok s)
  | none (h : ∀ s, table.get? "subject" = some (.string s) → s = "") :
      TakesSubject table file language template
        (.error (.translation (.noSubject file language template.name)))

/-- What the body and the subject of a template come to. There is one rule for each point at which
the search for the table can end. The first two leave the body as it is and give no subject, the
next three are failures, and the last three have a table, of which two are empty. -/
inductive Settles (tree : FileTree) (project : Project) (template : Template) (source : String) :
    Except Failure String → Except Failure String → Prop where
  | noLanguage (h : template.language = none) :
      Settles tree project template source (.ok source)
        (.error (.translation (.noLanguage template.name)))
  | noFile {language : String} (hlanguage : template.language = some language)
      (hmissing : Missing tree project template) :
      Settles tree project template source (.ok source)
        (.error (.translation (.noFile fileName template.name)))
  | unreadable {language : String} {file : Path} {problem : FileProblem}
      (hlanguage : template.language = some language)
      (hnearest : Nearest tree project template file)
      (hproblem : tree.readText file = .error problem) :
      Settles tree project template source (.error (.io problem)) (.error (.io problem))
  | noObject {language content : String} {file : Path} {fault : Json.Fault}
      (hlanguage : template.language = some language)
      (hnearest : Nearest tree project template file) (hcontent : tree.readText file = .ok content)
      (hfault : languagesOf content = .error fault) :
      Settles tree project template source (.error (.config (.unreadable file fault)))
        (.error (.config (.unreadable file fault)))
  | noTable {language : String} {file : Path} {languages : Members} {value : Json}
      (hholds : Holds tree project template language file languages)
      (hvalue : languages.get? language = some value) (hobject : ∀ table, value ≠ .object table) :
      Settles tree project template source (.error (.translation (.notObject language file)))
        (.error (.translation (.notObject language file)))
  | lacking {language : String} {file : Path} {languages : Members}
      (hholds : Holds tree project template language file languages)
      (hlacking : languages.get? language = .none) (hfree : PlaceholderFree source.toList) :
      Settles tree project template source (.ok source)
        (.error (.translation (.noSubject file language template.name)))
  | lackingAsked {language : String} {file : Path} {languages : Members}
      {problem : PlaceholderProblem} (hholds : Holds tree project template language file languages)
      (hlacking : languages.get? language = .none) (hasked : ¬PlaceholderFree source.toList)
      (hproblem : interpolate [] source.toList = .error problem) :
      Settles tree project template source
        (.error (.translation (.placeholderFrom problem file)))
        (.error (.translation (.noSubject file language template.name)))
  | table {language : String} {file : Path} {languages table : Members}
      {body subject : Except Failure String}
      (hholds : Holds tree project template language file languages)
      (htable : languages.get? language = some (.object table))
      (hbody : FillsBody table file source body)
      (hsubject : TakesSubject table file language template subject) :
      Settles tree project template source body subject

section Settles

variable {tree : FileTree} {project : Project} {template : Template} {language source : String}
  {file : Path} {languages table : Members} {body text : Except Failure String}

/-- The table of a language is looked up in the file that was read. -/
theorem Holds.tableFor_eq (h : Holds tree project template language file languages) :
    tableFor tree project template =
      ((tableOf language file languages).map fun table => some (table, file)).mapError
        .translation := by
  obtain ⟨hlanguage, hnearest, content, hcontent, hlanguages⟩ := h
  have hread : readWith tree languagesOf file = .ok languages := by
    rw [readWith, hcontent]
    dsimp only
    rw [hlanguages]
  rw [tableFor_of_nearest hlanguage hnearest, hread]
  rfl

/-- It is the object under the language. -/
theorem Holds.tableFor_of_object (h : Holds tree project template language file languages)
    (htable : languages.get? language = some (.object table)) :
    tableFor tree project template = .ok (some (table, file)) := by
  rw [h.tableFor_eq, tableOf, htable]
  rfl

/-- Where the language is missing the table is there, but empty. -/
theorem Holds.tableFor_of_none (h : Holds tree project template language file languages)
    (hlacking : languages.get? language = none) :
    tableFor tree project template = .ok (some ([], file)) := by
  rw [h.tableFor_eq, tableOf, hlacking]
  rfl

/-- A table that cannot be had is missing for the body and for the subject. -/
theorem of_tableFor_eq_error {failure : Failure} (hlanguage : template.language = some language)
    (h : tableFor tree project template = .error failure) (source : String) :
    translate tree project template source = .error failure ∧
      subject tree project template = .error failure := by
  rw [translate, subject, hlanguage, h]
  exact ⟨rfl, rfl⟩

/-- If the file cannot be read, body and subject fail alike. -/
theorem of_readWith_eq_error {failure : Failure} (hlanguage : template.language = some language)
    (hnearest : Nearest tree project template file)
    (h : readWith tree languagesOf file = .error failure) (source : String) :
    translate tree project template source = .error failure ∧
      subject tree project template = .error failure := by
  refine of_tableFor_eq_error hlanguage ?_ source
  rw [tableFor_of_nearest hlanguage hnearest, h]
  rfl

/-- With a table the body is filled from it. -/
theorem translate_eq_iff (h : tableFor tree project template = .ok (some (table, file))) :
    translate tree project template source = body ↔ FillsBody table file source body := by
  rw [translate, h]
  dsimp only
  constructor
  · rintro rfl
    cases hfill : interpolate table source.toList with
    | ok out => exact .filled hfill
    | error problem => exact .refused hfill
  · intro hfills
    cases hfills with
    | filled hfill => rw [hfill]
    | refused hfill => rw [hfill]

/-- And so the subject is taken from it, or from the template. An empty entry counts as none. -/
theorem subject_eq_iff (hlanguage : template.language = some language)
    (h : tableFor tree project template = .ok (some (table, file))) :
    subject tree project template = text ↔ TakesSubject table file language template text := by
  rw [subject, hlanguage]
  dsimp only
  rw [h]
  dsimp only
  constructor
  · rintro rfl
    split
    · next s hs =>
      split
      · next hempty =>
        refine .none fun t ht => ?_
        cases hs.symm.trans ht
        simpa using hempty
      · next hempty => exact .taken hs (by simpa using hempty)
    · next hother => exact .none fun s hs => absurd hs (hother s)
  · intro htakes
    cases htakes with
    | taken hs hne =>
      rw [hs]
      exact if_neg (by simpa using hne)
    | none hnone =>
      split
      · next s hs => rw [if_pos (by simpa using hnone s hs)]
      · rfl

/-- What settles body and subject is what both are. Each rule is checked against the code by itself.
-/
theorem Settles.eq (h : Settles tree project template source body text) :
    translate tree project template source = body ∧ subject tree project template = text := by
  cases h with
  | noLanguage h =>
    have htable : tableFor tree project template = .ok none := by rw [tableFor, h]
    refine ⟨translate_of_no_table htable source, ?_⟩
    rw [subject, h]
  | noFile hlanguage hmissing =>
    have htable := tableFor_of_missing hmissing
    refine ⟨translate_of_no_table htable source, ?_⟩
    rw [subject, hlanguage]
    dsimp only
    rw [htable]
  | unreadable hlanguage hnearest hproblem =>
    exact of_readWith_eq_error hlanguage hnearest (by rw [readWith, hproblem]) source
  | noObject hlanguage hnearest hcontent hfault =>
    refine of_readWith_eq_error hlanguage hnearest ?_ source
    rw [readWith, hcontent]
    dsimp only
    rw [hfault]
  | @noTable language file languages value hholds hvalue hobject =>
    have htable : tableOf language file languages = .error (.notObject language file) := by
      rw [tableOf, hvalue]
      cases value with
      | object table => exact absurd rfl (hobject table)
      | _ => rfl
    refine of_tableFor_eq_error hholds.1 ?_ source
    rw [hholds.tableFor_eq, htable]
    rfl
  | lacking hholds hlacking hfree =>
    have htable := hholds.tableFor_of_none hlacking
    refine ⟨?_, (subject_eq_iff hholds.1 htable).2 (.none nofun)⟩
    have hfills := (translate_eq_iff htable).2
      (.filled (interpolate_of_placeholderFree hfree []))
    rwa [String.ofList_toList] at hfills
  | lackingAsked hholds hlacking _ hproblem =>
    have htable := hholds.tableFor_of_none hlacking
    exact ⟨(translate_eq_iff htable).2 (.refused hproblem),
      (subject_eq_iff hholds.1 htable).2 (.none nofun)⟩
  | table hholds hobject hbody hsubject =>
    have htable := hholds.tableFor_of_object hobject
    exact ⟨(translate_eq_iff htable).2 hbody, (subject_eq_iff hholds.1 htable).2 hsubject⟩

/-- There is no other case. -/
theorem exists_settles (tree : FileTree) (project : Project) (template : Template)
    (source : String) : ∃ body text, Settles tree project template source body text := by
  -- The cases are split in the order in which the code looks at them, and each that ends the search
  -- is a rule.
  cases hlanguage : template.language with
  | none => exact ⟨_, _, .noLanguage hlanguage⟩
  | some language =>
  obtain hmissing | ⟨file, hnearest⟩ := missing_or_nearest tree project template
  · exact ⟨_, _, .noFile hlanguage hmissing⟩
  cases hcontent : tree.readText file with
  | error problem => exact ⟨_, _, .unreadable hlanguage hnearest hcontent⟩
  | ok content =>
  cases hlanguages : languagesOf content with
  | error fault => exact ⟨_, _, .noObject hlanguage hnearest hcontent hlanguages⟩
  | ok languages =>
  have hholds : Holds tree project template language file languages :=
    ⟨hlanguage, hnearest, content, hcontent, hlanguages⟩
  cases hvalue : languages.get? language with
  | none =>
    by_cases hfree : PlaceholderFree source.toList
    · exact ⟨_, _, .lacking hholds hvalue hfree⟩
    · cases hfill : interpolate [] source.toList with
      | ok out => exact absurd (exists_interpolate_nil_eq_ok_iff.1 ⟨out, hfill⟩) hfree
      | error problem => exact ⟨_, _, .lackingAsked hholds hvalue hfree hfill⟩
  | some value =>
    by_cases hobject : ∃ table, value = .object table
    · obtain ⟨table, rfl⟩ := hobject
      have htable := hholds.tableFor_of_object hvalue
      exact ⟨_, _, .table hholds hvalue ((translate_eq_iff htable).1 rfl)
        ((subject_eq_iff hlanguage htable).1 rfl)⟩
    · rw [not_exists] at hobject
      exact ⟨_, _, .noTable hholds hvalue hobject⟩

/-- And nothing else settles them. -/
theorem settles_iff : Settles tree project template source body text ↔
    translate tree project template source = body ∧ subject tree project template = text := by
  constructor
  · exact Settles.eq
  · rintro ⟨rfl, rfl⟩
    obtain ⟨_, _, hsettles⟩ := exists_settles tree project template source
    obtain ⟨rfl, rfl⟩ := hsettles.eq
    exact hsettles

end Settles

/-- The body and the subject of a template are what its language and the nearest file of
translations make of them, in each of the cases of `Settles`: the nearest on the way from the
directory of the template up to and including the root of the project. They stay the same whatever
else changes in the tree, as long as that file stays the nearest and says the same. Of the texts
that a build writes only the pages may be empty. -/
theorem body_and_subject_share_table (tree : FileTree) (project : Project) (template : Template) :
    (∃ start,
      (tree.canonical (project.directoryOf template) = .ok start ∨
        (∃ problem, tree.canonical (project.directoryOf template) = .error problem) ∧
          start = project.directoryOf template) ∧
      project.root.Climbs start (project.searchPath tree (project.directoryOf template))) ∧
      (∀ source body text, Settles tree project template source body text ↔
        stage.run tree project template source = uncrashed body ∧
        subject tree project template = text) ∧
      (∀ changed file, Nearest tree project template file → Nearest changed project template file →
        tree.readText file = changed.readText file →
          subject tree project template = subject changed project template ∧
          ∀ source, stage.run tree project template source =
            stage.run changed project template source) ∧
      (∀ (loaded : LoadedProject) (compiler : Compiler), ∃ made writes,
        GainsDirectories (Artifact.directory loaded.toProject) tree made ∧
        made.writeAll writes = .ok (build tree loaded compiler).1 ∧
        ∀ write ∈ writes, ∃ written ∈ loaded.templates,
          write.1 = Artifact.pagePath loaded.toProject written ∨
            write.1 = Artifact.subjectPath loaded.toProject written ∧ write.2 ≠ "") := by
  refine ⟨project.climbs_searchPath tree _, fun source body text => ?_,
    fun changed file hnearest hchanged hread => ?_, fun loaded compiler => ?_⟩
  · rw [settles_iff, ← uncrashed_inj]
    rfl
  · have htable := tableFor_congr hnearest hchanged hread
    refine ⟨by rw [subject, subject, htable], fun source => ?_⟩
    show uncrashed (translate tree project template source) =
      uncrashed (translate changed project template source)
    rw [translate, translate, htable]
  · obtain ⟨made, writes, hgains, hwrites, houtputs⟩ := outputs_of_build tree loaded compiler
    refine ⟨made, writes, hgains, hwrites, fun write hwrite => ?_⟩
    obtain ⟨written, hwritten, hpage | ⟨hpath, before, hsubject⟩⟩ := houtputs write hwrite
    · exact ⟨written, hwritten, .inl hpage⟩
    · refine ⟨written, hwritten, .inr ⟨hpath, ?_⟩⟩
      simpa using subject_ne_empty hsubject

end MailTemplates.Translation
