import MailTemplates.Proofs.FileTree.Opening
import MailTemplates.Proofs.Stage.Refusing
/-!
# What a failure tells about the file

A directive that is not replaced is told by its path, as it is written or as it leads to a file
(`Include.Refusal.told_or_unreadable`), with one exception: the file is there, but cannot be read as
text. A configuration that does not parse is told by its path, with the same exception: its bytes
are no text. In both cases the failure is that of the operating system alone, and names nothing.

That a message has a text in it is followed from the inside to the outside: the wording of each kind
of failure has the paths that it was made from (`mentions_inclusion`, `mentions_config`), and
putting a failure under the name of a stage adds to the message and takes nothing away.

For the directives the order of the reasons is used: a directive at which nothing was wrong before
its file was opened is there, so if it is refused for that, the cause is one of reading
(`refusal_io_iff`).

Main statement: `failures_blame_file`.
-/

namespace MailTemplates

/-- Whether the message of a failure has a text in it. -/
def Failure.Mentions (failure : Failure) (text : String) : Prop :=
  text.toList <:+: failure.message.toList

namespace Failure

/-- A failed inclusion mentions what its message does. -/
theorem mentions_inclusion {problem : IncludeProblem} {text : String}
    (h : text.toList <:+: problem.message.toList) : (inclusion problem).Mentions text := by
  have hmessage : (inclusion problem).message = "Include error: " ++ problem.message ++ "." := rfl
  unfold Mentions
  rw [hmessage, String.toList_append, String.toList_append]
  exact h.trans (List.infix_append _ _ _)

/-- So does a failed configuration. -/
theorem mentions_config {problem : ConfigProblem} {text : String}
    (h : text.toList <:+: problem.message.toList) : (config problem).Mentions text := by
  have hmessage : (config problem).message =
      "Configuration error: " ++ problem.message ++ "." := rfl
  unfold Mentions
  rw [hmessage, String.toList_append, String.toList_append]
  exact h.trans (List.infix_append _ _ _)

/-- A path that leads nowhere is told with the directory from which it was read. -/
theorem mentions_written (written : String) (directory : Path) (problem : FileProblem) :
    (inclusion (.unresolvable written directory problem)).Mentions written ∧
      (inclusion (.unresolvable written directory problem)).Mentions directory.text := by
  have hmessage : (IncludeProblem.unresolvable written directory problem).message =
      "cannot resolve '" ++ written ++ "' from '" ++ directory.text ++ "': " ++ problem.message :=
    rfl
  constructor
  · apply mentions_inclusion
    rw [hmessage]
    simp only [String.toList_append, List.append_assoc]
    exact List.infix_append' _ _ _
  · apply mentions_inclusion
    rw [hmessage, String.toList_append, String.toList_append, String.toList_append,
      List.append_assoc]
    exact List.infix_append _ _ _

/-- A cycle ends with the file that is included again. -/
theorem mentions_again (chain : List Path) (again : Path) :
    (inclusion (.cycle chain again)).Mentions again.text := by
  have hmessage : (IncludeProblem.cycle chain again).message =
      "include cycle: " ++ " -> ".intercalate ((chain ++ [again]).map Path.text) := rfl
  have hlast : again.text.toList <:+
      " -> ".toList.intercalate ((chain ++ [again]).map fun file => file.text.toList) := by
    rw [List.map_append, List.map_singleton]
    by_cases hchain : chain.map (fun file => file.text.toList) = []
    · rw [hchain, List.nil_append, List.intercalate_singleton]
    · rw [Text.intercalate_append hchain (List.cons_ne_nil _ _), List.intercalate_singleton]
      exact List.suffix_append _ _
  apply mentions_inclusion
  rw [hmessage, String.toList_append, String.toList_intercalate, List.map_map]
  exact (hlast.trans (List.suffix_append _ _)).isInfix

/-- An inclusion that is too deep names its target. -/
theorem mentions_target (limit : Nat) (target : Path) :
    (inclusion (.tooDeep limit target)).Mentions target.text := by
  have hmessage : (IncludeProblem.tooDeep limit target).message =
      "includes nested deeper than " ++ toString limit ++ " levels at '" ++ target.text ++ "'" :=
    rfl
  apply mentions_inclusion
  rw [hmessage, String.toList_append, String.toList_append]
  exact List.infix_append _ _ _

/-- A file that cannot be parsed is named. -/
theorem mentions_file (file : Path) (fault : Json.Fault) :
    (config (.unreadable file fault)).Mentions file.text := by
  have hmessage : (ConfigProblem.unreadable file fault).message =
      "could not parse '" ++ file.text ++ "': " ++ fault.message := rfl
  apply mentions_config
  rw [hmessage]
  simp only [String.toList_append, List.append_assoc]
  exact List.infix_append' _ _ _

end Failure

/-!
## Including

The four reasons why a directive is refused differ in what they tell. Three name a path, the fourth
does not.
-/

namespace Include

open Text (pieces)

/-- Whether a failure tells the directive that it comes from: by the path that is written there and
the directory, or by the path of the file to which these lead. -/
def Told (tree : FileTree) (last : Path) (written : List Char) (failure : Failure) : Prop :=
  (∃ reason, failure = .inclusion reason) ∧
    ((failure.Mentions (String.ofList written) ∧ failure.Mentions last.text) ∨
      ∃ file, tree.canonical (last.join ⟨String.ofList written⟩) = .ok file ∧
        failure.Mentions file.text)

variable {tree : FileTree} {room : Nat} {chain : List Path} {directory : Path}
  {written : List Char} {failure : Failure} {problem : FileProblem}

/-- A directive that is refused is told, unless it leads to what cannot be read. -/
theorem Refusal.told_or_unreadable
    (h : Refusal tree room chain directory written failure) :
    Told tree directory written failure ∨
      ∃ file problem, failure = .io problem ∧
        tree.canonical (directory.join ⟨String.ofList written⟩) = .ok file ∧
        tree.Unreadable file problem := by
  cases h with
  | unresolvable htarget => exact .inl ⟨⟨_, rfl⟩, .inl (Failure.mentions_written _ _ _)⟩
  | cycle htarget hmem =>
    exact .inl ⟨⟨_, rfl⟩, .inr ⟨_, htarget, Failure.mentions_again _ _⟩⟩
  | tooDeep htarget hnew hroom =>
    exact .inl ⟨⟨_, rfl⟩, .inr ⟨_, htarget, Failure.mentions_target _ _⟩⟩
  | unreadable htarget hnew hroom hread =>
    exact .inr ⟨_, _, rfl, htarget, (FileTree.readText_canonical_eq_error_iff htarget).1 hread⟩

/-- A bare error stands for a file that is there and cannot be read. -/
theorem refusal_io_iff :
    Refusal tree room chain directory written (.io problem) ↔
      ∃ file, tree.canonical (directory.join ⟨String.ofList written⟩) = .ok file ∧
        file ∉ chain ∧ room ≠ 0 ∧ tree.Unreadable file problem := by
  constructor
  · intro h
    cases h with
    | unreadable htarget hnew hroom hread =>
      exact ⟨_, htarget, hnew, hroom, (FileTree.readText_canonical_eq_error_iff htarget).1 hread⟩
  · rintro ⟨file, htarget, hnew, hroom, hunreadable⟩
    exact .unreadable htarget hnew hroom hunreadable.readText_eq

/-- Whether a directive is the first with which there is something wrong: those in front of it name
files that can be read, are new on their way, and have room. -/
def FirstAt (tree : FileTree) (room : Nat) (directory : Path) (chain : List Path) (cs : List Char)
    (files : List Path) (last : Path) (written : List Char) : Prop :=
  ∃ address, DirectiveAt tree directory cs address files last written ∧
    ∀ earlier others within path, Before earlier address →
      DirectiveAt tree directory cs earlier others within path →
        ∃ file content, tree.canonical (within.join ⟨String.ofList path⟩) = .ok file ∧
          file ∉ chain ++ others ∧ others.length < room ∧ tree.readText file = .ok content

/-- The first refusal is the first directive on some way that is refused. -/
theorem firstRefusal_iff {cs : List Char} :
    FirstRefusal tree room directory chain cs failure ↔
      ∃ files last written, FirstAt tree room directory chain cs files last written ∧
        Refusal tree (room - files.length) (chain ++ files) last written failure := by
  have hreplaced : ∀ (others : List Path) (within : Path) (path : List Char),
      (∀ other, ¬Refusal tree (room - others.length) (chain ++ others) within path other) ↔
        ∃ file content, tree.canonical (within.join ⟨String.ofList path⟩) = .ok file ∧
          file ∉ chain ++ others ∧ others.length < room ∧ tree.readText file = .ok content := by
    intro others within path
    have hroom : room - others.length ≠ 0 ↔ others.length < room := by omega
    rw [not_refusal_iff, hroom]
  constructor
  · rintro ⟨address, files, last, written, hat, hrefusal, hfirst⟩
    refine ⟨files, last, written, ⟨address, hat, ?_⟩, hrefusal⟩
    intro earlier others within path hbefore hearlier
    exact (hreplaced others within path).1 (hfirst _ _ _ _ hbefore hearlier)
  · rintro ⟨files, last, written, ⟨address, hat, hfirst⟩, hrefusal⟩
    refine ⟨address, files, last, written, hat, hrefusal, ?_⟩
    intro earlier others within path hbefore hearlier
    exact (hreplaced others within path).2 (hfirst _ _ _ _ hbefore hearlier)

/-- The stage fails with the first refusal, and in no other way. -/
theorem run_eq_error_iff {project : Project} {template : Template} {source : String} {halt : Halt} :
    stage.run tree project template source = .error halt ↔
      ∃ failure, halt = .failure failure ∧ ∃ files last written,
        FirstAt tree depthLimit (project.directoryOf template) (start tree project template)
          source.toList files last written ∧
        Refusal tree (depthLimit - files.length) (start tree project template ++ files) last written
          failure := by
  rw [run_stage, uncrashed_eq_error_iff]
  simp only [map_eq_error_iff, expand_eq_error_iff, firstRefusal_iff, and_comm]

end Include

/-!
## Configurations

A file that was found may not be text, or its text may not parse; only the second failure is given
the path.
-/

/-- Reading a file fails if its text does not parse, which names the file, or if its bytes are no
text, which does not. -/
theorem readWith_eq_error_iff {α : Type} {tree : FileTree}
    {parse : String → Except Json.Fault α} {file : Path} {failure : Failure}
    (hfile : tree.isFile file = true) :
    readWith tree parse file = .error failure ↔
      ∃ content executable, tree.lookup file = .ok (.file content executable) ∧
        ((∃ text fault, String.fromUTF8? content = some text ∧ parse text = .error fault ∧
            failure = .config (.unreadable file fault)) ∨
          String.fromUTF8? content = none ∧ failure = .io .notText) := by
  obtain ⟨content, executable, hlookup⟩ := FileTree.exists_lookup_of_isFile hfile
  have hread := FileTree.readText_of_file hlookup
  unfold readWith
  rw [hread]
  -- The file is there, so its bytes are no text or the text does not parse.
  constructor
  · intro h
    refine ⟨content, executable, hlookup, ?_⟩
    cases htext : String.fromUTF8? content with
    | none =>
      rw [htext] at h
      exact .inr ⟨rfl, (Except.error.inj h).symm⟩
    | some text =>
      rw [htext] at h
      dsimp only at h
      split at h
      · nomatch h
      next fault hparse =>
      exact .inl ⟨text, fault, rfl, hparse, (Except.error.inj h).symm⟩
  · rintro ⟨content', executable', hlookup', hcases⟩
    cases hlookup.symm.trans hlookup'
    rcases hcases with ⟨text, fault, htext, hparse, rfl⟩ | ⟨htext, rfl⟩
    · rw [htext]
      dsimp only
      rw [hparse]
    · rw [htext]

namespace Project

/-- A configuration fails to be read for what is wrong with the first candidate that is a file. -/
theorem readConfig_eq_error_iff {α : Type} {project : Project} {tree : FileTree}
    {parse : String → Except Json.Fault α} {names : List String} {directory : Path}
    {failure : Failure} :
    project.readConfig tree parse names directory = .error failure ↔
      ∃ file content executable,
        (project.candidates tree names directory).find? tree.isFile = some file ∧
        tree.lookup file = .ok (.file content executable) ∧
        ((∃ text fault, String.fromUTF8? content = some text ∧ parse text = .error fault ∧
            failure = .config (.unreadable file fault)) ∨
          String.fromUTF8? content = none ∧ failure = .io .notText) := by
  cases hfind : (project.candidates tree names directory).find? tree.isFile with
  | none =>
    have hnone : project.readConfig tree parse names directory = .ok none := by
      unfold readConfig
      rw [hfind]
    rw [hnone]
    exact ⟨nofun, fun ⟨_, _, _, h, _⟩ => nomatch h⟩
  | some file =>
    rw [readConfig_of_first hfind, map_eq_error_iff,
      readWith_eq_error_iff (List.find?_some hfind)]
    constructor
    · rintro ⟨content, executable, h⟩
      exact ⟨file, content, executable, rfl, h⟩
    · rintro ⟨_, content, executable, ⟨⟩, h⟩
      exact ⟨content, executable, h⟩

end Project

/-! ## Both -/

open Include

/-- A source whose directives are not all replaced fails, and so does a search that comes to a file
which is no configuration.

The first directive with which there is something wrong is told by its path, or leads to something
that is there but cannot be read as text; that is so exactly if the failure is one of reading, and
then it names nothing. The file that a search finds is told by its path if it is a text, and not at
all if its bytes are none. -/
theorem failures_blame_file (tree : FileTree) (project : Project) :
    (∀ template source halt, stage.run tree project template source = .error halt →
      ∃ failure files last written, halt = .failure failure ∧
        FirstAt tree depthLimit (project.directoryOf template) (start tree project template)
          source.toList files last written ∧
        (Told tree last written failure ∨
          ∃ file problem, failure = .io problem ∧
            tree.canonical (last.join ⟨String.ofList written⟩) = .ok file ∧
            tree.Unreadable file problem)) ∧
    (∀ template source problem,
      stage.run tree project template source = .error (.failure (.io problem)) ↔
        ∃ files last written file,
          FirstAt tree depthLimit (project.directoryOf template) (start tree project template)
            source.toList files last written ∧
          tree.canonical (last.join ⟨String.ofList written⟩) = .ok file ∧
          file ∉ start tree project template ++ files ∧ files.length < depthLimit ∧
          tree.Unreadable file problem) ∧
    ∀ {α : Type} (parse : String → Except Json.Fault α) names directory failure,
      (project.readConfig tree parse names directory = .error failure ↔
        ∃ file content executable,
          (project.candidates tree names directory).find? tree.isFile = some file ∧
          tree.lookup file = .ok (.file content executable) ∧
          ((∃ text fault, String.fromUTF8? content = some text ∧ parse text = .error fault ∧
              failure = .config (.unreadable file fault) ∧ failure.Mentions file.text) ∨
            String.fromUTF8? content = none ∧ failure = .io .notText)) := by
  refine ⟨?_, ?_, ?_⟩
  · intro template source halt h
    obtain ⟨failure, rfl, files, last, written, hfirst, hrefusal⟩ := run_eq_error_iff.1 h
    exact ⟨failure, files, last, written, rfl, hfirst, hrefusal.told_or_unreadable⟩
  · intro template source problem
    -- A failure of reading is the last of the four reasons; the others name the directive.
    rw [run_eq_error_iff]
    constructor
    · rintro ⟨_, ⟨⟩, files, last, written, hfirst, hrefusal⟩
      obtain ⟨file, htarget, hnew, hroom, hunreadable⟩ := refusal_io_iff.1 hrefusal
      exact ⟨files, last, written, file, hfirst, htarget, hnew, by omega, hunreadable⟩
    · rintro ⟨files, last, written, file, hfirst, htarget, hnew, hroom, hunreadable⟩
      have hrefusal := refusal_io_iff.2
        ⟨file, htarget, hnew, Nat.sub_ne_zero_of_lt hroom, hunreadable⟩
      exact ⟨.io problem, rfl, files, last, written, hfirst, hrefusal⟩
  · intro α parse names directory failure
    rw [Project.readConfig_eq_error_iff]
    constructor
    · rintro ⟨file, content, executable, hfind, hlookup, hcases⟩
      refine ⟨file, content, executable, hfind, hlookup, ?_⟩
      rcases hcases with ⟨text, fault, htext, hparse, rfl⟩ | hnone
      · exact .inl ⟨text, fault, htext, hparse, rfl, Failure.mentions_file _ _⟩
      · exact .inr hnone
    · rintro ⟨file, content, executable, hfind, hlookup, hcases⟩
      refine ⟨file, content, executable, hfind, hlookup, ?_⟩
      rcases hcases with ⟨text, fault, htext, hparse, heq, -⟩ | hnone
      · exact .inl ⟨text, fault, htext, hparse, heq⟩
      · exact .inr hnone

/-- A letter in a directory with another directory and a file that is no text. -/
def shelved : Template := ⟨"l", "letter", "letter", none, none, []⟩

def shelf : FileTree := ⟨[
  (["p"], .directory),
  (["p", "parts"], .directory),
  (["p", "data.json"], .file ⟨#[255]⟩ false)]⟩

/-- A directive that names nothing: the failure tells what was written. -/
theorem failures_blame_file_shelf :
    ∃ failure files last written,
      stage.run shelf Project.mails shelved "<mj-include path=\"nowhere\"/>" =
        .error (.failure failure) ∧
      FirstAt shelf depthLimit (Project.mails.directoryOf shelved)
        (start shelf Project.mails shelved) "<mj-include path=\"nowhere\"/>".toList files last
        written ∧
      (Told shelf last written failure ∨
        ∃ file problem, failure = .io problem ∧
          shelf.canonical (last.join ⟨String.ofList written⟩) = .ok file ∧
          shelf.Unreadable file problem) := by
  have hrun : stage.run shelf Project.mails shelved "<mj-include path=\"nowhere\"/>" =
      .error (.failure (.inclusion (.unresolvable "nowhere" ⟨"/p"⟩ .notFound))) :=
    errorOf?_eq_some_iff.1 (by decide +kernel)
  obtain ⟨failure, files, last, written, heq, hfirst, hblame⟩ :=
    (failures_blame_file shelf Project.mails).1 _ _ _ hrun
  rw [heq] at hrun
  exact ⟨failure, files, last, written, hrun, hfirst, hblame⟩

/-- A directive that leads to a directory, and a configuration that is no text: neither failure has
a path in it. -/
theorem unreadable_names_nothing :
    stage.run shelf Project.mails shelved "<mj-include path=\"parts\"/>" =
        .error (.failure (.io .isDirectory)) ∧
      (Failure.io .isDirectory).message = "Is a directory (os error 21)" ∧
      shelf.isFile ⟨"/p/data.json"⟩ = true ∧
      (∃ failure, Project.mails.readConfig shelf Json.parse ["data.json"] ⟨"/p"⟩ = .error failure ∧
        failure = .io .notText ∧ failure.message = "stream did not contain valid UTF-8" ∧
        ∀ problem, failure ≠ .config problem) := by
  refine ⟨errorOf?_eq_some_iff.1 (by decide +kernel), rfl, by decide +kernel, ?_⟩
  exact ⟨_, errorOf?_eq_some_iff.1 (by decide +kernel), rfl, rfl, nofun⟩

end MailTemplates
