import MailTemplates.Build.Pipeline
import MailTemplates.Proofs.Fallible
/-!
# What a stage reads

A stage sees of a file tree what it reads: the paths that it resolves, looks for or opens. Two trees
that are alike at these paths (`FileTree.Alike`) make it give the same result, if it gives one. A
`Reader` is a stage with the list of its reads and the law that nothing else counts; all stages of
the library are readers, and a stage that looks at no file is one too (`Reader.ofPure`).

What is read depends on what was read before: an included file names others, and the first candidate
that is a file ends a search. So the reads are collected along the run, and where the run fails they
end (`readsUntilError`, `Reader.inputs`).

The law of a `Reader` is about results up to their failures: in a tree in which other files are
missing, a step may fail for another reason. So the lemmas compare `toOption` of the results, and a
pipe that succeeds in one tree succeeds in the other with the same text.

Where reads depend on results they are computed by the same recursion as the results
(`readsUntilError`, `Include.reads`), and the induction for a stage follows that recursion: the
first step sees the same, so it gives the same, and so the second step is the same step.

Main statement: `Reader.toOption_run` (the law for pipes).
-/

namespace MailTemplates

/-!
## Results that agree

Two results agree if both have the same value, or neither has any. What follows on results that
agree, and does the same, agrees.
-/

section Agreement

variable {ε ε' α β γ : Type}

/-- Results that agree have the same value, or are both failures. -/
theorem cases_of_toOption_eq {r : Except ε α} {s : Except ε' α} (h : r.toOption = s.toOption) :
    (∃ a, r = .ok a ∧ s = .ok a) ∨ ∃ e e', r = .error e ∧ s = .error e' := by
  cases r with
  | ok a => exact .inl ⟨a, rfl, eq_ok_of_toOption h.symm⟩
  | error e =>
    cases s with
    | ok b => nomatch h
    | error e' => exact .inr ⟨e, e', rfl, rfl⟩

/-- Steps that agree, after results that agree, agree. -/
theorem toOption_bind_congr {r s : Except ε α} {f g : α → Except ε β}
    (h : r.toOption = s.toOption) (hnext : ∀ a, r = .ok a → (f a).toOption = (g a).toOption) :
    (r.bind f).toOption = (s.bind g).toOption := by
  rcases cases_of_toOption_eq h with ⟨a, rfl, rfl⟩ | ⟨e, e', rfl, rfl⟩
  · exact hnext a rfl
  · rfl

theorem toOption_map_congr {r s : Except ε α} (h : r.toOption = s.toOption) (f : α → β) :
    (r.map f).toOption = (s.map f).toOption := by
  rcases cases_of_toOption_eq h with ⟨a, rfl, rfl⟩ | ⟨e, e', rfl, rfl⟩ <;> rfl

/-- A step that does not crash succeeds as often, and with the same. -/
theorem toOption_uncrashed (r : Except Failure α) : (uncrashed r).toOption = r.toOption := by
  cases r <;> rfl

/-- Naming a step changes its failures only. -/
theorem toOption_inStage (name label : String) (r : Outcome α) :
    (inStage name label r).toOption = r.toOption := by
  rcases r with (_ | _) | _ <;> rfl

/-- What is read for the items of a list, up to the first for which a step fails. -/
def readsUntilError (step : α → Except ε β) (reads : α → List γ) : List α → List γ
  | [] => []
  | a :: rest =>
    reads a ++
      match step a with
      | .ok _ => readsUntilError step reads rest
      | .error _ => []

/-- Steps that agree wherever what they read is alike agree on a list if all that is read is. -/
theorem toOption_mapM_congr {f g : α → Except ε β} {reads : α → List γ} {Alike : γ → Prop}
    (hstep : ∀ a, (∀ p ∈ reads a, Alike p) → (f a).toOption = (g a).toOption) (xs : List α)
    (h : ∀ p ∈ readsUntilError f reads xs, Alike p) :
    (xs.mapM f).toOption = (xs.mapM g).toOption := by
  induction xs with
  | nil => rfl
  | cons x xs ih =>
    rw [readsUntilError, List.forall_mem_append] at h
    rw [List.mapM_cons, List.mapM_cons]
    refine toOption_bind_congr (hstep x h.1) fun b hb => ?_
    rw [hb] at h
    exact toOption_bind_congr (ih h.2) fun bs _ => rfl

end Agreement

/-!
## Trees that are alike at a path

Being alike is a matter of one path: it leads to the same place, with the same there, or to nothing
in both.
-/

namespace FileTree

/-- Whether a path names the same place in two trees, with the same there, or none in both. -/
def Alike (first second : FileTree) (p : Path) : Prop :=
  (first.resolve p).toOption = (second.resolve p).toOption ∧
    ∀ place, first.resolve p = .ok place → first.node? place = second.node? place

section Alike

variable {first second : FileTree} {p : Path} (h : first.Alike second p)
include h

/-- Alike trees give a path the same canonical form, if any. -/
theorem toOption_canonical : (first.canonical p).toOption = (second.canonical p).toOption :=
  toOption_map_congr h.1 Place.path

theorem toOption_lookup : (first.lookup p).toOption = (second.lookup p).toOption := by
  unfold lookup locate
  split
  · rfl
  · exact toOption_bind_congr h.1 fun place hplace => by rw [h.2 place hplace]

/-- They give the same text for it. -/
theorem toOption_readText : (first.readText p).toOption = (second.readText p).toOption :=
  toOption_bind_congr (toOption_bind_congr (toOption_lookup h) fun _ _ => rfl) fun _ _ => rfl

/-- So they agree on what is a file. -/
theorem isFile_of_alike : first.isFile p = second.isFile p := by
  unfold isFile
  rcases cases_of_toOption_eq (toOption_lookup h) with
    ⟨node, hfirst, hsecond⟩ | ⟨_, _, hfirst, hsecond⟩ <;> rw [hfirst, hsecond]

/-- A file reads the same, and if it is no text then it is none in both trees. -/
theorem readText_of_isFile (hfile : first.isFile p = true) :
    first.readText p = second.readText p := by
  unfold readText readBytes
  unfold isFile at hfile
  rcases cases_of_toOption_eq (toOption_lookup h) with
    ⟨node, hfirst, hsecond⟩ | ⟨_, _, hfirst, -⟩
  · rw [hfirst, hsecond]
  · rw [hfirst] at hfile
    nomatch hfile

end Alike

end FileTree

/-!
## Searching

A search looks at its candidates in order and stops at the first file. So of the later ones nothing
is asked.
-/

namespace Project

/-- The candidates of a search that are looked at: those in front of the first file, and that. -/
def probes (project : Project) (tree : FileTree) (names : List String) (directory : Path) :
    List Path :=
  let candidates := project.candidates tree names directory
  candidates.takeWhile (fun file => !tree.isFile file) ++ (candidates.find? tree.isFile).toList

/-- A search depends on what is asked of the items up to the one that is found. -/
theorem find?_congr_of_probed {α : Type} {p q : α → Bool} {xs : List α}
    (h : ∀ x ∈ xs.takeWhile (fun x => !p x) ++ (xs.find? p).toList, p x = q x) :
    xs.find? p = xs.find? q := by
  induction xs with
  | nil => rfl
  | cons x xs ih =>
    cases hp : p x with
    | true =>
      have hq : q x = true := by
        rw [← h x (by simp [hp]), hp]
      rw [List.find?_cons_of_pos hp, List.find?_cons_of_pos hq]
    | false =>
      have hq : q x = false := by
        rw [← h x (by simp [hp]), hp]
      rw [List.find?_cons_of_neg (by simp [hp]), List.find?_cons_of_neg (by simp [hq])]
      refine ih fun y hy => h y ?_
      rw [List.takeWhile_cons_of_pos (by simp [hp]), List.find?_cons_of_neg (by simp [hp])]
      exact List.mem_cons_of_mem _ hy

section Search

variable {first second : FileTree} {project : Project} {directory : Path}

/-- The way up is the same if the directory is alike. -/
theorem searchPath_of_alike (h : first.Alike second directory) :
    project.searchPath first directory = project.searchPath second directory := by
  unfold searchPath
  rcases cases_of_toOption_eq (FileTree.toOption_canonical h) with
    ⟨d, hfirst, hsecond⟩ | ⟨_, _, hfirst, hsecond⟩ <;> rw [hfirst, hsecond]

/-- Searches that look at files which are alike find the same, or fail alike. -/
theorem readConfig_of_alike {α : Type} (parse : String → Except Json.Fault α)
    {names : List String}
    (hpath : project.searchPath first directory = project.searchPath second directory)
    (hprobes : ∀ p ∈ project.probes first names directory, first.Alike second p) :
    project.readConfig first parse names directory =
      project.readConfig second parse names directory := by
  have hcandidates : project.candidates first names directory =
      project.candidates second names directory := by
    unfold candidates
    rw [hpath]
  have hfind : (project.candidates first names directory).find? first.isFile =
      (project.candidates second names directory).find? second.isFile := by
    rw [← hcandidates]
    exact find?_congr_of_probed fun p hp => FileTree.isFile_of_alike (hprobes p hp)
  -- Both searches end at the same file, and that was looked at.
  unfold readConfig
  rw [← hfind]
  cases hfound : (project.candidates first names directory).find? first.isFile with
  | none => rfl
  | some file =>
    have halike : first.Alike second file := by
      refine hprobes file (List.mem_append_right _ ?_)
      rw [hfound]
      exact List.mem_singleton_self file
    dsimp only [readWith]
    rw [FileTree.readText_of_isFile halike (List.find?_some hfound)]

end Search

end Project

/-!
## Including

For a directive the path is read first, and then the file that it leads to; the text of this tells
what comes next.
-/

namespace Include

open Text (Piece pieces)

/-- What is read for a piece of a document: the path of a directive, the file that it names, and
what is read for the text of that file. -/
def pieceReads (tree : FileTree) (room : Nat) (directory : Path) (chain : List Path)
    (deeper : Path → List Path → List Char → List Path) : Piece (List Char) → List Path
  | .plain _ => []
  | .token _ written =>
    directory.join ⟨String.ofList written⟩ ::
      match target tree room directory chain (String.ofList written) with
      | .error _ => []
      | .ok file =>
        file ::
          match tree.readText file with
          | .error _ => []
          | .ok content => deeper (file.parent.getD ⟨""⟩) (chain ++ [file]) content.toList

/-- What is read when the directives of a text are replaced. -/
def reads (tree : FileTree) : Nat → Path → List Path → List Char → List Path
  | 0, directory, chain, cs =>
    readsUntilError (replacement tree 0 directory chain fun _ _ cs => .ok cs)
      (pieceReads tree 0 directory chain fun _ _ _ => []) (pieces directive cs)
  | room + 1, directory, chain, cs =>
    readsUntilError (replacement tree (room + 1) directory chain (expand tree room))
      (pieceReads tree (room + 1) directory chain (reads tree room)) (pieces directive cs)

section Alike

variable {first second : FileTree}

/-- A directive leads to the same file if the trees are alike there. -/
theorem toOption_target {directory : Path} {written : String}
    (h : first.Alike second (directory.join ⟨written⟩)) (room : Nat) (chain : List Path) :
    (target first room directory chain written).toOption =
      (target second room directory chain written).toOption := by
  unfold target
  rcases cases_of_toOption_eq (FileTree.toOption_canonical h) with
    ⟨file, hfirst, hsecond⟩ | ⟨_, _, hfirst, hsecond⟩
  · rw [hfirst, hsecond]
  · rw [hfirst, hsecond]
    rfl

/-- So its replacement is the same, if what is deeper is. -/
theorem toOption_replacement {f g : Path → List Path → List Char → Except Failure (List Char)}
    {deeper : Path → List Path → List Char → List Path}
    (hdeeper : ∀ directory chain cs, (∀ p ∈ deeper directory chain cs, first.Alike second p) →
      (f directory chain cs).toOption = (g directory chain cs).toOption)
    (room : Nat) (directory : Path) (chain : List Path) (piece : Piece (List Char))
    (h : ∀ p ∈ pieceReads first room directory chain deeper piece, first.Alike second p) :
    (replacement first room directory chain f piece).toOption =
      (replacement second room directory chain g piece).toOption := by
  cases piece with
  | plain c => rfl
  | token source written =>
    rw [pieceReads, List.forall_mem_cons] at h
    unfold replacement
    dsimp only
    -- Each step fails in both trees or gives the same in both; in the second case the next reads
    -- are those of both.
    rcases cases_of_toOption_eq (toOption_target h.1 room chain) with
      ⟨file, hfirst, hsecond⟩ | ⟨_, _, hfirst, hsecond⟩
    · have hfile := h.2
      rw [hfirst, List.forall_mem_cons] at hfile
      rw [hfirst, hsecond]
      dsimp only
      rcases cases_of_toOption_eq (FileTree.toOption_readText hfile.1) with
        ⟨content, hread, hread'⟩ | ⟨_, _, hread, hread'⟩
      · rw [hread, hread']
        have hcontent := hfile.2
        rw [hread] at hcontent
        exact hdeeper _ _ _ hcontent
      · rw [hread, hread']
        rfl
    · rw [hfirst, hsecond]
      rfl

/-- An expansion is the same if all it reads is alike. The induction is on the depth. -/
theorem toOption_expand (room : Nat) (directory : Path) (chain : List Path) (cs : List Char)
    (h : ∀ p ∈ reads first room directory chain cs, first.Alike second p) :
    (expand first room directory chain cs).toOption =
      (expand second room directory chain cs).toOption := by
  induction room generalizing directory chain cs with
  | zero =>
    exact toOption_map_congr (toOption_mapM_congr
      (toOption_replacement (fun _ _ _ _ => rfl) 0 directory chain) _ h) _
  | succ room ih =>
    exact toOption_map_congr (toOption_mapM_congr
      (toOption_replacement ih (room + 1) directory chain) _ h) _

end Alike

/-- The files on the way to the text of a template: that of the template itself, if it exists. -/
def start (tree : FileTree) (project : Project) (template : Template) : List Path :=
  match tree.canonical (project.sourceOf template) with
  | .ok file => [file]
  | .error _ => []

/-- The stage is the expansion of a source. -/
theorem run_stage (tree : FileTree) (project : Project) (template : Template) (source : String) :
    stage.run tree project template source =
      uncrashed ((expand tree depthLimit (project.directoryOf template)
        (start tree project template) source.toList).map String.ofList) := rfl

end Include

/-! ## Translating -/

namespace Translation

/-- What is read for the table of a template: nothing without a language. -/
def reads (tree : FileTree) (project : Project) (template : Template) : List Path :=
  match template.language with
  | none => []
  | some _ => project.probes tree [fileName] (project.directoryOf template)

/-- A table is the same if the way up is and the files that are probed are alike. -/
theorem tableFor_of_alike {first second : FileTree} {project : Project} {template : Template}
    (hpath : project.searchPath first (project.directoryOf template) =
      project.searchPath second (project.directoryOf template))
    (hreads : ∀ p ∈ reads first project template, first.Alike second p) :
    tableFor first project template = tableFor second project template := by
  unfold reads at hreads
  unfold tableFor
  cases hlanguage : template.language with
  | none => rfl
  | some language =>
    rw [hlanguage] at hreads
    dsimp only
    rw [Project.readConfig_of_alike _ hpath hreads]

end Translation

namespace SampleData

/-- So is the sample data. -/
theorem context_of_alike {first second : FileTree} {project : Project} {template : Template}
    (hpath : project.searchPath first (project.directoryOf template) =
      project.searchPath second (project.directoryOf template))
    (hreads : ∀ p ∈ project.probes first (names template) (project.directoryOf template),
      first.Alike second p) :
    context first project template = context second project template := by
  unfold context
  rw [Project.readConfig_of_alike Json.parse hpath hreads]

end SampleData

/-!
## Readers

The law has a condition on the directory of the template, which the stages look at but do not read:
it has to lead to the same place.
-/

/-- A stage that is known to look at nothing but the paths that it reads, and at the directory of
the template. -/
structure Reader where
  stage : Stage
  /-- What the stage reads when it runs on a source. -/
  reads : FileTree → Project → Template → String → List Path
  sound {first second : FileTree} {project : Project} {template : Template} {source : String}
    (hdirectory : first.Alike second (project.directoryOf template))
    (hreads : ∀ p ∈ reads first project template source, first.Alike second p) :
    (stage.run first project template source).toOption =
      (stage.run second project template source).toOption

namespace Reader

/-- A stage that looks at no file. -/
def ofPure (stage : Stage)
    (h : ∀ first second : FileTree, stage.run first = stage.run second) : Reader where
  stage := stage
  reads _ _ _ _ := []
  sound {first second _ _ _} _ _ := by rw [h first second]

/-- The stage that includes files reads the file of the template and those that are named. -/
def inclusion : Reader where
  stage := Include.stage
  reads tree project template source := project.sourceOf template ::
    Include.reads tree Include.depthLimit (project.directoryOf template)
      (Include.start tree project template) source.toList
  sound {first second project template source} _ hreads := by
    rw [List.forall_mem_cons] at hreads
    have hstart : Include.start first project template = Include.start second project template := by
      unfold Include.start
      rcases cases_of_toOption_eq (FileTree.toOption_canonical hreads.1) with
        ⟨file, hfirst, hsecond⟩ | ⟨_, _, hfirst, hsecond⟩ <;> rw [hfirst, hsecond]
    rw [Include.run_stage, Include.run_stage, toOption_uncrashed, toOption_uncrashed, ← hstart]
    exact toOption_map_congr (Include.toOption_expand _ _ _ _ hreads.2) _

/-- The stage that declares the language. -/
def language : Reader := ofPure Language.stage fun _ _ => rfl

/-- The stage that takes raw markers away. -/
def strip : Reader := ofPure RawMarker.stripStage fun _ _ => rfl

/-- The stage that fills placeholders searches for the translations, if there is a language. -/
def translation : Reader where
  stage := Translation.stage
  reads tree project template _ := Translation.reads tree project template
  sound {first second project template source} hdirectory hreads := by
    show (uncrashed (Translation.translate first project template source)).toOption =
      (uncrashed (Translation.translate second project template source)).toOption
    unfold Translation.translate
    rw [Translation.tableFor_of_alike (Project.searchPath_of_alike hdirectory) hreads]

/-- The stage that deals with templating tags in a mode: for a preview it searches for sample
data. -/
def templating : Mode → Reader
  | .prod => ofPure RawMarker.deferStage fun _ _ => rfl
  | .dev => {
    stage := SampleData.stage
    reads := fun tree project template _ =>
      project.probes tree (SampleData.names template) (project.directoryOf template)
    sound := fun {first second project template source} hdirectory hreads => by
      dsimp only [SampleData.stage, SampleData.stageWith]
      rw [SampleData.context_of_alike (Project.searchPath_of_alike hdirectory) hreads] }

theorem stage_templating (mode : Mode) : (templating mode).stage = templatingStage mode := by
  cases mode <;> rfl

/-- What the stages of a pipe read one after another, up to the first that fails. -/
def inputs : List Reader → FileTree → Project → Template → String → List Path
  | [], _, _, _, _ => []
  | reader :: readers, tree, project, template, source =>
    reader.reads tree project template source ++
      match reader.stage.run tree project template source with
      | .ok next => inputs readers tree project template next
      | .error _ => []

/-- A pipe gives the same in two trees that are alike at what it reads in the one. -/
theorem toOption_run {first second : FileTree} {project : Project} {template : Template}
    (hdirectory : first.Alike second (project.directoryOf template)) (readers : List Reader)
    (source : String)
    (h : ∀ p ∈ inputs readers first project template source, first.Alike second p) :
    (Pipe.run first project template (readers.map Reader.stage) source).toOption =
      (Pipe.run second project template (readers.map Reader.stage) source).toOption := by
  induction readers generalizing source with
  | nil => rfl
  | cons reader readers ih =>
    rw [inputs, List.forall_mem_append] at h
    have hrun := reader.sound hdirectory h.1
    refine toOption_bind_congr ?_ fun next hnext => ih next ?_
    · unfold Pipe.runStage
      rw [toOption_inStage, toOption_inStage, hrun]
    · have hinputs := h.2
      have hok : reader.stage.run first project template source = .ok next :=
        eq_ok_of_toOption (by rw [← toOption_inStage, ← Pipe.runStage, hnext]; rfl)
      rwa [hok] at hinputs

end Reader

end MailTemplates
