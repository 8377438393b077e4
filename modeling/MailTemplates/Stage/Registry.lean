import MailTemplates.Stage.Include
import MailTemplates.Stage.Language
import MailTemplates.Stage.RawMarker
import MailTemplates.Translation.Table
/-!
# The registry of stages

A manifest names stages; a registry knows them. Registering a stage under a name that is known puts
it in the place of the old one.

Main statements: `names_register` (a known name keeps its place) and `find?_register` (the stage
registered last is found).
-/

namespace MailTemplates

/-- Stages in the order in which their names were first registered. -/
structure Registry where
  stages : List Stage

namespace Registry

/-- The registry without stages. -/
def empty : Registry := ⟨[]⟩

/-- The names that are registered. -/
def names (registry : Registry) : List String := registry.stages.map Stage.name

private def put : List Stage → Stage → List Stage
  | [], stage => [stage]
  | s :: rest, stage => if s.name = stage.name then stage :: rest else s :: put rest stage

/-- Registers a stage under its own name. -/
def register (registry : Registry) (stage : Stage) : Registry := ⟨put registry.stages stage⟩

/-- The stage of a name. -/
def find? (registry : Registry) (name : String) : Option Stage :=
  registry.stages.find? fun s => s.name == name

/-- A stage that is put among others takes the place of the one with its name, or the last place. -/
private theorem put_names (stages : List Stage) (stage : Stage) :
    (put stages stage).map Stage.name =
      if stage.name ∈ stages.map Stage.name then stages.map Stage.name
      else stages.map Stage.name ++ [stage.name] := by
  induction stages with
  | nil => simp [put]
  | cons s rest ih =>
    unfold put
    by_cases h : s.name = stage.name
    · simp [h]
    · have h' : ¬stage.name = s.name := fun e => h e.symm
      by_cases hm : stage.name ∈ rest.map Stage.name
      · simp only [hm, if_true] at ih
        simp only [h, if_false, List.map_cons, ih, List.mem_cons, hm, or_true, if_true]
      · simp only [hm, if_false] at ih
        simp only [h, if_false, List.map_cons, ih, List.mem_cons, h', hm, or_self,
          List.cons_append]

/-- A stage that is registered adds its name, if that is new. -/
theorem names_register (registry : Registry) (stage : Stage) :
    (registry.register stage).names =
      if stage.name ∈ registry.names then registry.names else registry.names ++ [stage.name] :=
  put_names registry.stages stage

/-- A stage that was registered is found under its name, and no other changes. -/
theorem find?_register (registry : Registry) (stage : Stage) (name : String) :
    (registry.register stage).find? name =
      if stage.name = name then some stage else registry.find? name := by
  obtain ⟨stages⟩ := registry
  simp only [find?, register]
  induction stages with
  | nil =>
    by_cases h : stage.name = name <;> simp [put, h]
  | cons s rest ih =>
    unfold put
    by_cases h : s.name = stage.name
    · by_cases hn : stage.name = name
      · simp [h, hn]
      · simp [h, hn]
    · rw [if_neg h]
      by_cases hs : s.name = name
      · have : ¬stage.name = name := fun e => h (hs.trans e.symm)
        simp [hs, this]
      · simpa [hs] using ih

/-- The registry of the stages that are always there. -/
def builtIn : Registry :=
  [Include.stage, Language.stage, Translation.stage, RawMarker.stripStage].foldl register empty

/-- The stages of a list of names. -/
def resolveAll (registry : Registry) (names : List String) : Except Failure (List Stage) :=
  names.mapM fun name =>
    match registry.find? name with
    | some stage => .ok stage
    | none => .error (.config (.unknownStage name registry.names))

end Registry

end MailTemplates
