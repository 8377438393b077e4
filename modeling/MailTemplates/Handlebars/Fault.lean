import MailTemplates.Handlebars.Basic
/-!
# What can be wrong with a template

A template that cannot be read has a syntax problem. One that can be read may still fail when it is
rendered; then the message names the place of the innermost element that has one.
-/

namespace MailTemplates.Handlebars

/-- Why a text is not a template. -/
inductive SyntaxProblem where
  | invalid
  | mismatchedBlock (opened closed : String)
  | mismatchedDecorator (opened closed : String)
  | invalidParam (source : String)
deriving DecidableEq, Repr

/-- Why a template cannot be rendered. -/
inductive RenderProblem where
  | helperNotFound (name : String)
  | partialNotFound (name : String)
  | bodyNotFound
  | decoratorNotFound (name : String)
  | argumentMissing (name : String) (index : Nat)
  | namedArgumentMissing (name : String) (argument : String)
  | arrayIndex (index : String)
  | bodyRequired
  | stringExpected
  | loggingLevel (level : String)
  | tooDeep
deriving DecidableEq, Repr

/-- The wording of a problem. -/
def RenderProblem.message : RenderProblem → String
  | helperNotFound name => s!"Helper not found {name}"
  | partialNotFound name => s!"Partial not found {name}"
  | bodyNotFound => "Partial block cound not be found"
  | decoratorNotFound name => s!"Decorator not found {name}"
  | argumentMissing name index =>
    s!"Helper/Decorator {name} param at index {index} required but not found"
  | namedArgumentMissing name argument =>
    s!"Helper/Decorator {name} param with name {argument} required but not found"
  | arrayIndex index => s!"Cannot access array/vector with string index, {index}"
  | bodyRequired => "Block content required"
  | stringExpected => "Invalid param type, String expected"
  | loggingLevel level => s!"Invalid logging level: {level}"
  | tooDeep => "Partials nested too deep"

/-- A problem and where it was met. -/
structure RenderFault where
  problem : RenderProblem
  position : Option Position
deriving DecidableEq, Repr

/-- The wording of a fault. -/
def RenderFault.message (f : RenderFault) : String :=
  match f.position with
  | some p =>
    s!"Error rendering \"Unnamed template\" line {p.line}, col {p.column}: {f.problem.message}"
  | none => f.problem.message

/-- A fault of reading or of rendering a template. -/
inductive Fault where
  | notTemplate (problem : SyntaxProblem)
  | notRendered (fault : RenderFault)
deriving DecidableEq, Repr

end MailTemplates.Handlebars
