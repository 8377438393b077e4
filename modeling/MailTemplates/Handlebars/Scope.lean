import MailTemplates.Handlebars.Fault
/-!
# What references stand for

While a template is rendered it looks at a part of the context: the whole at first, inside a block
what the block says. A scope holds where a block looks, the variables it sets and the names it
gives; scopes are stacked, the innermost first. A part of the context is known by its path from the
root, so that a reference may lead on from it; a value that was computed has no path.
-/

namespace MailTemplates.Handlebars

/-- A value found for a reference. -/
inductive Found where
  | missing
  /-- A part of the context. -/
  | located (path : List String) (value : Json)
  | computed (value : Json)

namespace Found

/-- The value; null if there is none. -/
def value : Found → Json
  | missing => .null
  | located _ v => v
  | computed v => v

/-- The path from the root of the context. -/
def path? : Found → Option (List String)
  | located path _ => some path
  | _ => none

end Found

/-- Where a block looks. -/
inductive Focus where
  | at (path : List String)
  | value (v : Json)

/-- Looks at what was found. -/
def Found.focus (f : Found) : Focus :=
  match f with
  | .located path _ => .at path
  | f => .value f.value

/-- Looks at an item or a member of what was found. -/
def Found.focusOn (f : Found) (key : String) (item : Json) : Focus :=
  match f with
  | .located path _ => .at (path ++ [key])
  | _ => .value item

/-- What a name given by a block stands for. -/
inductive Naming where
  /-- Where the block looks. -/
  | focus
  | value (v : Json)

/-- One open block: where it looks, its variables, and the names it gives. -/
structure Scope where
  focus : Focus
  locals : Members := []
  names : List (String × Naming) := []

/-- The scope of a whole context. -/
def Scope.ofRoot : Scope := { focus := .at [] }

/-! ## Walking a path -/

/-- The index that a key writes: digits behind an optional plus sign, within 64 bits. -/
def arrayIndex? (key : String) : Option Nat :=
  let ds := match key.toList with
    | '+' :: ds => ds
    | ds => ds
  if ds.isEmpty || !ds.all Char.isDigit then none
  else
    let n := ds.foldl (fun n c => n * 10 + (c.toNat - '0'.toNat)) 0
    if n < Nat.pow 2 64 then some n else none

/-- The item or member of a value under a key. Only an index is a key of an array. -/
def step (v : Json) (key : String) : Except RenderProblem (Option Json) :=
  match v with
  | .array items =>
    match arrayIndex? key with
    | some i => .ok items[i]?
    | none => .error (.arrayIndex key)
  | v => .ok (v.get? key)

/-- The value at the end of a path. -/
def descend (v : Json) : List String → Except RenderProblem (Option Json)
  | [] => .ok (some v)
  | key :: path =>
    match step v key with
    | .ok (some w) => descend w path
    | .ok none => .ok none
    | .error e => .error e

/-! ## Looking up a reference -/

/-- What references are looked up in: the whole context and the open blocks, the innermost first. -/
structure Surroundings where
  root : Json
  scopes : List Scope := [.ofRoot]

namespace Surroundings

/-- The part of the context at a path. -/
def locate (s : Surroundings) (path : List String) : Except RenderProblem Found := do
  match ← descend s.root path with
  | some v => return .located path v
  | none => return .missing

/-- A part of a computed value. -/
def within (v : Json) (path : List String) : Except RenderProblem Found := do
  match ← descend v path with
  | some w => return .computed w
  | none => return .missing

/-- Walks on from where a scope looks. -/
def fromFocus (s : Surroundings) (f : Focus) (path : List String) : Except RenderProblem Found :=
  match f with
  | .at base => s.locate (base ++ path)
  | .value v => within v path

private def stepNames (steps : List PathStep) : List String :=
  steps.filterMap fun
    | .named n => some n
    | _ => none

/-- The naming of the innermost block that gives a name, and where that block looks. -/
def naming? (s : Surroundings) (name : String) : Option (Focus × Naming) :=
  s.scopes.findSome? fun scope => (scope.names.lookup name).map (scope.focus, ·)

/-- Looks up a variable of the block that is so many levels out, or of the next one outside that has
it. -/
def blockVariable (s : Surroundings) (level : Nat) (name : String) : Found :=
  match (s.scopes.drop level).findSome? (·.locals.get? name) with
  | some v => .computed v
  | none => .missing

/-- Looks at the scope that is so many levels out, or at the innermost if there are not so many. -/
def focusAt (s : Surroundings) (level : Nat) : Focus :=
  match s.scopes[level]?.orElse fun _ => s.scopes.head? with
  | some scope => scope.focus
  | none => .at []

/-- Looks up a reference that does not start with `@`. -/
def relative (s : Surroundings) (steps : List PathStep) : Except RenderProblem Found :=
  let ups := (steps.takeWhile (· == .up)).length
  let rest := steps.drop ups
  let plain (focus : Focus) := s.fromFocus focus (stepNames rest)
  match rest with
  | .root :: _ => if ups = 0 then s.locate (stepNames rest) else plain (s.focusAt ups)
  | .named name :: more =>
    match s.naming? name with
    | some (_, .value v) => within v (stepNames more)
    | some (focus, .focus) => s.fromFocus focus (stepNames more)
    | none => plain (s.focusAt ups)
  | _ => plain (s.focusAt ups)

/-- What a reference stands for. -/
def lookup (s : Surroundings) (r : Reference) : Except RenderProblem Found :=
  match r.steps with
  | .ofBlock :: rest =>
    let level := (rest.takeWhile (· == .up)).length
    match rest.drop level with
    | .named name :: _ => .ok (s.blockVariable level name)
    | _ => s.relative r.steps
  | steps => s.relative steps

end Surroundings

end MailTemplates.Handlebars
