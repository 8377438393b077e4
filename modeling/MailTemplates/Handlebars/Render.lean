import MailTemplates.Handlebars.Helper
import MailTemplates.Handlebars.Parser
/-!
# Rendering templates

A template is rendered element by element against a context. What a block does is decided by its
helper; a partial is rendered as if its template stood in its place, in a scope of its own and with
the indent of its tag before every line. The body of a call of a partial is rendered once, before
the partial, which shows the text of it.

Rendering hands on one record: what has been written, what indent is due, the scopes and the
partials that are known. Blocks and partials render templates in turn; they are given the function
to do so (`RenderBody`), and the recursion is tied with a bound on the depth (`renderTemplate`).
-/

namespace MailTemplates.Handlebars

/-- What has been rendered and what is known while rendering. -/
structure Rendering where
  /-- The texts that were written, the last one first. -/
  written : List String := []
  scopes : List Scope := [.ofRoot]
  /-- The partials that the template defines itself, the last one first. -/
  partials : List (String × Template) := []
  /-- The texts of the bodies of the open calls of partials, the innermost first. -/
  bodies : List String := []
  /-- What stands before every line. -/
  indent : Option String := none
  /-- Whether the next text starts a line. -/
  indentNext : Bool := false
  /-- Whether the last text ended a line. -/
  atLineEnd : Bool := false
  /-- Whether the open block has written something. -/
  produced : Bool := false

namespace Rendering

/-! ## Writing -/

private def isLineBreak (c : Char) : Bool := c == '\n' || c == '\r'

/-- Puts an indent behind every line feed but one at the end. -/
def indented (indent : List Char) : List Char → List Char
  | [] => []
  | ['\n'] => ['\n']
  | '\n' :: cs => '\n' :: indent ++ indented indent cs
  | c :: cs => c :: indented indent cs

/-- Writes a text behind what was written. -/
def write (st : Rendering) (s : String) : Rendering :=
  match s.toList with
  | [] => st
  | c :: cs =>
    let atEnd := isLineBreak (cs.getLastD c)
    let text := match st.indent with
      | some i =>
        let body := String.ofList (indented i.toList (c :: cs))
        if st.indentNext && !isLineBreak c then i ++ body else body
      | none => s
    { st with written := text :: st.written, produced := true, atLineEnd := atEnd,
              indentNext := atEnd }

/-- Puts a text behind what was written, as it is and without taking notice of it. -/
def put (st : Rendering) (s : String) : Rendering := { st with written := s :: st.written }

/-- The text that was written. -/
def output (st : Rendering) : String := String.join st.written.reverse

/-- Runs what a tag stands for; `indentFirst` says whether its first text starts a line. -/
def around {ε : Type} (indentFirst : Bool) (act : Rendering → Except ε Rendering)
    (st : Rendering) : Except ε Rendering := do
  let next ← act { st with produced := false, indentNext := indentFirst }
  return if next.produced then { next with indentNext := next.atLineEnd }
    else { next with produced := st.produced, indentNext := st.indentNext }

end Rendering

/-! ## Arguments -/

/-- Computes a helper's value for an argument; a helper without one gives the empty text. -/
def callForValue (call : Call) : Except RenderProblem Found :=
  match Helper.named? call.name with
  | none => .error (.helperNotFound call.name)
  | some h =>
    match h.value? call with
    | some v => v.map .computed
    | none => (h.checkArguments call).map fun _ => .computed (.string "")

/-- The name of a helper; `value` is the value of a call that stands for one. -/
def nameText (value : Unit → Except RenderProblem Found) : Param → Except RenderProblem String
  | .word name => .ok name
  | .path r => .ok r.text
  | .literal v => .ok (shown v)
  | .call _ _ _ => (value ()).map fun f => shown f.value

mutual
/-- What an argument stands for. -/
def evaluate (s : Surroundings) : Param → Except RenderProblem Found
  | .word _ => .ok .missing
  | .path r => s.lookup r
  | .literal v => .ok (.computed v)
  | .call name args hash => do
    let name ← nameText (fun _ => evaluate s name) name
    let args ← evaluateArgs s args
    let hash ← evaluateHash s hash
    callForValue ⟨name, args, hash⟩

/-- What arguments stand for. -/
def evaluateArgs (s : Surroundings) : List Param → Except RenderProblem (List Found)
  | [] => .ok []
  | p :: ps => do return (← evaluate s p) :: (← evaluateArgs s ps)

/-- What options stand for. -/
def evaluateHash (s : Surroundings) :
    List (String × Param) → Except RenderProblem (List (String × Found))
  | [] => .ok []
  | (key, p) :: ps => do return (key, ← evaluate s p) :: (← evaluateHash s ps)
end

/-- The name of a tag. -/
def Expression.nameIn (e : Expression) (s : Surroundings) : Except RenderProblem String :=
  nameText (fun _ => evaluate s e.name) e.name

/-- The name, arguments and options of a tag. -/
def Expression.callIn (e : Expression) (s : Surroundings) : Except RenderProblem Call := do
  let name ← e.nameIn s
  let args ← evaluateArgs s e.args
  let hash ← evaluateHash s e.hash
  return ⟨name, args, hash⟩

/-! ## Blocks -/

/-- A problem at no place yet. -/
def unplaced {α : Type} : Except RenderProblem α → Except RenderFault α
  | .ok a => .ok a
  | .error p => .error ⟨p, none⟩

/-- Gives a fault a place if it has none. -/
def placed {α : Type} (position : Option Position) : Except RenderFault α → Except RenderFault α
  | .ok a => .ok a
  | .error f => .error { f with position := f.position.orElse fun _ => position }

/-- Renders a template and goes on with what was rendered. -/
abbrev RenderBody := Template → Rendering → Except RenderFault Rendering

/-- Renders a template in a further scope. -/
def inScope (render : RenderBody) (scope : Scope) (t : Template) (st : Rendering) :
    Except RenderFault Rendering := do
  let next ← render t { st with scopes := scope :: st.scopes }
  return { next with scopes := st.scopes }

/-- Renders a branch of a block, which may be missing. -/
def renderBranch (render : RenderBody) (t : Option Template) (st : Rendering) :
    Except RenderFault Rendering :=
  match t with
  | some t => render t st
  | none => .ok st

/-- The names that a block gives to an item and its key. -/
def itemNames (names : Option (String × Option String)) (found : Found) (key item : Json) :
    List (String × Naming) :=
  let naming : Naming := match found with
    | .located _ _ => .focus
    | _ => .value item
  match names with
  | some (name, some keyName) => [(keyName, .value key), (name, naming)]
  | some (name, none) => [(name, naming)]
  | none => []

/-- The scope of an item: its key as written in a path, its variables and its names. -/
def itemScope (e : Expression) (found : Found) (path : String) (key item : Json)
    (locals : Members) : Scope :=
  { focus := found.focusOn path item, locals, names := itemNames e.blockParams found key item }

private def integer (n : Nat) : Json := .number (.integer n)

/-- The scopes of the items or members of a value; nothing if it has none. -/
def itemScopes (e : Expression) (found : Found) : Option (List Scope) :=
  match found.value with
  | .array items => some <| items.zipIdx.map fun (item, i) =>
      itemScope e found (toString i) (integer i) item
        [("first", .bool (i == 0)), ("index", integer i), ("last", .bool (i + 1 == items.length))]
  | .object members => some <| members.zipIdx.map fun ((key, item), i) =>
      itemScope e found key (.string key) item
        [("first", .bool (i == 0)), ("index", integer i), ("key", .string key),
          ("last", .bool (i + 1 == members.length))]
  | _ => none

/-- Renders a block. -/
def renderBlock (render : RenderBody) (h : Helper) (call : Call) (e : Expression) (body : Template)
    (inverse : Option Template) (st : Rendering) : Except RenderFault Rendering :=
  match h with
  | .each => do
    let found ← unplaced (call.arg "each" 0)
    -- Nothing and an empty container both show the other branch.
    match itemScopes e found with
    | some (scope :: scopes) =>
      (scope :: scopes).foldlM (fun st scope => inScope render scope body st) st
    | _ => renderBranch render inverse st
  | .withValue => do
    let found ← unplaced (call.arg "with" 0)
    if isTruthy false found.value then
      let names := match e.blockParams with
        | some (name, none) => itemNames (some (name, none)) found .null found.value
        | _ => []
      inScope render { focus := found.focus, names } body st
    else renderBranch render inverse st
  | .condition positive => do
    let found ← unplaced (call.arg "if" 0)
    let includeZero := call.option? "includeZero" == some (.bool true)
    if isTruthy includeZero found.value == positive then render body st
    else renderBranch render inverse st
  | .raw => render body st
  | .log => do
    unplaced (checkLog call)
    return st
  | h => do
    match h.value? call with
    | some v =>
      let v ← unplaced v
      if h.choosesBranch then
        if isTruthy false v then render body st else renderBranch render inverse st
      else return st.put (escapedText (shown v))
    | none => return st

/-! ## Values, decorators and partials -/

/-- Calls a helper without a body. -/
def renderCall (escaped : Bool) (call : Call) (st : Rendering) : Except RenderProblem Rendering :=
  match Helper.named? call.name with
  | none => .error (.helperNotFound call.name)
  | some h =>
    match h.value? call with
    | some v => v.map fun v => st.put (if escaped then escapedText (shown v) else shown v)
    | none => (h.checkArguments call).map fun _ => st

/-- Renders a tag that shows a value: a bare name is the value it refers to, unless a helper has
that name. -/
def renderValue (s : Surroundings) (escaped : Bool) (e : Expression) (st : Rendering) :
    Except RenderProblem Rendering := do
  if e.isNameOnly && (Helper.named? (← e.nameIn s)).isNone then
    match ← evaluate s e.name with
    | .missing => return st
    | found =>
      let text := shown found.value
      return st.write (if escaped then escapedText text else text)
  else
    let call ← e.callIn s
    st.around st.indentNext (renderCall escaped call)

/-- Runs a decorator. The one there is defines a partial. -/
def runDecorator (s : Surroundings) (e : Expression) (body : Option Template) (st : Rendering) :
    Except RenderProblem Rendering := do
  let call ← e.callIn s
  if call.name ≠ "inline" then throw (.decoratorNotFound call.name)
  match (← call.arg "inline" 0).value with
  | .string name =>
    match body with
    | some t => return { st with partials := (name, t) :: st.partials }
    | none => throw .bodyRequired
  | _ => throw .stringExpected

/-- The name of the body that a partial is called with. -/
def bodyName : String := "@partial-block"

/-- What options are laid over: the members of a value, the items of an array under their indices,
or the characters of a text under theirs. -/
def keyedParts : Json → Members
  | .object ms => ms
  | .array items => indexed items
  | .string s => indexed (s.toList.map fun c => .string (String.singleton c))
  | _ => []
where
  indexed (items : List Json) : Members :=
    items.zipIdx.foldl (fun ms (item, i) => Members.insert ms (toString i) item) []

/-- The context of a partial: its argument, or what the caller looks at, with its options laid over
it. -/
def partialContext (s : Surroundings) (call : Call) : Except RenderProblem Json := do
  let base ← match call.args with
    | found :: _ => pure found.value
    | [] => (·.value) <$> s.lookup .current
  if call.hash.isEmpty then return base
  return .object <|
    call.hash.foldl (fun ms (key, found) => Members.insert ms key found.value) (keyedParts base)

/-- Renders the body of a call of a partial for its text. -/
def renderBody (render : RenderBody) (body : Option Template) (st : Rendering) :
    Except RenderFault (Option String × Rendering) := do
  match body with
  | some t =>
    let next ← render t { st with written := [] }
    return (some next.output, { next with written := st.written })
  | none => return (none, st)

/-- Renders the partial of a name in the scope it is called in; `body` is the text of the body of
the call, which stands in for a partial that is not known. -/
def renderNamed (render : RenderBody) (name : String) (body : Option String)
    (indent : Option String) (st : Rendering) : Except RenderFault Rendering :=
  if name = bodyName then
    match st.bodies.head?.orElse fun _ => body with
    | some text => .ok (st.put text)
    | none => .error ⟨.bodyNotFound, none⟩
  else
    match st.partials.lookup name, body with
    | some t, _ => render t { st with
        bodies := body.toList ++ st.bodies
        indent := match st.indent, indent with
          | some a, some b => some (a ++ b)
          | a, b => a.orElse fun _ => b }
    | none, some text => .ok (st.put text)
    | none, none => .error ⟨.partialNotFound name, none⟩

/-- Renders a partial. Its options are names as well as members of its context, and what its body
defines is known to it alone. -/
def renderPartial (render : RenderBody) (s : Surroundings) (e : Expression)
    (body : Option Template) (indent : Option String) (onOwnLine : Bool) (st : Rendering) :
    Except RenderFault Rendering := do
  let call ← unplaced (e.callIn s)
  let context ← unplaced (partialContext s call)
  let scope : Scope :=
    { focus := .value context, names := call.hash.map fun (key, f) => (key, .value f.value) }
  let next ← { st with scopes := scope :: st.scopes }.around
    (onOwnLine && (st.atLineEnd || indent.isSome)) fun st => do
      let (text, st) ← renderBody render body st
      renderNamed render call.name text indent st
  return { next with
    scopes := st.scopes, partials := st.partials, bodies := st.bodies, indent := st.indent }

/-! ## Templates -/

/-- Renders one element. -/
def renderElement (render : RenderBody) (root : Json) (element : Element) (st : Rendering) :
    Except RenderFault Rendering :=
  let s : Surroundings := ⟨root, st.scopes⟩
  match element with
  | .text content => .ok (st.write content)
  | .value escaped e => unplaced (renderValue s escaped e st)
  | .block e body inverse onOwnLine => do
    let call ← unplaced (e.callIn s)
    st.around (st.indentNext || (onOwnLine && st.atLineEnd)) fun st =>
      match Helper.named? call.name with
      | none => .error ⟨.helperNotFound call.name, none⟩
      | some h => renderBlock render h call e body inverse st
  | .decorator e body => unplaced (runDecorator s e body st)
  | .partialCall e body indent onOwnLine => renderPartial render s e body indent onOwnLine st
  | .comment => .ok st

/-- Renders a template whose blocks and partials are nested at most so deep. -/
def renderTemplate : Nat → Json → RenderBody
  | 0, _ => fun _ _ => .error ⟨.tooDeep, none⟩
  | depth + 1, root => fun t st =>
    t.foldlM (fun st (position, element) =>
      placed position (renderElement (renderTemplate depth root) root element st)) st

/-- How deep blocks and partials may be nested in a template of so many characters: every level of a
context can be met once more. -/
def depthFor (length : Nat) : Nat := 128 * (length + 1)

/-- The text that a template gives for a context. -/
def render (source : String) (context : Json) : Except Fault String :=
  match Template.parse source.toList with
  | .error p => .error (.notTemplate p)
  | .ok t =>
    match renderTemplate (depthFor source.length) context t {} with
    | .ok st => .ok st.output
    | .error f => .error (.notRendered f)

end MailTemplates.Handlebars
