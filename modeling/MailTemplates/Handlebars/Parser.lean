import MailTemplates.Handlebars.Fault
import MailTemplates.Handlebars.Whitespace
/-!
# Reading templates

The tokens of a template are nested into blocks. A text is refused if something in it that starts
like a tag is none, or if its blocks do not nest; then, in the order of the text, if a block is
closed by another name or a literal is no JSON.

Nesting is checked on the tokens alone, before anything is built, so that the recursion over the
tokens need not care for tags that cannot stand where they are. What is left to be found while
building is reported at the first place in the text.
-/

namespace MailTemplates.Handlebars

/-! ## Nesting -/

/-- An open block, and whether its `{{else}}` has been met. -/
abbrev Frame := BlockKind × Bool

/-- The open blocks after one more token; nothing if it may not stand there. -/
def nest (stack : List Frame) : Token → Option (List Frame)
  | .text _ => some stack
  | .rawText _ => some stack
  | .tag _ tag =>
    match tag.kind, stack with
    | .opens kind, _ => some ((kind, false) :: stack)
    | .otherwise, (.helper, false) :: rest => some ((.helper, true) :: rest)
    | .otherwise, _ => none
    | .chain, (.helper, false) :: _ => some stack
    | .chain, _ => none
    | .closes byName byPartialName, (kind, _) :: rest =>
      if (if kind == .ofPartial then byPartialName else byName) then some rest else none
    | .closes _ _, [] => none
    | _, _ => some stack

/-- Whether every block is closed, and every branch is inside a block of a helper. -/
def nests (ts : List Token) : Bool :=
  match ts.foldlM nest [] with
  | some [] => true
  | _ => false

/-! ## Building -/

private def sound (tag : Tag) : Except SyntaxProblem Unit :=
  match tag.bad with
  | some source => .error (.invalidParam source)
  | none => .ok ()

private def orEmpty (name : Option String) : String := name.getD ""

/-- The tokens behind the tag that closes a block. It has to have the name that the opening tag has;
only for decorators and partials may the name be left out. -/
def closed (opened : Option String) (decorator : Bool) : List Token →
    Except SyntaxProblem (List Token)
  | .tag _ tag :: rest =>
    match tag.kind with
    | .closes _ _ =>
      let name := tag.expression.name.plainName
      let problem := if decorator then SyntaxProblem.mismatchedDecorator else .mismatchedBlock
      if opened == name || decorator && name == some "" then .ok rest
      else .error (problem (orEmpty opened) (orEmpty name))
    | _ => .error .invalid
  | _ => .error .invalid

mutual
/-- The elements up to the tag that ends the body of a block, and the tokens from that on. -/
def body : Nat → List Token → Except SyntaxProblem (Template × List Token)
  | 0, _ => .error .invalid
  | _ + 1, [] => .ok ([], [])
  | fuel + 1, token :: rest =>
    match token with
    | .text cs => do
      let (more, rest) ← body fuel rest
      return ((none, .text (String.ofList cs)) :: more, rest)
    | .rawText cs => do
      let (more, rest) ← body fuel rest
      return ((none, .text (String.ofList cs)) :: more, rest)
    | .tag site tag => do
      let placed (e : Element) : Option Position × Element := (some site.position, e)
      let e := tag.expression
      match tag.kind with
      -- Whoever has opened the block deals with these; they stay in front of the rest.
      | .otherwise => return ([], token :: rest)
      | .chain => return ([], token :: rest)
      | .closes _ _ => return ([], token :: rest)
      | .comment =>
        let (more, rest) ← body fuel rest
        return (placed .comment :: more, rest)
      | .value escaped =>
        sound tag
        let (more, rest) ← body fuel rest
        return (placed (.value escaped e) :: more, rest)
      | .decorator =>
        sound tag
        let (more, rest) ← body fuel rest
        return (placed (.decorator e none) :: more, rest)
      | .partialCall =>
        sound tag
        let indent :=
          if tag.trimBefore || site.indent.isEmpty then none else some (String.ofList site.indent)
        let (more, rest) ← body fuel rest
        return (placed (.partialCall e none indent site.blankBefore) :: more, rest)
      | .opens .helper =>
        sound tag
        let (element, rest) ← branches fuel e.name.plainName e site.blankBefore rest
        let (more, rest) ← body fuel rest
        return (placed element :: more, rest)
      | .opens kind =>
        sound tag
        let (inner, rest) ← body fuel rest
        let rest ← closed e.name.plainName true rest
        let (more, rest) ← body fuel rest
        let element := if kind == .decorator then Element.decorator e (some inner)
          else .partialCall e (some inner) none site.blankBefore
        return (placed element :: more, rest)

/-- A block of a helper from behind its opening tag on, with its other branches. -/
def branches : Nat → Option String → Expression → Bool → List Token →
    Except SyntaxProblem (Element × List Token)
  | 0, _, _, _, _ => .error .invalid
  | fuel + 1, opened, e, onOwnLine, ts => do
    let (first, rest) ← body fuel ts
    match rest with
    | .tag site tag :: more =>
      match tag.kind with
      | .otherwise =>
        let (second, rest) ← body fuel more
        let rest ← closed opened false rest
        return (.block e first (some second) onOwnLine, rest)
      | .chain =>
        sound tag
        let (inner, rest) ← branches fuel opened tag.expression site.blankBefore more
        return (.block e first (some [(none, inner)]) onOwnLine, rest)
      | _ =>
        let rest ← closed opened false rest
        return (.block e first none onOwnLine, rest)
    | _ => throw .invalid
end

/-- The template that a text writes. -/
def Template.parse (source : List Char) : Except SyntaxProblem Template :=
  match tokens source with
  | none => .error .invalid
  | some ts =>
    if nests ts then do
      let (template, _) ← body (ts.length + 1) (trimTokens ts)
      return template
    else .error .invalid

end MailTemplates.Handlebars
