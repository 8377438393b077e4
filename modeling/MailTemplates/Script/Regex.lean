import MailTemplates.Script.CharSet
/-!
# Regular expressions

An expression is looked for in a text: it fits at the first place where it can, and of the ways to
fit there the one that takes most counts. Expressions are written in a basic and in an extended way;
they differ in which signs need a backslash.

Matching goes through the expression and hands the rest of the match on as a function. An explorer
is given a place, the best end that has been found so far, and what is to be done with each place it
comes to; so all ways to match are tried, and the longest is kept. Repetitions are bounded by the
length of the text.
-/

namespace MailTemplates.Script

/-- A regular expression. -/
inductive Regex where
  | empty
  | char (c : Char)
  | any
  | oneOf (set : CharSet)
  | textStart
  | textEnd
  /-- Between a letter and something else, or not. -/
  | edge (isEdge : Bool)
  | wordStart
  | wordEnd
  | seq (first second : Regex)
  | either (first second : Regex)
  | times (least : Nat) (most : Option Nat) (inner : Regex)
  | group (number : Nat) (inner : Regex)
  /-- What a group has taken. -/
  | again (number : Nat)
deriving Repr

namespace Regex

/-! ## Matching -/

/-- A place in a text, and what groups have taken on the way to it. -/
structure Spot where
  /-- What stands in front of the place, the nearest first. -/
  before : List Char
  after : List Char
  position : Nat
  groups : List (Nat × List Char)

/-- Whether a character is part of a word. -/
def isWordChar (c : Char) : Bool := c.isAlphanum || c == '_'

/-- The places where something fits from a place on: each one is given to the rest of the match,
with the best end that is known. -/
abbrev Explorer := Spot → Option Spot → (Spot → Option Spot → Option Spot) → Option Spot

/-- Takes a character. -/
private def takeChar (test : Char → Bool) : Explorer := fun s best next =>
  match s.after with
  | c :: cs =>
    if test c then
      next { s with before := c :: s.before, after := cs, position := s.position + 1 } best
    else best
  | [] => best

private def takeText : List Char → Explorer
  | [], s, best, next => next s best
  | d :: ds, s, best, next => takeChar (· == d) s best fun s best => takeText ds s best next

/-- Goes on if a condition holds. -/
private def onlyIf (b : Bool) : Explorer := fun s best next => if b then next s best else best

private def wordBefore (s : Spot) : Bool := s.before.head?.any isWordChar

private def wordAfter (s : Spot) : Bool := s.after.head?.any isWordChar

/-- Nothing is better than an end of the text. -/
private def isBest (best : Option Spot) : Bool := best.any fun s => s.after.isEmpty

/-- Takes something as often as possible, then less often. -/
def repeatedly (step : Explorer) (least : Nat) (most : Option Nat) : Nat → Nat → Explorer
  | 0, _, s, best, next => next s best
  | fuel + 1, count, s, best, next =>
    let best :=
      if most.all (count < ·) then
        step s best fun t best =>
          if t.position == s.position && least ≤ count then best
          else repeatedly step least most fuel (count + 1) t best next
      else best
    if count < least || isBest best then best else next s best

/-- Whether a test holds of a character, or of its other case if that does not matter. -/
private def inCase (folding : Bool) (test : Char → Bool) (c : Char) : Bool :=
  test c || (folding && (test c.toLower || test c.toUpper))

/-- The places where an expression can end. -/
def explore (folding : Bool) : Regex → Explorer
  | .empty => fun s best next => next s best
  | .char d => takeChar (inCase folding (· == d))
  | .any => takeChar fun _ => true
  | .oneOf set => takeChar (inCase folding set.mem)
  | .textStart => fun s => onlyIf s.before.isEmpty s
  | .textEnd => fun s => onlyIf s.after.isEmpty s
  | .edge isEdge => fun s => onlyIf ((wordBefore s != wordAfter s) == isEdge) s
  | .wordStart => fun s => onlyIf (!wordBefore s && wordAfter s) s
  | .wordEnd => fun s => onlyIf (wordBefore s && !wordAfter s) s
  | .seq a b => fun s best next =>
    explore folding a s best fun s best => explore folding b s best next
  | .either a b => fun s best next =>
    -- An end of the whole text cannot be improved on, so the other side is left out then.
    let best := explore folding a s best next
    if isBest best then best else explore folding b s best next
  | .times least most a => fun s =>
    repeatedly (explore folding a) least most (s.after.length + least + 1) 0 s
  | .group n a => fun s best next =>
    -- What a group takes is noted for the rest of the match only.
    explore folding a s best fun t best =>
      let taken := (t.before.take (t.position - s.position)).reverse
      next { t with groups := (n, taken) :: t.groups } best
  | .again n => fun s => takeText ((s.groups.lookup n).getD []) s

/-- The better of two ends: the one that takes more, or the one found first. -/
def better (s : Spot) : Option Spot → Option Spot
  | none => some s
  | some t => if t.position < s.position then some s else some t

/-- A match: what is in front of it, what it takes, and what groups take. -/
structure Match where
  before : List Char
  taken : List Char
  after : List Char
  groups : List (Nat × List Char)

/-- Looks for an expression from a place on. -/
def search (r : Regex) (folding : Bool) : Nat → Spot → Option Match
  | 0, _ => none
  | fuel + 1, s =>
    match explore folding r s none better with
    | some t =>
      some { before := s.before.reverse, taken := (t.before.take (t.position - s.position)).reverse,
             after := t.after, groups := t.groups }
    | none =>
      match s.after with
      | c :: cs =>
        search r folding fuel
          { before := c :: s.before, after := cs, position := s.position + 1, groups := [] }
      | [] => none

/-- The first match in a text. -/
def find? (r : Regex) (folding : Bool) (cs : List Char) : Option Match :=
  search r folding (cs.length + 1) ⟨[], cs, 0, []⟩

/-- All matches in a text that do not overlap; an empty one does not follow another at once. -/
def matchesFrom (r : Regex) (folding : Bool) : Nat → Spot → Bool → List Match
  | 0, _, _ => []
  | fuel + 1, s, behindMatch =>
    match search r folding (s.after.length + 1) s with
    | none => []
    | some m =>
      let here : Spot :=
        ⟨m.taken.reverse ++ m.before.reverse, m.after, m.before.length + m.taken.length, []⟩
      if m.taken.isEmpty then
        let empty := if behindMatch && m.before.length == s.position then [] else [m]
        match m.after with
        | [] => empty
        | c :: cs =>
          empty ++ matchesFrom r folding fuel
            ⟨c :: here.before, cs, here.position + 1, []⟩ false
      else m :: matchesFrom r folding fuel here true

/-- All matches in a text. -/
def findAll (r : Regex) (folding : Bool) (cs : List Char) : List Match :=
  matchesFrom r folding (2 * cs.length + 2) ⟨[], cs, 0, []⟩ false

/-! ## Reading -/

/-- A sign of a written expression. -/
private inductive Sign where
  | one (r : Regex)
  | opening
  | closing
  | bar
  | times (least : Nat) (most : Option Nat)

private def wordSet : CharSet := ⟨false, [('0', '9'), ('A', 'Z'), ('_', '_'), ('a', 'z')]⟩

private def blankSet : CharSet := ⟨false, [('\t', '\r'), (' ', ' ')]⟩

/-- How often something is repeated, as braces say, and what follows. -/
private def interval? (extended : Bool) (cs : List Char) :
    Option (Nat × Option Nat × List Char) :=
  let number (ds : List Char) : Nat := ds.foldl (fun n c => n * 10 + (c.toNat - 0x30)) 0
  let low := cs.takeWhile Char.isDigit
  let closed (least : Nat) (most : Option Nat) (rest : List Char) :
      Option (Nat × Option Nat × List Char) :=
    match extended, rest with
    | true, '\x7d' :: rest => some (least, most, rest)
    | false, '\\' :: '\x7d' :: rest => some (least, most, rest)
    | _, _ => none
  match cs.drop low.length with
  | ',' :: rest =>
    let high := rest.takeWhile Char.isDigit
    closed (number low) (if high.isEmpty then none else some (number high)) (rest.drop high.length)
  | rest => if low.isEmpty then none else closed (number low) (some (number low)) rest

/-- What a backslash in front of a character means besides signs of the two ways to write. -/
private def escaped (c : Char) : Regex :=
  match c with
  | 'n' => .char '\n'
  | 't' => .char '\t'
  | 'w' => .oneOf wordSet
  | 'W' => .oneOf wordSet.complement
  | 's' => .oneOf blankSet
  | 'S' => .oneOf blankSet.complement
  | 'b' => .edge true
  | 'B' => .edge false
  | '<' => .wordStart
  | '>' => .wordEnd
  | '\x60' => .textStart
  | '\'' => .textEnd
  | _ => if c.isDigit && c != '0' then .again (c.toNat - 0x30) else .char c

/-- Whether a basic expression is at an end of a part in front of a text. -/
private def endsPart (cs : List Char) : Bool :=
  cs.isEmpty || "\\)".toList.isPrefixOf cs || "\\|".toList.isPrefixOf cs

/-- Cuts an expression into signs. `first` holds at the start of a part, where signs that repeat
stand for themselves. -/
private def signs (extended : Bool) : Nat → Bool → List Char → Option (List Sign)
  | 0, _, _ => some []
  | _ + 1, _, [] => some []
  | fuel + 1, first, c :: cs =>
    let single (r : Regex) (rest : List Char) : Option (List Sign) :=
      (signs extended fuel false rest).map (.one r :: ·)
    let starting (s : Sign) (rest : List Char) : Option (List Sign) :=
      (signs extended fuel true rest).map (s :: ·)
    let joining (s : Sign) (rest : List Char) : Option (List Sign) :=
      (signs extended fuel false rest).map (s :: ·)
    let repeated (least : Nat) (most : Option Nat) (rest : List Char) : Option (List Sign) :=
      if first then single (.char c) cs else joining (.times least most) rest
    match c with
    | '.' => single .any cs
    | '[' => (CharSet.read? ['^'] cs).bind fun (set, rest) => single (.oneOf set) rest
    | '*' => repeated 0 none cs
    | '^' =>
      if extended || first then (signs extended fuel true cs).map (.one .textStart :: ·)
      else single (.char c) cs
    | '$' => if extended || endsPart cs then single .textEnd cs else single (.char c) cs
    | '\\' =>
      match cs with
      | [] => none
      | d :: rest =>
        if extended then single (escaped d) rest
        else
          match d with
          | '(' => starting .opening rest
          | ')' => joining .closing rest
          | '|' => starting .bar rest
          | '+' => if first then single (.char d) rest else joining (.times 1 none) rest
          | '?' => if first then single (.char d) rest else joining (.times 0 (some 1)) rest
          | '\x7b' =>
            (interval? false rest).bind fun (least, most, rest) => joining (.times least most) rest
          | _ => single (escaped d) rest
    | _ =>
      if !extended then single (.char c) cs
      else
        match c with
        | '(' => starting .opening cs
        | ')' => joining .closing cs
        | '|' => starting .bar cs
        | '+' => repeated 1 none cs
        | '?' => repeated 0 (some 1) cs
        | '\x7b' =>
          match interval? true cs with
          | some (least, most, rest) => repeated least most rest
          | none => single (.char c) cs
        | _ => single (.char c) cs

mutual
/-- Reads parts between bars. Gives the expression, the number of groups so far and the rest. -/
private def readEither : Nat → Nat → List Sign → Option (Regex × Nat × List Sign)
  | 0, _, _ => none
  | fuel + 1, groups, ss => do
    let (a, groups, rest) ← readSeq fuel groups .empty ss
    match rest with
    | .bar :: rest =>
      let (b, groups, rest) ← readEither fuel groups rest
      return (.either a b, groups, rest)
    | _ => return (a, groups, rest)

/-- Reads one after another. -/
private def readSeq : Nat → Nat → Regex → List Sign → Option (Regex × Nat × List Sign)
  | 0, _, _, _ => none
  | fuel + 1, groups, done, ss =>
    let repeated (r : Regex) (groups : Nat) (rest : List Sign) :
        Option (Regex × Nat × List Sign) :=
      let (r, rest) := timesOf rest.length r rest
      readSeq fuel groups (match done with
        | .empty => r
        | _ => .seq done r) rest
    match ss with
    | .one r :: rest => repeated r groups rest
    | .opening :: rest => do
      let number := groups + 1
      match ← readEither fuel number rest with
      | (r, groups, .closing :: rest) => repeated (.group number r) groups rest
      | _ => none
    | .times _ _ :: rest => readSeq fuel groups done rest
    | _ => some (done, groups, ss)

/-- Repeats as the signs behind say. -/
private def timesOf : Nat → Regex → List Sign → Regex × List Sign
  | fuel + 1, r, .times least most :: rest => timesOf fuel (.times least most r) rest
  | _, r, rest => (r, rest)
end

/-- The expression that a text writes. -/
def read? (extended : Bool) (cs : List Char) : Option Regex := do
  let ss ← signs extended (cs.length + 1) true cs
  match ← readEither (2 * ss.length + 2) 0 ss with
  | (r, _, []) => return r
  | _ => none

end Regex

end MailTemplates.Script
