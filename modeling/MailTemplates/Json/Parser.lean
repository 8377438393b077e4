import MailTemplates.Json.Cursor
/-!
# Reading JSON

Whole values, values that are only skipped, and the two ways to go through a container with a
function of one's own for each item or member. Lists and objects may be nested 127 deep.

A container is gone through by one function (`items`, `members`), whatever becomes of its parts:
they may be collected, skipped, or read as a type of their own. It is given what to do with each
part and a value that is handed on from part to part.
-/

namespace MailTemplates.Json

namespace Cursor

/-! ## Containers -/

/-- Reads what follows a complete list or precedes its end: the closing bracket, or the fault that
stands in its place. -/
def closeList (c : Cursor) : Except Fault Cursor :=
  let c := c.skipBlanks
  match c.rest with
  | ']' :: _ => .ok c.advance
  | ',' :: _ =>
    let d := c.advance.skipBlanks
    match d.rest with
    | ']' :: _ => .error (d.ahead .trailingComma)
    | _ => .error (d.ahead .trailingCharacters)
  | [] => .error (c.ahead .listUnfinished)
  | _ => .error (c.ahead .trailingCharacters)

/-- What comes next in a list: its end, or the cursor at the next item. -/
def nextItem (first : Bool) (c : Cursor) : Except Fault (Option Cursor) :=
  let c := c.skipBlanks
  match c.rest with
  | [] => .error (c.ahead .listUnfinished)
  | ']' :: _ => .ok none
  | ',' :: _ =>
    if first then .ok (some c)
    else
      let d := c.advance.skipBlanks
      match d.rest with
      | ']' :: _ => .error (d.ahead .trailingComma)
      | [] => .error (d.ahead .valueMissing)
      | _ => .ok (some d)
  | _ => if first then .ok (some c) else .error (c.ahead .listCommaOrEndExpected)

/-- Goes through the items of a list whose bracket has been read, up to and with its end. -/
def items {σ : Type} (item : σ → Cursor → Except Fault (σ × Cursor)) :
    Nat → Bool → σ → Cursor → Except Fault (σ × Cursor)
  | 0, _, _, c => .error (c.ahead .listUnfinished)
  | fuel + 1, first, acc, c => do
    match ← nextItem first c with
    | none => return (acc, ← closeList c)
    | some c =>
      let (acc, c) ← item acc c
      items item fuel false acc c

/-- What comes next in an object: its end, or the cursor behind the quote of the next key. -/
def nextKey (first : Bool) (c : Cursor) : Except Fault (Option Cursor) :=
  let c := c.skipBlanks
  match c.rest with
  | [] => .error (c.ahead .objectUnfinished)
  | '}' :: _ => .ok none
  | '"' :: _ => if first then .ok (some c.advance) else .error (c.ahead .objectCommaOrEndExpected)
  | ',' :: _ =>
    if first then .error (c.ahead .keyNotString)
    else
      let d := c.advance.skipBlanks
      match d.rest with
      | '"' :: _ => .ok (some d.advance)
      | '}' :: _ => .error (d.ahead .trailingComma)
      | [] => .error (d.ahead .valueMissing)
      | _ => .error (d.ahead .keyNotString)
  | _ => .error (c.ahead (if first then .keyNotString else .objectCommaOrEndExpected))

/-- Reads the colon between a key and its value. -/
def colon (c : Cursor) : Except Fault Cursor :=
  let c := c.skipBlanks
  match c.rest with
  | ':' :: _ => .ok c.advance
  | [] => .error (c.ahead .objectUnfinished)
  | _ => .error (c.ahead .colonExpected)

/-- Goes through the members of an object whose brace has been read, up to and with its end. The
function gets each key and the cursor before the colon. -/
def members {σ : Type} (member : σ → String → Cursor → Except Fault (σ × Cursor)) :
    Nat → Bool → σ → Cursor → Except Fault (σ × Cursor)
  | 0, _, _, c => .error (c.ahead .objectUnfinished)
  | fuel + 1, first, acc, c => do
    match ← nextKey first c with
    | none => return (acc, c.skipBlanks.advance)
    | some c =>
      let (key, c) ← c.string
      let (acc, c) ← member acc key c
      members member fuel false acc c

/-- The cursor behind the end of an object, if that comes next; the place to which a fault of the
object as a whole is put. -/
def afterObject (c : Cursor) : Cursor :=
  let c := c.skipBlanks
  match c.rest with
  | '}' :: _ => c.advance
  | _ => c

/-! ## Values -/

/-- Reads a value at most `depth - 1` containers deep. -/
def valueFrom : Nat → Nat → Cursor → Except Fault (Json × Cursor)
  | 0, _, c => .error (c.ahead .nestedTooDeep)
  | fuel + 1, depth, c =>
    let c := c.skipBlanks
    match c.rest with
    | [] => .error (c.ahead .valueMissing)
    | 'n' :: _ => do return (.null, ← c.advance.ident "ull".toList)
    | 't' :: _ => do return (.bool true, ← c.advance.ident "rue".toList)
    | 'f' :: _ => do return (.bool false, ← c.advance.ident "alse".toList)
    | '-' :: _ => do
      let (n, c) ← c.advance.number true
      return (.number n, c)
    | '"' :: _ => do
      let (s, c) ← c.advance.string
      return (.string s, c)
    | '[' :: _ =>
      if depth ≤ 1 then .error (c.ahead .nestedTooDeep)
      else do
        let (vs, c) ← items (fun vs c => do
          let (v, c) ← valueFrom fuel (depth - 1) c
          return (v :: vs, c)) (c.rest.length + 1) true [] c.advance
        return (.array vs.reverse, c)
    | '{' :: _ =>
      if depth ≤ 1 then .error (c.ahead .nestedTooDeep)
      else do
        let (ms, c) ← members (fun ms k c => do
          let (v, c) ← valueFrom fuel (depth - 1) (← c.colon)
          return (Members.insert ms k v, c)) (c.rest.length + 1) true [] c.advance
        return (.object ms, c)
    | d :: _ =>
      if d.isDigit then do
        let (n, c) ← c.number false
        return (.number n, c)
      else .error (c.ahead .valueExpected)

/-- How deep containers may be nested, counting one more. -/
def depthLimit : Nat := 128

/-- Reads a value inside `depthLimit - depth` containers. -/
def value (depth : Nat) (c : Cursor) : Except Fault (Json × Cursor) :=
  valueFrom (c.rest.length + 1) depth c

/-! ## Values that are not kept -/

private def skipString : Nat → Cursor → Except Fault Cursor
  | 0, c => .error (c.here .stringUnfinished)
  | fuel + 1, c =>
    match c.rest with
    | [] => .error (c.here .stringUnfinished)
    | '"' :: _ => .ok c.advance
    | '\\' :: _ =>
      let c := c.advance
      match c.rest with
      | [] => .error (c.here .stringUnfinished)
      | 'u' :: _ => do
        let (_, c) ← c.advance.hexEscape
        skipString fuel c
      | e :: _ =>
        if (shortEscape? e).isSome then skipString fuel c.advance
        else .error (c.ahead .invalidEscape)
    | d :: _ =>
      if d.toNat < 0x20 then .error (c.here .controlCharacter) else skipString fuel c.advance

private def atDigit (c : Cursor) : Bool :=
  match c.rest with
  | d :: _ => d.isDigit
  | [] => false

private def skipDigitsOf : Nat → Cursor → Cursor
  | 0, c => c
  | fuel + 1, c => if atDigit c then skipDigitsOf fuel c.advance else c

private def skipExponent (c : Cursor) : Except Fault Cursor :=
  match c.rest with
  | 'e' :: _ | 'E' :: _ =>
    let c := c.advance
    let c := match c.rest with
      | '+' :: _ | '-' :: _ => c.advance
      | _ => c
    if atDigit c then .ok (skipDigitsOf c.rest.length c) else .error (c.ahead .invalidNumber)
  | _ => .ok c

private def skipNumber (c : Cursor) : Except Fault Cursor :=
  if !atDigit c then .error (c.ahead .invalidNumber)
  else
    let leadingZero := c.rest.head? == some '0'
    let c := c.advance
    if leadingZero && atDigit c then .error (c.ahead .invalidNumber)
    else
      let c := skipDigitsOf c.rest.length c
      match c.rest with
      | '.' :: _ =>
        let c := c.advance
        if atDigit c then skipExponent (skipDigitsOf c.rest.length c)
        else .error (c.ahead .invalidNumber)
      | _ => skipExponent c

/-- Skips a value at any depth: its words and brackets are checked, but not its number ranges nor
its surrogate pairs. -/
def skipFrom : Nat → Cursor → Except Fault Cursor
  | 0, c => .error (c.ahead .valueMissing)
  | fuel + 1, c =>
    let c := c.skipBlanks
    match c.rest with
    | [] => .error (c.ahead .valueMissing)
    | 'n' :: _ => c.advance.ident "ull".toList
    | 't' :: _ => c.advance.ident "rue".toList
    | 'f' :: _ => c.advance.ident "alse".toList
    | '-' :: _ => skipNumber c.advance
    | '"' :: _ => skipString (c.rest.length + 1) c.advance
    | '[' :: _ => more fuel false (c.rest.length + 1) true c.advance
    | '{' :: _ => more fuel true (c.rest.length + 1) true c.advance
    | d :: _ => if d.isDigit then skipNumber c else .error (c.ahead .valueExpected)
where
  /-- One item, or one key with its value. -/
  entry (fuel : Nat) (object : Bool) (c : Cursor) : Except Fault Cursor :=
    if object then
      let c := c.skipBlanks
      match c.rest with
      | '"' :: _ => do
        let c ← skipString (c.rest.length + 1) c.advance
        skipFrom fuel (← c.colon)
      | [] => .error (c.ahead .objectUnfinished)
      | _ => .error (c.ahead .keyNotString)
    else skipFrom fuel c
  /-- The rest of a container, up to and with its end. -/
  more (fuel : Nat) (object : Bool) : Nat → Bool → Cursor → Except Fault Cursor
    | 0, _, c => .error (c.ahead .valueMissing)
    | count + 1, first, c =>
      let c := c.skipBlanks
      match c.rest with
      | [] => .error (c.ahead (if object then .objectUnfinished else .listUnfinished))
      | d :: _ =>
        -- The first part has no comma in front, and every other one has to have it.
        if d == (if object then '}' else ']') then .ok c.advance
        else if first then do more fuel object count false (← entry fuel object c)
        else if d == ',' then do more fuel object count false (← entry fuel object c.advance)
        else
          .error (c.ahead (if object then .objectCommaOrEndExpected else .listCommaOrEndExpected))

/-- Skips a value. -/
def skip (c : Cursor) : Except Fault Cursor := skipFrom (c.rest.length + 1) c

end Cursor

/-- Reads a whole text with a reader of its value: nothing but blanks may follow. -/
def readAll {α : Type} (reader : Cursor → Except Fault (α × Cursor)) (s : String) :
    Except Fault α := do
  let (a, c) ← reader (Cursor.start s)
  let c := c.skipBlanks
  match c.rest with
  | [] => return a
  | _ => throw (c.ahead .trailingCharacters)

/-- The value that a text writes. -/
def parse (s : String) : Except Fault Json := readAll (Cursor.value Cursor.depthLimit) s

end MailTemplates.Json
