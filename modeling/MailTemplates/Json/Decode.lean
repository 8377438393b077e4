import MailTemplates.Json.Parser
/-!
# Reading a JSON text as something expected

Readers for strings, optional strings, lists of strings and plain objects. Where the text holds
another form of value the fault names what was found and what was expected; it is put behind a short
value and in front of a container.
-/

namespace MailTemplates.Json.Cursor

/-- The fault of finding another form of value than the expected one; the cursor stands at it. -/
def mismatch (expected : String) (c : Cursor) : Fault :=
  let found (f : Found) (c : Cursor) : Fault := c.here (.invalidType f expected)
  let after (f : Found) : Except Fault Cursor → Fault
    | .ok c => found f c
    | .error e => e
  match c.rest with
  | 'n' :: _ => after .null (c.advance.ident "ull".toList)
  | 't' :: _ => after (.bool true) (c.advance.ident "rue".toList)
  | 'f' :: _ => after (.bool false) (c.advance.ident "alse".toList)
  | '-' :: _ =>
    match c.advance.number true with
    | .ok (n, c) => found (.number n) c
    | .error e => e
  | '"' :: _ =>
    match c.advance.string with
    | .ok (s, c) => found (.string s) c
    | .error e => e
  | '[' :: _ => found .array c
  | '{' :: _ => found .object c
  | d :: _ =>
    if d.isDigit then
      match c.number false with
      | .ok (n, c) => found (.number n) c
      | .error e => e
    else c.ahead .valueExpected
  | [] => c.ahead .valueMissing

/-- Reads a string. -/
def stringValue (c : Cursor) : Except Fault (String × Cursor) :=
  let c := c.skipBlanks
  match c.rest with
  | '"' :: _ => c.advance.string
  | _ => .error (c.mismatch "a string")

/-- Reads a string, or `null` for none. -/
def optionalString (c : Cursor) : Except Fault (Option String × Cursor) :=
  let c := c.skipBlanks
  match c.rest with
  | 'n' :: _ => do return (none, ← c.advance.ident "ull".toList)
  | _ => do
    let (s, c) ← c.stringValue
    return (some s, c)

/-- Reads a list with a reader of its items, which gets the depth left inside. -/
def listOf {α : Type} (item : Nat → Cursor → Except Fault (α × Cursor)) (depth : Nat) (c : Cursor) :
    Except Fault (List α × Cursor) :=
  let c := c.skipBlanks
  match c.rest with
  | '[' :: _ =>
    if depth ≤ 1 then .error (c.ahead .nestedTooDeep)
    else do
      let (as, c) ← items (fun as c => do
        let (a, c) ← item (depth - 1) c
        return (a :: as, c)) (c.rest.length + 1) true [] c.advance
      return (as.reverse, c)
  | _ => .error (c.mismatch "a sequence")

/-- Reads a list of strings. -/
def stringList (depth : Nat) (c : Cursor) : Except Fault (List String × Cursor) :=
  listOf (fun _ => stringValue) depth c

/-- Goes through the members of an object that is expected under a name. -/
def objectAs {σ : Type} (expected : String)
    (member : Nat → σ → String → Cursor → Except Fault (σ × Cursor)) (init : σ) (depth : Nat)
    (c : Cursor) : Except Fault (σ × Cursor) :=
  let c := c.skipBlanks
  match c.rest with
  | '{' :: _ =>
    if depth ≤ 1 then .error (c.ahead .nestedTooDeep)
    else members (member (depth - 1)) (c.rest.length + 1) true init c.advance
  | _ => .error (c.mismatch expected)

/-- Goes through the members of an object, or the first items of a list that has them without keys,
in their order; more items than there are members are none that can be there. -/
def recordAs {σ : Type} (expected : String)
    (member : Nat → σ → String → Cursor → Except Fault (σ × Cursor))
    (item : Nat → Nat → σ → Cursor → Except Fault (σ × Cursor)) (count : Nat) (init : σ)
    (depth : Nat) (c : Cursor) : Except Fault (σ × Cursor) :=
  let c := c.skipBlanks
  match c.rest with
  | '[' :: _ =>
    if depth ≤ 1 then .error (c.ahead .nestedTooDeep)
    else do
      let ((_, acc), c) ← items (fun (i, acc) c => do
        if i < count then
          let (acc, c) ← item (depth - 1) i acc c
          return ((i + 1, acc), c)
        else throw (c.ahead .trailingCharacters)) (c.rest.length + 1) true (0, init) c.advance
      return (acc, c)
  | _ => objectAs expected member init depth c

/-- Reads the value of a member, the colon included, and sets it. -/
def setMember (depth : Nat) (ms : Members) (key : String) (c : Cursor) :
    Except Fault (Members × Cursor) := do
  let (v, c) ← value depth (← c.colon)
  return (ms.insert key v, c)

/-- Reads an object of any members. -/
def plainObject (depth : Nat) (c : Cursor) : Except Fault (Members × Cursor) :=
  objectAs "a map" setMember [] depth c

/-- The fault of a key that is there twice, noticed behind its second occurrence. -/
def duplicate (key : String) (c : Cursor) : Fault := c.afterObject.here (.duplicateField key)

end MailTemplates.Json.Cursor
