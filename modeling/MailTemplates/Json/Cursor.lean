import MailTemplates.Json.Fault
/-!
# A place in a JSON text

The characters that are still to be read, and the line and column reached. Reading a token gives its
value and the cursor behind it; a fault is reported either at the cursor or one byte ahead of it.

Numbers are read with one pass over their digits. Digits are added to the significand as long as
that stays within 64 bits; the others count for the exponent only. What results is a significand and
a decimal exponent, and these are rounded in two steps (`scale`): so the number is near to what is
written, but not always the nearest.
-/

namespace MailTemplates.Json

open MailTemplates.Number (Binary64)

/-- A place in a text. -/
structure Cursor where
  rest : List Char
  line : Nat
  column : Nat
deriving Repr

namespace Cursor

/-- The start of a text. -/
def start (s : String) : Cursor := ⟨s.toList, 1, 0⟩

/-- The cursor behind the next character; at the end it stays. -/
def advance (c : Cursor) : Cursor :=
  match c.rest with
  | [] => c
  | '\n' :: cs => ⟨cs, c.line + 1, 0⟩
  | d :: cs => ⟨cs, c.line, c.column + d.utf8Size⟩

/-- A fault at the cursor. -/
def here (c : Cursor) (p : Problem) : Fault := ⟨p, c.line, c.column⟩

/-- A fault one byte ahead of the cursor. -/
def ahead (c : Cursor) (p : Problem) : Fault :=
  match c.rest with
  | [] => ⟨p, c.line, c.column⟩
  | '\n' :: _ => ⟨p, c.line + 1, 0⟩
  | _ :: _ => ⟨p, c.line, c.column + 1⟩

/-- A fault a number of bytes ahead of the cursor. -/
def aheadBy (p : Problem) : Nat → Cursor → Fault
  | 0, c => c.here p
  | n + 1, c =>
    match c.rest with
    | [] => c.here p
    | d :: _ =>
      if d.utf8Size ≤ n + 1 then aheadBy p (n + 1 - d.utf8Size) c.advance
      else ⟨p, c.line, c.column + (n + 1)⟩
termination_by n => n
decreasing_by
  have : 0 < d.utf8Size := Char.utf8Size_pos d
  omega

/-- Blanks between tokens. -/
def isBlank (c : Char) : Bool := c == ' ' || c == '\n' || c == '\t' || c == '\r'

private def skipBlanksFrom : List Char → Nat → Nat → Cursor
  | [], line, column => ⟨[], line, column⟩
  | c :: cs, line, column =>
    if c == '\n' then skipBlanksFrom cs (line + 1) 0
    else if isBlank c then skipBlanksFrom cs line (column + 1)
    else ⟨c :: cs, line, column⟩

/-- The cursor behind the blanks that come next. -/
def skipBlanks (c : Cursor) : Cursor := skipBlanksFrom c.rest c.line c.column

/-! ## Words -/

/-- Reads the remaining letters of `null`, `true` or `false`. -/
def ident : List Char → Cursor → Except Fault Cursor
  | [], c => .ok c
  | w :: ws, c =>
    match c.rest with
    | [] => .error (c.here .valueMissing)
    | d :: _ => if d = w then ident ws c.advance else .error (c.ahead .identExpected)

/-! ## Strings -/

private def hexValue? (c : Char) : Option Nat :=
  if '0' ≤ c && c ≤ '9' then some (c.toNat - '0'.toNat)
  else if 'a' ≤ c && c ≤ 'f' then some (c.toNat - 'a'.toNat + 10)
  else if 'A' ≤ c && c ≤ 'F' then some (c.toNat - 'A'.toNat + 10)
  else none

/-- Reads four hexadecimal digits. -/
def hexEscape (c : Cursor) : Except Fault (Nat × Cursor) :=
  if (String.ofList (c.rest.take 4)).utf8ByteSize < 4 then
    .error (aheadBy .stringUnfinished 4 c)
  else
    match (c.rest.take 4).mapM hexValue? with
    | some [a, b, d, e] =>
      .ok (((a * 16 + b) * 16 + d) * 16 + e, c.advance.advance.advance.advance)
    | _ => .error (aheadBy .invalidEscape 4 c)

/-- Reads what follows `\u`: one unit, or two that make a pair. -/
def unicodeEscape (c : Cursor) : Except Fault (Char × Cursor) := do
  let (n, c) ← hexEscape c
  if 0xDC00 ≤ n && n ≤ 0xDFFF then throw (c.here .loneSurrogate)
  if n < 0xD800 || 0xDBFF < n then return (Char.ofNat n, c)
  match c.rest with
  | [] => throw (c.here .stringUnfinished)
  | '\\' :: [] => throw (c.advance.here .stringUnfinished)
  | '\\' :: 'u' :: _ =>
    let (m, c) ← hexEscape c.advance.advance
    if m < 0xDC00 || 0xDFFF < m then throw (c.here .loneSurrogate)
    return (Char.ofNat (0x10000 + (n - 0xD800) * 0x400 + (m - 0xDC00)), c)
  | '\\' :: _ :: _ => throw (c.advance.ahead .hexEscapeUnfinished)
  | _ :: _ => throw (c.ahead .hexEscapeUnfinished)

/-- The character of a short escape. -/
def shortEscape? (c : Char) : Option Char :=
  if c = '"' || c = '\\' || c = '/' then some c
  else if c = 'b' then some (Char.ofNat 8)
  else if c = 'f' then some (Char.ofNat 12)
  else if c = 'n' then some '\n'
  else if c = 'r' then some '\r'
  else if c = 't' then some '\t'
  else none

private def stringFrom : Nat → List Char → Cursor → Except Fault (String × Cursor)
  | 0, _, c => .error (c.here .stringUnfinished)
  | fuel + 1, read, c =>
    match c.rest with
    | [] => .error (c.here .stringUnfinished)
    | '"' :: _ => .ok (String.ofList read.reverse, c.advance)
    | '\\' :: _ =>
      let c := c.advance
      match c.rest with
      | [] => .error (c.here .stringUnfinished)
      | 'u' :: _ => do
        let (d, c) ← unicodeEscape c.advance
        stringFrom fuel (d :: read) c
      | e :: _ =>
        match shortEscape? e with
        | some d => stringFrom fuel (d :: read) c.advance
        | none => .error (c.ahead .invalidEscape)
    | d :: _ =>
      if d.toNat < 0x20 then .error (c.ahead .controlCharacter)
      else stringFrom fuel (d :: read) c.advance

/-- Reads a string whose opening quote has been read. -/
def string (c : Cursor) : Except Fault (String × Cursor) := stringFrom (c.rest.length + 1) [] c

/-! ## Numbers -/

private def digit? (c : Cursor) : Option Nat :=
  match c.rest with
  | d :: _ => if d.isDigit then some (d.toNat - '0'.toNat) else none
  | [] => none

private def skipDigits : Nat → Cursor → Cursor
  | 0, c => c
  | fuel + 1, c => if (digit? c).isSome then skipDigits fuel c.advance else c

/-- The greatest significand that is read exactly. -/
def maxSignificand : Nat := Nat.pow 2 64 - 1

/-- A significand scaled by a power of ten: the significand is rounded, then multiplied or divided
by the rounded power, in steps of `10 ^ 308` where that is necessary. -/
def scale : Nat → Binary64 → Int → Option Binary64
  | 0, f, _ => some f
  | fuel + 1, f, e =>
    if e.natAbs ≤ 308 then
      if 0 ≤ e then f.mul? (Binary64.powerOfTen e.natAbs)
      else f.div? (Binary64.powerOfTen e.natAbs)
    else if f.mantissa = 0 then some f
    else if 0 ≤ e then none
    else
      match f.div? (Binary64.powerOfTen 308) with
      | some g => scale fuel g (e + 308)
      | none => none

/-- The binary number of a significand and a decimal exponent. -/
def floatOf (negative : Bool) (significand : Nat) (exponent : Int) (c : Cursor) :
    Except Fault (JsonNumber × Cursor) :=
  match scale 8 (Binary64.ofNat significand) exponent with
  | some f => .ok (.float (if negative then f.neg else f), c)
  | none => .error (c.here .numberOutOfRange)

/-- Digits after the first of an exponent; nothing once they exceed 31 bits. -/
private def exponentDigits : Nat → Nat → Cursor → Option Nat × Cursor
  | 0, acc, c => (some acc, c)
  | fuel + 1, acc, c =>
    match digit? c with
    | none => (some acc, c)
    | some d =>
      if Nat.pow 2 31 - 1 < acc * 10 + d then (none, c.advance)
      else exponentDigits fuel (acc * 10 + d) c.advance

/-- Reads an exponent, from its mark on. -/
def exponentPart (negative : Bool) (significand : Nat) (before : Int) (c : Cursor) :
    Except Fault (JsonNumber × Cursor) :=
  let c := c.advance
  let (down, c) := match c.rest with
    | '+' :: _ => (false, c.advance)
    | '-' :: _ => (true, c.advance)
    | _ => (false, c)
  match c.rest, digit? c with
  | [], _ => .error (c.here .valueMissing)
  | _, none => .error (c.ahead .invalidNumber)
  | _, some d =>
    let c := c.advance
    match exponentDigits c.rest.length d c with
    | (some e, c) => floatOf negative significand (if down then before - e else before + e) c
    | (none, c) =>
      if significand ≠ 0 && !down then .error (c.here .numberOutOfRange)
      else .ok (.float (Binary64.zero negative), skipDigits c.rest.length c)

/-- Digits after the point: the significand, the exponent, and whether digits were dropped because
the significand was full. -/
private def fractionDigits : Nat → Nat → Int → Cursor → Nat × Int × Cursor
  | 0, s, e, c => (s, e, c)
  | fuel + 1, s, e, c =>
    match digit? c with
    | none => (s, e, c)
    | some d =>
      if maxSignificand < s * 10 + d then (s, e, skipDigits c.rest.length c)
      else fractionDigits fuel (s * 10 + d) (e - 1) c.advance

private def atExponent (c : Cursor) : Bool :=
  match c.rest with
  | 'e' :: _ => true
  | 'E' :: _ => true
  | _ => false

/-- Reads a fraction, from its point on. -/
def fractionPart (negative : Bool) (significand : Nat) (before : Int) (c : Cursor) :
    Except Fault (JsonNumber × Cursor) :=
  let c := c.advance
  match c.rest, digit? c with
  | [], _ => .error (c.here .valueMissing)
  | _, none => .error (c.ahead .invalidNumber)
  | _, some _ =>
    let (s, e, c) := fractionDigits c.rest.length significand before c
    if atExponent c then exponentPart negative s e c else floatOf negative s e c

/-- The digits of an integer part: those that fit the significand, and how many more there are. -/
private def integerDigits : Nat → Nat → Cursor → Nat × Nat × Cursor
  | 0, s, c => (s, 0, c)
  | fuel + 1, s, c =>
    match digit? c with
    | none => (s, 0, c)
    | some d =>
      if maxSignificand < s * 10 + d then
        let c' := skipDigits c.rest.length c
        (s, c.rest.length - c'.rest.length, c')
      else integerDigits fuel (s * 10 + d) c.advance

/-- Reads a number, its sign having been read. -/
def number (negative : Bool) (c : Cursor) : Except Fault (JsonNumber × Cursor) :=
  match c.rest, digit? c with
  | [], _ => .error (c.here .valueMissing)
  | _, none => .error (c.ahead .invalidNumber)
  | _, some d =>
    let c := c.advance
    if d = 0 && (digit? c).isSome then .error (c.ahead .invalidNumber)
    else
      let (s, more, c) := integerDigits c.rest.length d c
      match c.rest with
      | '.' :: _ => fractionPart negative s more c
      | _ =>
        if atExponent c then exponentPart negative s more c
        else if more ≠ 0 then floatOf negative s more c
        else if !negative then .ok (.integer s, c)
        else if s = 0 || Nat.pow 2 63 < s then .ok (.float (Binary64.ofNat s).neg, c)
        else .ok (.integer (-(s : Int)), c)

end Cursor

end MailTemplates.Json
