import MailTemplates.Number.Binary64
/-!
# Formats

Escapes that stand for bytes, and formats with places that are filled from a list of texts. A format
is used again as long as it takes texts and some are left; a place for which there is none takes an
empty text or zero.

A number is read as a whole number or as a quotient of whole numbers, and written by shifting that
quotient and rounding once. No binary numbers are involved, so the digits are exact at any
precision.
-/

namespace MailTemplates.Script.Format

open Number (Binary64 roundDiv)

/-! ## Escapes -/

private def isOctal (c : Char) : Bool := '0' ≤ c && c ≤ '7'

private def named? : Char → Option Char
  | 'n' => some '\n'
  | 't' => some '\t'
  | 'r' => some '\r'
  | 'a' => some '\x07'
  | 'b' => some '\x08'
  | 'f' => some '\x0c'
  | 'v' => some '\x0b'
  | '\\' => some '\\'
  | _ => none

/-- The character that an escape stands for, read behind its backslash, and what follows. A
backslash that starts no escape stands for itself. -/
def escape (cs : List Char) : Char × List Char :=
  match cs with
  | [] => ('\\', [])
  | c :: rest =>
    if isOctal c then
      let digits := (cs.take 3).takeWhile isOctal
      let value := digits.foldl (fun n d => n * 8 + (d.toNat - 0x30)) 0
      (Char.ofNat (value % 256), cs.drop digits.length)
    else
      match named? c with
      | some d => (d, rest)
      | none => ('\\', cs)

/-- The text that escapes in a text stand for, and whether one of them ends all output. The digits
of a byte may have a zero in front of them. -/
def unescape : Nat → List Char → List Char → List Char × Bool
  | 0, done, _ => (done.reverse, false)
  | _ + 1, done, [] => (done.reverse, false)
  | fuel + 1, done, '\\' :: cs =>
    match cs with
    | 'c' :: _ => (done.reverse, true)
    | _ =>
      let (c, rest) := escape (match cs with
        | '0' :: d :: rest => if isOctal d then d :: rest else cs
        | _ => cs)
      unescape fuel (c :: done) rest
  | fuel + 1, done, c :: cs => unescape fuel (c :: done) cs

/-- Texts with blanks between them, escapes replaced, and an end of line if none of them ends the
output. -/
def echoed (ending : Bool) : List String → List Char
  | [] => if ending then ['\n'] else []
  | s :: more =>
    let (text, ended) := unescape (s.length + 1) [] s.toList
    if ended then text
    else
      match more with
      | [] => text ++ if ending then ['\n'] else []
      | _ => text ++ ' ' :: echoed ending more

/-! ## Places -/

/-- How a place is filled. -/
structure Shape where
  left : Bool := false
  zeros : Bool := false
  plus : Bool := false
  space : Bool := false
  alternate : Bool := false
  width : Nat := 0
  precision : Option Nat := none
deriving DecidableEq, Repr

/-- A text with blanks in front or behind up to a width. -/
def padded (left : Bool) (width : Nat) (cs : List Char) : List Char :=
  let blanks := List.replicate (width - cs.length) ' '
  if left then cs ++ blanks else blanks ++ cs

/-- A number of a sign and digits in the shape of a place. -/
def Shape.number (shape : Shape) (sign digits : List Char) : List Char :=
  let missing := shape.width - (sign.length + digits.length)
  if shape.zeros && !shape.left then sign ++ List.replicate missing '0' ++ digits
  else padded shape.left shape.width (sign ++ digits)

private def Shape.sign (shape : Shape) (negative : Bool) : List Char :=
  if negative then ['-'] else if shape.plus then ['+'] else if shape.space then [' '] else []

/-- A whole number whose digits are known. -/
def Shape.whole (shape : Shape) (sign : List Char) (digits : List Char) : List Char :=
  match shape.precision with
  | some n =>
    let digits := if n == 0 && digits == ['0'] then [] else digits
    { shape with zeros := false }.number sign (List.replicate (n - digits.length) '0' ++ digits)
  | none => shape.number sign digits

private def digitsOf (base n : Nat) : List Char := Nat.toDigits base n

/-- Digits with a point in front of the last ones. -/
def withPoint (places : Nat) (alternate : Bool) (n : Nat) : List Char :=
  let ds := digitsOf 10 n
  let ds := List.replicate (places + 1 - ds.length) '0' ++ ds
  ds.take (ds.length - places) ++
    (if places == 0 then (if alternate then ['.'] else []) else '.' :: ds.drop (ds.length - places))

/-- The greatest `k` with `10 ^ k` not above a positive quotient. -/
def decimalExponent (num den : Nat) : Int :=
  let guess : Int := (digitsOf 10 num).length - (digitsOf 10 den).length
  let scaled (k : Int) : Bool :=
    decide (den * Nat.pow 10 k.toNat ≤ num * Nat.pow 10 (-k).toNat)
  if scaled guess then guess else guess - 1

/-- A quotient as `places + 1` digits and the exponent of the first one. -/
def scientific (places num den : Nat) : Nat × Int :=
  if num == 0 then (0, 0)
  else
    let e := decimalExponent num den
    let shift : Int := places - e
    let n := roundDiv (num * Nat.pow 10 shift.toNat) (den * Nat.pow 10 (-shift).toNat)
    if n == Nat.pow 10 (places + 1) then (n / 10, e + 1) else (n, e)

private def exponentText (e : Int) : List Char :=
  let ds := digitsOf 10 e.natAbs
  'e' :: (if e < 0 then '-' else '+') :: (List.replicate (2 - ds.length) '0' ++ ds)

private def withoutEndZeros (cs : List Char) : List Char :=
  if cs.contains '.' then
    let cs := (cs.reverse.dropWhile (· == '0')).reverse
    if cs.getLast? == some '.' then cs.dropLast else cs
  else cs

/-- The digits of a magnitude in one of the three styles of fractions. -/
def Shape.fraction (shape : Shape) (style : Char) (x : Binary64) : List Char :=
  let places := shape.precision.getD 6
  let exponential (places : Nat) : List Char :=
    let (n, e) := scientific places x.num x.den
    withPoint places shape.alternate n ++ exponentText e
  match style with
  | 'f' => withPoint places shape.alternate (roundDiv (x.num * Nat.pow 10 places) x.den)
  | 'e' => exponential places
  | _ =>
    let places := if places == 0 then 1 else places
    let (n, e) := scientific (places - 1) x.num x.den
    if e < -4 || Int.ofNat places ≤ e then
      let mantissa := withPoint (places - 1) shape.alternate n
      (if shape.alternate then mantissa else withoutEndZeros mantissa) ++ exponentText e
    else
      let behind := (Int.ofNat places - 1 - e).toNat
      let text :=
        withPoint behind shape.alternate (roundDiv (x.num * Nat.pow 10 behind) x.den)
      if shape.alternate then text else withoutEndZeros text

/-! ## Reading numbers -/

private def digitOf (c : Char) : Nat :=
  if c.isDigit then c.toNat - 0x30
  else if 'a' ≤ c && c ≤ 'z' then c.toNat - 0x57
  else if 'A' ≤ c && c ≤ 'Z' then c.toNat - 0x37
  else 36

private def signed (cs : List Char) : Bool × List Char :=
  match cs.dropWhile fun c => " \t\n\x0b\x0c\r".toList.contains c with
  | '-' :: rest => (true, rest)
  | '+' :: rest => (false, rest)
  | rest => (false, rest)

/-- The whole number in front of a text, whether it is negative, and what follows. -/
def wholeNumber (cs : List Char) : Bool × Nat × List Char :=
  let (negative, behind) := signed cs
  let (base, digits) : Nat × List Char := match behind with
    | '0' :: x :: d :: rest =>
      if (x == 'x' || x == 'X') && digitOf d < 16 then (16, d :: rest) else (8, behind)
    | '0' :: _ => (8, behind)
    | _ => (10, behind)
  let run := digits.takeWhile fun c => digitOf c < base
  if run.isEmpty then (false, 0, cs)
  else
    (negative, run.foldl (fun n c => n * base + digitOf c) 0, digits.drop run.length)

/-- The number with a fraction in front of a text, and what follows. -/
def fractionNumber (cs : List Char) : Option Binary64 × List Char :=
  let (negative, behind) := signed cs
  let before := behind.takeWhile Char.isDigit
  let (fraction, rest) := match behind.drop before.length with
    | '.' :: rest =>
      let run := rest.takeWhile Char.isDigit
      (run, rest.drop run.length)
    | rest => ([], rest)
  let value (ds : List Char) : Nat := ds.foldl (fun n c => n * 10 + digitOf c) 0
  let exponent : Int × List Char := match rest with
    | e :: more =>
      if e == 'e' || e == 'E' then
        let (minus, ds) := signed more
        let run := ds.takeWhile Char.isDigit
        if run.isEmpty then (0, rest)
        else
          let n := Int.ofNat (min (value run) 400)
          (if minus then -n else n, ds.drop run.length)
      else (0, rest)
    | [] => (0, rest)
  if before.isEmpty && fraction.isEmpty then (some (.zero false), cs)
  else
    let (e, rest) := exponent
    let n := value (before ++ fraction)
    let shift : Int := e - Int.ofNat fraction.length
    (Binary64.ofQuotient negative (n * Nat.pow 10 shift.toNat) (Nat.pow 10 (-shift).toNat), rest)

/-! ## Formats -/

/-- What a format has made so far. -/
structure Filling where
  /-- What is written, the last character first. -/
  done : List Char := []
  left : List String
  complaints : List String := []
  /-- Whether nothing more is written. -/
  ended : Bool := false
  /-- What cannot be done at all. -/
  refused : Option String := none

namespace Filling

/-- Writes. -/
def put (f : Filling) (cs : List Char) : Filling := { f with done := cs.reverse ++ f.done }

/-- Takes a text. -/
def take (f : Filling) : Option String × Filling := (f.left.head?, { f with left := f.left.drop 1 })

private def complain (f : Filling) (text : String) : Filling :=
  { f with complaints := f.complaints ++ [text] }

private def checked (f : Filling) (s : String) (whole rest : List Char) : Filling :=
  if rest.isEmpty then f
  else if rest.length == whole.length then f.complain s!"{s}: expected numeric value"
  else f.complain s!"{s}: not completely converted"

/-- The greatest numbers of 64 bits, with a sign and without one. -/
private def greatestSigned : Nat := 0x7fffffffffffffff
private def greatestUnsigned : Nat := 0xffffffffffffffff

/-- Takes a whole number with a sign. -/
def takeWhole (f : Filling) (unsigned : Bool) : Int × Filling :=
  match f.take with
  | (none, f) => (0, f)
  | (some s, f) =>
    match s.toList with
    | '"' :: c :: _ | '\'' :: c :: _ => (Int.ofNat c.toNat, f)
    | cs =>
      let (negative, n, rest) := wholeNumber cs
      let f := f.checked s cs rest
      let bound := if unsigned then greatestUnsigned
        else if negative then greatestSigned + 1 else greatestSigned
      if bound < n then
        let f := if rest.isEmpty then f.complain s!"{s}: Numerical result out of range" else f
        (if negative && !unsigned then -Int.ofNat bound else Int.ofNat bound, f)
      else (if negative then -Int.ofNat n else Int.ofNat n, f)

/-- Takes a number with a fraction. -/
def takeFraction (f : Filling) : Binary64 × Filling :=
  match f.take with
  | (none, f) => (.zero false, f)
  | (some s, f) =>
    match s.toList with
    | '"' :: c :: _ | '\'' :: c :: _ => (.ofNat c.toNat, f)
    | cs =>
      let (x, rest) := fractionNumber cs
      (x.getD (.zero false), f.checked s cs rest)

/-- Fills a place. -/
def place (f : Filling) (shape : Shape) (kind : Char) : Option Filling :=
  let text (cs : List Char) : List Char :=
    padded shape.left shape.width (match shape.precision with
      | some n => cs.take n
      | none => cs)
  let unsigned (base : Nat) (front : List Char) : Filling :=
    let (n, f) := f.takeWhole true
    let n := (n % (greatestUnsigned + 1)).toNat
    f.put (shape.whole (if shape.alternate && n != 0 then front else []) (digitsOf base n))
  match kind with
  | 's' =>
    let (s, f) := f.take
    some (f.put (text (s.getD "").toList))
  | 'b' =>
    let (s, f) := f.take
    let s := s.getD ""
    let (cs, ended) := unescape (s.length + 1) [] s.toList
    some { f.put (text cs) with ended }
  | 'c' =>
    let (s, f) := f.take
    some (f.put (padded shape.left shape.width [((s.getD "").toList.head?).getD '\x00']))
  | 'd' | 'i' =>
    let (n, f) := f.takeWhole false
    some (f.put (shape.whole (shape.sign (n < 0)) (digitsOf 10 n.natAbs)))
  | 'u' => some (unsigned 10 [])
  | 'o' => some (unsigned 8 ['0'])
  | 'x' => some (unsigned 16 ['0', 'x'])
  | 'X' =>
    let (n, f) := f.takeWhole true
    let n := (n % (greatestUnsigned + 1)).toNat
    some (f.put (shape.whole (if shape.alternate && n != 0 then ['0', 'X'] else [])
      ((digitsOf 16 n).map Char.toUpper)))
  | 'f' | 'F' | 'e' | 'g' =>
    let (x, f) := f.takeFraction
    some (f.put (shape.number (shape.sign x.negative) (shape.fraction kind.toLower x)))
  | 'E' | 'G' =>
    let (x, f) := f.takeFraction
    some (f.put (shape.number (shape.sign x.negative)
      ((shape.fraction kind.toLower x).map Char.toUpper)))
  | _ => none

/-- A width or precision in front of a text, which may be taken from the texts, and what follows. -/
def measure (f : Filling) (cs : List Char) : Int × List Char × Filling :=
  match cs with
  | '*' :: rest =>
    let (n, f) := f.takeWhole false
    (n, rest, f)
  | _ =>
    let run := cs.takeWhile Char.isDigit
    (Int.ofNat (run.foldl (fun n c => n * 10 + digitOf c) 0), cs.drop run.length, f)

/-- Uses a format once. -/
def once : Nat → Filling → List Char → Filling
  | 0, f, _ => f
  | _ + 1, f, [] => f
  | fuel + 1, f, '\\' :: cs =>
    let (c, rest) := escape cs
    once fuel (f.put [c]) rest
  | fuel + 1, f, '%' :: '%' :: cs => once fuel (f.put ['%']) cs
  | fuel + 1, f, '%' :: cs =>
    let flags := cs.takeWhile fun c => "#-+ 0".toList.contains c
    let (width, behind, f) := f.measure (cs.drop flags.length)
    let (precision, behind, f) : Option Nat × List Char × Filling := match behind with
      | '.' :: rest =>
        let (n, rest, f) := f.measure rest
        (if n < 0 then none else some n.toNat, rest, f)
      | _ => (none, behind, f)
    let shape : Shape := {
      -- A width below zero asks for blanks behind, as the flag does.
      left := flags.contains '-' || decide (width < 0)
      zeros := flags.contains '0'
      plus := flags.contains '+'
      space := flags.contains ' '
      alternate := flags.contains '#'
      width := width.natAbs
      precision }
    match behind with
    | [] => { f with refused := some "missing format character" }
    | kind :: rest =>
      match f.place shape kind with
      | some f => if f.ended then f else once fuel f rest
      | none =>
        let directive := '%' :: cs.take (cs.length - rest.length)
        { f with refused := some (String.ofList directive ++ ": invalid directive") }
  | fuel + 1, f, c :: cs => once fuel (f.put [c]) cs

/-- Uses a format as long as texts are left that it takes. -/
def again (format : List Char) : Nat → Filling → Filling
  | 0, f => f
  | fuel + 1, f =>
    let g := once (format.length + 1) f format
    if g.ended || g.refused.isSome || g.left.isEmpty || g.left.length == f.left.length then g
    else again format fuel g

end Filling

/-- A format filled with texts. -/
def filled (format : String) (texts : List String) : Filling :=
  Filling.again format.toList (texts.length + 1) { left := texts }

end MailTemplates.Script.Format
