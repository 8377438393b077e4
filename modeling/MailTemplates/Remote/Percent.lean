/-!
# Percent encoding

A character that has no place in a part of a URL is written as its bytes, each as `%` and two
hexadecimal digits.
-/

namespace MailTemplates.Remote.Percent

/-- The value of a digit in a radix up to 16. -/
def digitIn (radix : Nat) (c : Char) : Option Nat :=
  let n := if c.isDigit then c.toNat - 0x30
    else if 'a' ≤ c && c ≤ 'f' then c.toNat - 0x61 + 10
    else if 'A' ≤ c && c ≤ 'F' then c.toNat - 0x41 + 10
    else 16
  if n < radix then some n else none

/-- A digit in radix 16. -/
def hexDigit (n : Nat) : Char :=
  if n < 10 then Char.ofNat (0x30 + n) else Char.ofNat (0x41 + n - 10)

/-- A character as its bytes. -/
def bytesText (c : Char) : List Char :=
  (String.singleton c).toUTF8.toList.flatMap fun b =>
    ['%', hexDigit (b.toNat / 16), hexDigit (b.toNat % 16)]

/-- A text with the characters of a class written as their bytes. -/
def encode (isEncoded : Char → Bool) (cs : List Char) : List Char :=
  cs.flatMap fun c => if isEncoded c then bytesText c else [c]

/-- The bytes of a text with `%` and two hexadecimal digits standing for a byte. -/
def decode : List Char → List UInt8
  | [] => []
  | '%' :: a :: b :: cs =>
    match digitIn 16 a, digitIn 16 b with
    | some x, some y => UInt8.ofNat (x * 16 + y) :: decode cs
    | _, _ => 0x25 :: decode (a :: b :: cs)
  | c :: cs => (String.singleton c).toUTF8.toList ++ decode cs

/-- A character that is written as its bytes wherever it is. -/
def isControl (c : Char) : Bool := c.toNat < 0x20 || 0x7F ≤ c.toNat

end MailTemplates.Remote.Percent
