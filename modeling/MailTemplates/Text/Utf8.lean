/-!
# Bytes that should be UTF-8

Where a byte sequence stops being UTF-8, and the text it stands for when every fault is replaced by
U+FFFD. A fault is either a run of one to three bytes that no character starts with, or an end in
the middle of a character.
-/

namespace MailTemplates.Text.Utf8

/-- Where bytes stop being UTF-8: the index of the first byte that is no part of a character, and
the length of the faulty run, or nothing if the bytes end inside a character. -/
structure Fault where
  index : Nat
  length : Option Nat
deriving DecidableEq, Repr

/-- The wording of a fault. -/
def Fault.message (f : Fault) : String :=
  match f.length with
  | some n => s!"invalid utf-8 sequence of {n} bytes from index {f.index}"
  | none => s!"incomplete utf-8 byte sequence from index {f.index}"

/-- What a byte sequence starts with. -/
inductive Front where
  | finished
  | char (c : Char) (rest : List UInt8)
  | faulty (length : Nat) (rest : List UInt8)
  | incomplete

private def tail (b : UInt8) : Bool := 0x80 ≤ b && b ≤ 0xBF

/-- The least and greatest second byte that a first byte of three or four allows. -/
private def secondRange (first : UInt8) : UInt8 × UInt8 :=
  if first == 0xE0 then (0xA0, 0xBF)
  else if first == 0xED then (0x80, 0x9F)
  else if first == 0xF0 then (0x90, 0xBF)
  else if first == 0xF4 then (0x80, 0x8F)
  else (0x80, 0xBF)

private def bits (b : UInt8) (width : Nat) : Nat := b.toNat % Nat.pow 2 width

/-- Reads the first character, or the first fault. -/
def front : List UInt8 → Front
  | [] => .finished
  | a :: rest =>
    let (lo, hi) := secondRange a
    if a < 0x80 then .char (Char.ofNat a.toNat) rest
    else if 0xC2 ≤ a && a ≤ 0xDF then
      match rest with
      | [] => .incomplete
      | b :: rest' =>
        if tail b then .char (Char.ofNat (bits a 5 * 0x40 + bits b 6)) rest' else .faulty 1 rest
    -- The second byte has a range of its own, which keeps out surrogates and codes that are too
    -- long.
    else if 0xE0 ≤ a && a ≤ 0xEF then
      match rest with
      | [] => .incomplete
      | b :: rest' =>
        if lo ≤ b && b ≤ hi then
          match rest' with
          | [] => .incomplete
          | c :: rest'' =>
            if tail c then
              .char (Char.ofNat ((bits a 4 * 0x40 + bits b 6) * 0x40 + bits c 6)) rest''
            else .faulty 2 rest'
        else .faulty 1 rest
    else if 0xF0 ≤ a && a ≤ 0xF4 then
      match rest with
      | [] => .incomplete
      | b :: rest' =>
        if lo ≤ b && b ≤ hi then
          match rest' with
          | [] => .incomplete
          | c :: rest'' =>
            if tail c then
              match rest'' with
              | [] => .incomplete
              | d :: rest''' =>
                if tail d then
                  .char (Char.ofNat
                    (((bits a 3 * 0x40 + bits b 6) * 0x40 + bits c 6) * 0x40 + bits d 6)) rest'''
                else .faulty 3 rest''
            else .faulty 2 rest'
        else .faulty 1 rest
    else .faulty 1 rest

/-- The first fault from index `at` on; `fuel` bounds the characters looked at. -/
private def faultFrom : Nat → Nat → List UInt8 → Option Fault
  | 0, _, _ => none
  | fuel + 1, index, bytes =>
    match front bytes with
    | .finished => none
    | .char _ rest => faultFrom fuel (index + (bytes.length - rest.length)) rest
    | .faulty n _ => some ⟨index, some n⟩
    | .incomplete => some ⟨index, none⟩

/-- The first fault of a byte sequence, if it has one. -/
def fault? (bytes : ByteArray) : Option Fault :=
  if bytes.validateUTF8 then none else faultFrom (bytes.size + 1) 0 bytes.toList

private def lossyFrom : Nat → List UInt8 → List Char
  | 0, _ => []
  | fuel + 1, bytes =>
    match front bytes with
    | .finished => []
    | .char c rest => c :: lossyFrom fuel rest
    | .faulty _ rest => '\uFFFD' :: lossyFrom fuel rest
    | .incomplete => ['\uFFFD']

/-- The text of a byte sequence, every fault replaced by U+FFFD. -/
def lossy (bytes : ByteArray) : String :=
  match String.fromUTF8? bytes with
  | some s => s
  | none => String.ofList (lossyFrom (bytes.size + 1) bytes.toList)

end MailTemplates.Text.Utf8
