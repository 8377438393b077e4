/-!
# Names of hosts in ASCII

A label of a host name with characters beyond ASCII is written with its ASCII characters first and
then, for each of the others in ascending order, how far to go from the one before, as a number with
digits of growing weight. `encode` writes a label so, `decode` reads it.
-/

namespace MailTemplates.Remote.Punycode

/-- A digit: `a` to `z`, then `0` to `9`. -/
def digit (n : Nat) : Char := if n < 26 then Char.ofNat (0x61 + n) else Char.ofNat (0x30 + n - 26)

/-- The least digit value that is not the last at a position. -/
def threshold (position bias : Nat) : Nat :=
  if position ≤ bias then 1 else if bias + 26 ≤ position then 26 else position - bias

/-- Every digit has a weight, so the digits of a number come to an end. -/
theorem threshold_pos (position bias : Nat) : 1 ≤ threshold position bias := by
  unfold threshold
  split
  · omega
  · split <;> omega

/-- The digits of a distance, the least position first. -/
def digits (bias position n : Nat) : List Char :=
  let t := threshold position bias
  if n < t then [digit n]
  else digit (t + (n - t) % (36 - t)) :: digits bias (position + 36) ((n - t) / (36 - t))
termination_by n
decreasing_by
  have := threshold_pos position bias
  exact Nat.lt_of_le_of_lt (Nat.div_le_self _ _) (by omega)

private def scaleDown : Nat → Nat → Nat → Nat × Nat
  | 0, delta, k => (delta, k)
  | fuel + 1, delta, k => if 455 < delta then scaleDown fuel (delta / 35) (k + 36) else (delta, k)

/-- The bias for the next distance. -/
def adapt (delta count : Nat) (first : Bool) : Nat :=
  let delta := if first then delta / 700 else delta / 2
  let (delta, k) := scaleDown 64 (delta + delta / count) 0
  k + 36 * delta / (delta + 38)

/-- What has been written, the distance gone, the bias, and how many characters are placed. -/
structure Writing where
  written : List Char
  delta : Nat
  bias : Nat
  placed : Nat

/-- Goes past one character of the label on the way to those with a code. -/
def Writing.pass (basic code : Nat) (w : Writing) (c : Char) : Writing :=
  if c.toNat < code then { w with delta := w.delta + 1 }
  else if c.toNat = code then
    { written := w.written ++ digits w.bias 36 w.delta
      delta := 0
      bias := adapt w.delta (w.placed + 1) (w.placed == basic)
      placed := w.placed + 1 }
  else w

private def passCodes (label : List Char) (basic : Nat) : List Nat → Nat → Writing → Writing
  | [], _, w => w
  | code :: codes, next, w =>
    let w := { w with delta := w.delta + (code - next) * (w.placed + 1) }
    let w := label.foldl (Writing.pass basic code) w
    passCodes label basic codes (code + 1) { w with delta := w.delta + 1 }

private def insertCode (n : Nat) : List Nat → List Nat
  | [] => [n]
  | m :: ms => if n < m then n :: m :: ms else if n = m then m :: ms else m :: insertCode n ms

/-- The ASCII form of a label. -/
def encode (label : List Char) : List Char :=
  let basic := label.filter fun c => c.toNat < 0x80
  let codes := (label.filter fun c => 0x80 ≤ c.toNat).foldl (fun cs c => insertCode c.toNat cs) []
  if codes.isEmpty then label
  else
    let w := passCodes label basic.length codes 128 ⟨[], 0, 72, basic.length⟩
    "xn--".toList ++ (if basic.isEmpty then [] else basic ++ ['-']) ++ w.written

/-! ## Reading -/

/-- The value of a digit. -/
def digitValue? (c : Char) : Option Nat :=
  if 'a' ≤ c && c ≤ 'z' then some (c.toNat - 0x61)
  else if c.isDigit then some (c.toNat - 0x30 + 26)
  else none

/-- Reads a distance, whose next digit has a weight, and gives what follows it. -/
def distance (bias : Nat) : Nat → Nat → Nat → List Char → Option (Nat × List Char)
  | _, _, _, [] => none
  | position, weight, read, c :: cs => do
    let d ← digitValue? c
    let t := threshold position bias
    let read := read + d * weight
    if d < t then some (read, cs) else distance bias (position + 36) (weight * (36 - t)) read cs

/-- Reads the distances behind the ASCII characters of a label. A distance leads from a place and a
code point on, first through the places of the label and then to the next code point. -/
def placeAll : Nat → Nat → Nat → Nat → List Char → List Char → Option (List Char)
  | _, _, _, _, label, [] => some label
  | 0, _, _, _, _, _ => none
  | fuel + 1, bias, code, place, label, cs => do
    let (d, rest) ← distance bias 36 1 0 cs
    let count := label.length + 1
    let code := code + (place + d) / count
    let place' := (place + d) % count
    if !(code < 0xD800 || (0xDFFF < code && code < 0x110000)) then none
    placeAll fuel (adapt d count (place == 0)) code (place' + 1)
      (label.insertIdx place' (Char.ofNat code)) rest

/-- The label that an ASCII form behind its mark stands for; nothing if it is none. -/
def decode (cs : List Char) : Option (List Char) :=
  let tail := (cs.reverse.takeWhile (· != '-')).reverse
  let basic := (cs.take (cs.length - tail.length)).dropLast
  let rest := if basic.isEmpty then cs else tail
  placeAll (rest.length + 1) 72 128 0 basic rest

end MailTemplates.Remote.Punycode
