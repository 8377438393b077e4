import MailTemplates.Script.CharSet
import MailTemplates.Script.Format
import MailTemplates.Script.Tool.Basic
/-!
# Tools for characters

Characters of a set are replaced, dropped, or made one where several stand together; and bytes are
written with digits or letters.

Bytes are characters below 256 here, as everywhere in the tools. A set is a list of these in the
order in which it was written, and that order says which character of the one set stands for which
of the other.
-/

namespace MailTemplates.Script.Tools

/-- The characters from one to another. -/
private def charRange (a b : Char) : List Char :=
  (List.range (b.toNat + 1 - a.toNat)).map fun i => Char.ofNat (a.toNat + i)

/-- A part of a written set: characters, or one as often as needed. -/
private inductive SetPart where
  | chars (cs : List Char)
  | filler (c : Char)

/-- The character in front of a text, which may be an escape, and what follows. -/
private def setChar : List Char → Option (Char × List Char)
  | '\\' :: c :: cs =>
    if ('0' ≤ c && c ≤ '7') || "\\abfnrtv".toList.contains c then some (Format.escape (c :: cs))
    else some (c, cs)
  | c :: cs => some (c, cs)
  | [] => none

/-- Reads a set. -/
private def setParts : Nat → List Char → List SetPart
  | 0, _ => []
  | fuel + 1, cs =>
    let plain : List SetPart := match setChar cs with
      | none => []
      | some (a, '-' :: rest) =>
        match setChar rest with
        | some (b, rest) => .chars (charRange a b) :: setParts fuel rest
        | none => [.chars [a, '-']]
      | some (a, rest) => .chars [a] :: setParts fuel rest
    match cs with
    | '[' :: ':' :: rest =>
      match CharSet.class? rest with
      | some (rs, rest) => .chars (rs.flatMap fun r => charRange r.1 r.2) :: setParts fuel rest
      | none => plain
    | '[' :: c :: '*' :: rest =>
      let ds := rest.takeWhile Char.isDigit
      let n := digitsValue ds
      match rest.drop ds.length with
      | ']' :: rest =>
        (if n == 0 then .filler c else .chars (List.replicate n c)) :: setParts fuel rest
      | _ => plain
    | _ => plain

private def setOf (length : Nat) (s : String) : List Char :=
  let parts := setParts (s.length + 1) s.toList
  let known := parts.foldl (fun n p => match p with
    | .chars cs => n + cs.length
    | .filler _ => n) 0
  parts.flatMap fun
    | .chars cs => cs
    | .filler c => List.replicate (length - known) c

/-- A text with one character in place of each run of one from a set. -/
def squeezed (set : List Char) : List Char → List Char
  | a :: b :: rest =>
    if a == b && set.contains a then squeezed set (b :: rest) else a :: squeezed set (b :: rest)
  | cs => cs

/-- Replaces characters of a set by those of another, or drops them, or runs of them. -/
def tr : Tool := fun s args =>
  -- the sets may look like options
  let letters := args.takeWhile fun a => a.length > 1 && a.startsWith "-" &&
    (a.toList.drop 1).all "dsctC".toList.contains
  let sets := args.drop letters.length
  let sets := match sets with
    | "--" :: rest => rest
    | _ => sets
  let has (c : Char) : Bool := letters.any fun a => a.toList.contains c
  let others := has 'c' || has 'C'
  let all := charRange '\x00' (Char.ofNat 255)
  let first (a : String) : List Char :=
    let set := setOf 0 a
    if others then all.filter fun c => !set.contains c else set
  let done (cs : List Char) : ToolRun := { output := cs }
  let missing : List String → ToolRun := .misused s "tr" 1
  let inSet (set : List Char) : Char → Bool :=
    let table := all.map set.contains |>.toArray
    fun c => table.getD c.toNat false
  match sets, has 'd', has 's' with
  | [a], true, false =>
    let test := inSet (first a)
    done (s.input.filter fun c => !test c)
  | [a, b], true, true =>
    let test := inSet (first a)
    done (squeezed (setOf 0 b) (s.input.filter fun c => !test c))
  | [a], false, true => done (squeezed (first a) s.input)
  | [a, b], false, squeeze =>
    let source := first a
    let target := setOf source.length b
    let last := target.getLast?
    -- The last place of a character in the first set counts; a second set that is shorter goes on
    -- with its last character.
    let table := (all.map fun c =>
      match source.reverse.findIdx? (· == c) with
      | some i => (target[source.length - 1 - i]?.orElse fun _ => last).getD c
      | none => c).toArray
    let out := s.input.map fun c => table.getD c.toNat c
    done (if squeeze then squeezed target out else out)
  | [], _, _ => missing ["tr: missing operand"]
  | [a], false, false =>
    missing [s!"tr: missing operand after '{a}'",
      "Two strings must be given when translating."]
  | [_, b], true, false =>
    missing [s!"tr: extra operand '{b}'",
      "Only one string may be given when deleting without squeezing repeats."]
  | [a], true, true =>
    missing [s!"tr: missing operand after '{a}'",
      "Two strings must be given when both deleting and squeezing repeats."]
  | _ :: _ :: c :: _, _, _ => missing [s!"tr: extra operand '{c}'"]

/-! ## Bytes -/

private def base64Alphabet : List Char :=
  "ABCDEFGHIJKLMNOPQRSTUVWXYZabcdefghijklmnopqrstuvwxyz0123456789+/".toList

/-- Three bytes as four letters; missing bytes show as equals signs. -/
def base64Group (cs : List Char) : List Char :=
  let byte (i : Nat) : Nat := ((cs[i]?).map Char.toNat).getD 0
  let n := byte 0 * 65536 + byte 1 * 256 + byte 2
  let letter (i : Nat) : Char := base64Alphabet.getD i 'A'
  let letters :=
    [letter (n / 262144), letter (n / 4096 % 64), letter (n / 64 % 64), letter (n % 64)]
  letters.take (cs.length + 1) ++ List.replicate (3 - cs.length) '='

/-- Bytes as letters. -/
def base64Text : List Char → List Char
  | a :: b :: c :: rest => base64Group [a, b, c] ++ base64Text rest
  | [] => []
  | cs => base64Group cs

/-- The bytes that letters stand for. -/
def base64Bytes : List Char → List Char
  | a :: b :: c :: d :: rest =>
    let index (x : Char) : Nat := (base64Alphabet.findIdx? (· == x)).getD 0
    let n := ((index a * 64 + index b) * 64 + index c) * 64 + index d
    let bytes := [n / 65536, n / 256 % 256, n % 256].map Char.ofNat
    bytes.take (3 - [c, d].count '=') ++ base64Bytes rest
  | _ => []

/-- Writes bytes as letters in lines, or reads them. -/
def base64 : Tool := fun s args =>
  let table : OptionTable :=
    { plain := "di", valued := "w"
      long := [("decode", 'd'), ("wrap", 'w'), ("ignore-garbage", 'i')] }
  withOptions "base64" table s args fun o =>
    let width := ((o.value? 'w').bind String.toNat?).getD 76
    let rec broken : Nat → List Char → List Char
      | 0, cs => cs
      | fuel + 1, cs =>
        if cs.isEmpty then [] else cs.take width ++ '\n' :: broken fuel (cs.drop width)
    filtering "base64" s o.operands fun text =>
      if o.has 'd' then base64Bytes (text.filter (· != '\n'))
      else
        let letters := base64Text text
        if width == 0 then letters else broken (letters.length + 1) letters

/-- How one byte is shown. -/
private def byteShown (kind : Char) (c : Char) : List Char :=
  let digits (base width : Nat) : List Char :=
    let ds := Nat.toDigits base c.toNat
    List.replicate (width - ds.length) '0' ++ ds
  match kind with
  | 'x' => ' ' :: digits 16 2
  | 'o' => ' ' :: digits 8 3
  | 'u' => Format.padded false 4 (toString c.toNat).toList
  | _ =>
    Format.padded false 4 (match c with
      | '\x00' => ['\\', '0']
      | '\x07' => ['\\', 'a']
      | '\x08' => ['\\', 'b']
      | '\t' => ['\\', 't']
      | '\n' => ['\\', 'n']
      | '\x0b' => ['\\', 'v']
      | '\x0c' => ['\\', 'f']
      | '\r' => ['\\', 'r']
      | _ => if ' ' ≤ c && c ≤ '~' then [c] else digits 8 3)

/-- Shows bytes, sixteen in a line, with the number of the first one in front. -/
def od : Tool := fun s args =>
  withOptions "od" { plain := "cbxv", valued := "tANjw" } s args fun o =>
    let kind : Char :=
      match (o.value? 't').map String.toList with
      | some (k :: '1' :: _) | some [k] => k
      | _ => if o.has 'c' then 'c' else 'o'
    let front (n : Nat) : List Char :=
      if o.value? 'A' == some "n" then []
      else
        let ds := Nat.toDigits (if o.value? 'A' == some "d" then 10
          else if o.value? 'A' == some "x" then 16 else 8) n
        List.replicate ((if o.value? 'A' == some "x" then 6 else 7) - ds.length) '0' ++ ds
    let rec rows : Nat → Nat → List Char → List Char
      | 0, _, _ => []
      | fuel + 1, n, cs =>
        if cs.isEmpty then (if (front n).isEmpty then [] else front n ++ ['\n'])
        else
          let row := cs.take 16
          front n ++ row.flatMap (byteShown kind) ++ '\n' :: rows fuel (n + row.length) (cs.drop 16)
    filtering "od" s o.operands fun text =>
      let text := (((o.value? 'j').bind String.toNat?).map fun n => text.drop n).getD text
      let text := (((o.value? 'N').bind String.toNat?).map fun n => text.take n).getD text
      rows (text.length + 1) 0 text

end MailTemplates.Script.Tools
