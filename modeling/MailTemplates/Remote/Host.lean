import MailTemplates.Remote.HostName
import MailTemplates.Remote.Percent
import MailTemplates.Text.Utf8
/-!
# Hosts

The host of a URL: a name, four bytes, or eight groups of 16 bits. A name that ends in a number has
to be a full address of four bytes.
-/

namespace MailTemplates.Remote

open Percent (digitIn)
open Text (splitAt)

/-- Why a text is no URL, or a reference leads nowhere. -/
inductive UrlProblem where
  | noBase
  | opaqueBase
  | emptyHost
  | badDomain
  | badDomainCharacter
  | badIpv4
  | badIpv6
  | badPort
deriving DecidableEq, Repr

/-- The wording of a problem. -/
def UrlProblem.message : UrlProblem → String
  | noBase => "relative URL without a base"
  | opaqueBase => "relative URL with a cannot-be-a-base base"
  | emptyHost => "empty host"
  | badDomain => "invalid international domain name"
  | badDomainCharacter => "invalid domain character"
  | badIpv4 => "invalid IPv4 address"
  | badIpv6 => "invalid IPv6 address"
  | badPort => "invalid port number"

/-- A host. -/
inductive Host where
  | name (text : List Char)
  | ipv4 (address : Nat)
  | ipv6 (groups : List Nat)
deriving DecidableEq, Repr

namespace Host

/-! ## Numbers -/

/-- The number that digits write in a radix; no digits write zero. -/
def numberIn (radix : Nat) (cs : List Char) : Option Nat :=
  cs.foldlM (fun n c => (digitIn radix c).map (n * radix + ·)) 0

/-! ## Four bytes -/

/-- A part of an address: hexadecimal behind `0x`, octal behind `0`, decimal otherwise. -/
def ipv4Part : List Char → Option Nat
  | [] => none
  | '0' :: 'x' :: cs => numberIn 16 cs
  | '0' :: 'X' :: cs => numberIn 16 cs
  | '0' :: c :: cs => numberIn 8 (c :: cs)
  | cs => numberIn 10 cs

private def labels (cs : List Char) : List (List Char) :=
  let parts := splitAt '.' cs
  if 1 < parts.length && parts.getLast? == some [] then parts.dropLast else parts

/-- Whether a name has to be an address because its last part is a number. -/
def endsInNumber (cs : List Char) : Bool :=
  match splitAt '.' cs with
  | [[]] => false
  | _ =>
    match (labels cs).getLast? with
    | some last => (!last.isEmpty && last.all Char.isDigit) || (ipv4Part last).isSome
    | none => false

/-- The address that up to four numbers write: the last one fills all bytes that are left. -/
def ofIpv4 (cs : List Char) : Option Nat := do
  let numbers ← (labels cs).mapM ipv4Part
  if 4 < numbers.length then none
  let last ← numbers.getLast?
  let first := numbers.dropLast
  if first.any (255 < ·) || Nat.pow 256 (4 - first.length) ≤ last then none
  return first.zipIdx.foldl (fun n (b, i) => n + b * Nat.pow 256 (3 - i)) last

/-- The four bytes of an address. -/
def ipv4Text (n : Nat) : List Char :=
  ['.'].intercalate ([3, 2, 1, 0].map fun i => Nat.toDigits 10 (n / Nat.pow 256 i % 256))

/-! ## Eight groups -/

private def byteText (cs : List Char) : Option Nat :=
  if cs.isEmpty || 3 < cs.length || (1 < cs.length && cs.head? == some '0') then none
  else (numberIn 10 cs).bind fun n => if n < 256 then some n else none

/-- Groups with colons between them; the last two may be written as four bytes. -/
def ipv6Groups : List (List Char) → Option (List Nat)
  | [] => some []
  | [last] =>
    if last.contains '.' then do
      match ← (splitAt '.' last).mapM byteText with
      | [a, b, c, d] => return [a * 256 + b, c * 256 + d]
      | _ => none
    else if last.isEmpty || 4 < last.length then none
    else (numberIn 16 last).map ([·])
  | group :: rest =>
    if group.isEmpty || 4 < group.length then none
    else do return (← numberIn 16 group) :: (← ipv6Groups rest)

private def splitDouble : List Char → List Char → Option (List Char × List Char)
  | _, [] => none
  | before, ':' :: ':' :: cs => some (before.reverse, cs)
  | before, c :: cs => splitDouble (c :: before) cs

private def groupsOf (cs : List Char) : Option (List Nat) :=
  if cs.isEmpty then some [] else ipv6Groups (splitAt ':' cs)

/-- The eight groups that a text writes; a double colon stands for as many zeros as are missing. -/
def ofIpv6 (cs : List Char) : Option (List Nat) :=
  match splitDouble [] cs with
  | some (before, after) => do
    if before.contains '.' then none
    let a ← groupsOf before
    let b ← groupsOf after
    if 7 < a.length + b.length then none
    return a ++ List.replicate (8 - a.length - b.length) 0 ++ b
  | none => do
    let groups ← groupsOf cs
    if groups.length = 8 then some groups else none

/-- Where the longest run of zeros starts and how long it is, of two as long the first. -/
def longestZeros (groups : List Nat) : Nat × Nat :=
  (List.range groups.length).foldl (fun best i =>
    let n := ((groups.drop i).takeWhile (· == 0)).length
    if best.2 < n then (i, n) else best) (0, 0)

/-- The groups with their longest run of zeros as a double colon. -/
def ipv6Text (groups : List Nat) : List Char :=
  let text (gs : List Nat) := [':'].intercalate (gs.map (Nat.toDigits 16))
  let (start, n) := longestZeros groups
  if n < 2 then text groups
  else text (groups.take start) ++ [':', ':'] ++ text (groups.drop (start + n))

/-! ## Names -/

/-- A character that cannot be in a host. -/
def isForbidden (c : Char) : Bool :=
  c.toNat == 0 || " #/:<>?@[\\]^|\t\n\r".toList.contains c

/-- A character that cannot be in the name of a host. -/
def isForbiddenInName (c : Char) : Bool :=
  isForbidden c || c.toNat < 0x20 || c == '%' || c.toNat == 0x7F

private def ofBrackets (rest : List Char) : Except UrlProblem Host :=
  match (if rest.getLast? == some ']' then ofIpv6 rest.dropLast else none) with
  | some groups => .ok (.ipv6 groups)
  | none => .error .badIpv6

/-- The host of a URL whose scheme is known to have one. -/
def ofSpecial (cs : List Char) : Except UrlProblem Host :=
  match cs with
  | [] => .error .emptyHost
  | '[' :: rest => ofBrackets rest
  | _ =>
    match HostName.toAscii (Text.Utf8.lossy ⟨(Percent.decode cs).toArray⟩).toList with
    | none => .error .badDomain
    | some ascii =>
      if ascii.any isForbiddenInName then .error .badDomain
      else if ascii.isEmpty then .error .emptyHost
      else if endsInNumber ascii then
        match ofIpv4 ascii with
        | some n => .ok (.ipv4 n)
        | none => .error .badIpv4
      else .ok (.name ascii)

/-- The host of any other URL, which may be empty. -/
def ofOpaque (cs : List Char) : Except UrlProblem Host :=
  match cs with
  | '[' :: rest => ofBrackets rest
  | _ =>
    if cs.any isForbidden then .error .badDomainCharacter
    else .ok (.name (Percent.encode Percent.isControl cs))

/-- The text of a host. -/
def text : Host → List Char
  | name cs => cs
  | ipv4 n => ipv4Text n
  | ipv6 groups => '[' :: ipv6Text groups ++ [']']

end Host

end MailTemplates.Remote
