import MailTemplates.Script.Tool.Copying
/-!
# Tools for parts of lines

Fields and characters chosen by their numbers, lines broken at a width, and lines put together.
-/

namespace MailTemplates.Script.Tools

/-- The ranges that a list writes, each with its end if it has one. -/
private def ranges (s : String) : List (Nat × Option Nat) :=
  (s.splitOn ",").filterMap fun part =>
    match part.splitOn "-" with
    | [n] => n.toNat?.map fun n => (n, some n)
    | [a, ""] => a.toNat?.map fun a => (a, none)
    | ["", b] => b.toNat?.map fun b => (1, some b)
    | [a, b] => a.toNat?.bind fun a => b.toNat?.map fun b => (a, some b)
    | _ => none

/-- Whether a number is in one of the ranges. -/
def inRanges (rs : List (Nat × Option Nat)) (n : Nat) : Bool :=
  rs.any fun (a, b) => a ≤ n && b.all (n ≤ ·)

/-- The chosen fields or characters of each line. -/
def cut : Tool := fun s args =>
  let table : OptionTable :=
    { plain := "s", valued := "dfcb"
      long := [("delimiter", 'd'), ("fields", 'f'), ("characters", 'c'), ("bytes", 'b'),
        ("only-delimited", 's')] }
  withOptions "cut" table s args fun o =>
    let mark := ((o.value? 'd').bind fun d => d.toList.head?).getD '\t'
    match o.value? 'f', (o.value? 'c').orElse fun _ => o.value? 'b' with
    | some fs, _ =>
      let rs := ranges fs
      filtering "cut" s o.operands fun text =>
        ByteText.ofLines ((ByteText.lines text).filterMap fun line =>
          if !line.contains mark then (if o.has 's' then none else some line)
          else
            let parts := ((String.ofList line).splitOn (String.singleton mark)).map String.toList
            some ([mark].intercalate
              (((parts.zipIdx 1).filter fun (_, i) => inRanges rs i).map (·.1))))
    | none, some cs =>
      let rs := ranges cs
      filtering "cut" s o.operands fun text =>
        ByteText.ofLines ((ByteText.lines text).map fun line =>
          ((line.zipIdx 1).filter fun (_, i) => inRanges rs i).map (·.1))
    | none, none =>
      .misused s "cut" 1 ["cut: you must specify a list of bytes, characters, or fields"]

/-- Lines broken at a width. -/
def fold : Tool := fun s args =>
  let args :=
    match oldCount args with
    | "-n" :: n :: rest => "-w" :: n :: rest
    | args => args
  withOptions "fold" { plain := "sb", valued := "w", long := [("width", 'w')] } s args fun o =>
    let width := ((o.value? 'w').bind String.toNat?).getD 80
    let rec pieces : Nat → List Char → List (List Char)
      | 0, cs => [cs]
      | fuel + 1, cs =>
        if cs.length ≤ width || width == 0 then [cs]
        else cs.take width :: pieces fuel (cs.drop width)
    filtering "fold" s o.operands fun text =>
      eachLine text fun line => ['\n'].intercalate (pieces line.length line)

/-- Lines side by side, or all in one line. -/
def paste : Tool := fun s args =>
  let table : OptionTable :=
    { plain := "s", valued := "d", long := [("serial", 's'), ("delimiters", 'd')] }
  withOptions "paste" table s args fun o =>
    let mark := ((o.value? 'd').bind fun d => d.toList.head?).getD '\t'
    filtering "paste" s o.operands fun text =>
      if o.has 's' then [mark].intercalate (ByteText.lines text) ++ ['\n']
      else ByteText.ofLines (ByteText.lines text)

end MailTemplates.Script.Tools
