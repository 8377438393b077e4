import MailTemplates.Script.ByteText
import MailTemplates.Script.Format
import MailTemplates.Script.Tool.Basic
/-!
# Tools that order lines

Lines are put in order by keys, of which each is a part of the line, and runs of equal lines become
one.

A line is compared key by key, and the first key that tells two lines apart decides. If none does,
the whole lines are compared, unless the order is to be stable or equal lines are to become one.
-/

namespace MailTemplates.Script.Tools

/-- A key of a line: from a field, and a place in it, to another. -/
structure SortKey where
  first : Nat := 1
  last : Option Nat := none
  numeric : Bool := false
  reversed : Bool := false
  folding : Bool := false
deriving Repr

/-- The number in front of a text, as a numerator for a denominator of so many zeros. -/
private def leadingNumber (cs : List Char) : Int × Nat :=
  let cs := cs.dropWhile " \t\n".toList.contains
  let (sign, cs) : Int × List Char := match cs with
    | '-' :: rest => (-1, rest)
    | _ => (1, cs)
  let whole := cs.takeWhile Char.isDigit
  let fraction := match cs.drop whole.length with
    | '.' :: rest => rest.takeWhile Char.isDigit
    | _ => []
  let n := digitsValue (whole ++ fraction)
  (sign * Int.ofNat n, fraction.length)

private def compareNumbers (a b : List Char) : Ordering :=
  let (m, i) := leadingNumber a
  let (n, j) := leadingNumber b
  compare (m * Int.ofNat (Nat.pow 10 j)) (n * Int.ofNat (Nat.pow 10 i))

/-- The order of texts by their characters. -/
def compareTexts : List Char → List Char → Ordering
  | [], [] => .eq
  | [], _ => .lt
  | _, [] => .gt
  | a :: as, b :: bs => if a == b then compareTexts as bs else compare a b

/-- The fields of a line; without a separator each has the blanks in front of it. -/
private def fields (separator : Option Char) (line : List Char) : List (List Char) :=
  match separator with
  | some c => (String.ofList line).splitOn (String.singleton c) |>.map String.toList
  | none =>
    let step (done : List (List Char)) (c : Char) : List (List Char) :=
      match done with
      | [] => [[c]]
      | f :: rest =>
        if (c == ' ' || c == '\t') && f.head?.any (fun d => d != ' ' && d != '\t') then
          [c] :: f :: rest
        else (c :: f) :: rest
    ((line.foldl step []).map List.reverse).reverse

private def SortKey.part (k : SortKey) (separator : Option Char) (line : List Char) : List Char :=
  let fs := (fields separator line).drop (k.first - 1)
  let fs := match k.last with
    | some n => fs.take (n + 1 - k.first)
    | none => fs
  (match separator with
    | some c => [c].intercalate fs
    | none => fs.flatten)

private def SortKey.compare (k : SortKey) (separator : Option Char) (whole : Bool)
    (a b : List Char) : Ordering :=
  let part (cs : List Char) : List Char := if whole then cs else k.part separator cs
  let fold (cs : List Char) : List Char := if k.folding then cs.map Char.toUpper else cs
  let order := if k.numeric then compareNumbers (part a) (part b)
    else compareTexts (fold (part a)) (fold (part b))
  if k.reversed then order.swap else order

/-- The key that a text describes; its letters count in place of the general ones. -/
private def key? (general : SortKey) (s : String) : Option SortKey :=
  let field (cs : List Char) : Nat × List Char :=
    let ds := cs.takeWhile Char.isDigit
    let rest := cs.drop ds.length
    let rest := match rest with
      | '.' :: more => more.dropWhile Char.isDigit
      | _ => rest
    (digitsValue ds, rest)
  let (first, rest) := field s.toList
  let letters := rest.takeWhile Char.isAlpha
  let (last, more) : Option Nat × List Char := match rest.drop letters.length with
    | ',' :: rest =>
      let (n, more) := field rest
      (some n, more)
    | _ => (none, [])
  let letters := letters ++ more
  if first == 0 then none
  else if letters.isEmpty then some { general with first, last }
  else some { first, last, numeric := letters.contains 'n', reversed := letters.contains 'r'
              folding := letters.contains 'f' }

/-- The lines in order. -/
def sort : Tool := fun s args =>
  let table : OptionTable :=
    { plain := "nrufbsd", valued := "kto", misuse := 2
      long := [("numeric-sort", 'n'), ("reverse", 'r'), ("unique", 'u'), ("ignore-case", 'f'),
        ("stable", 's'), ("key", 'k'), ("field-separator", 't'), ("output", 'o')] }
  withOptions "sort" table s args fun o =>
    let general : SortKey :=
      { numeric := o.has 'n', reversed := o.has 'r', folding := o.has 'f' }
    let separator := (o.value? 't').bind fun t => t.toList.head?
    let keys := (o.values 'k').filterMap (key? general)
    let byKeys (a b : List Char) : Ordering :=
      if keys.isEmpty then general.compare separator true a b
      else keys.foldl (fun done k => done.then (k.compare separator false a b)) .eq
    -- Lines that no key tells apart are in the order of their texts.
    let order (a b : List Char) : Ordering :=
      if o.has 's' || o.has 'u' then byKeys a b
      else (byKeys a b).then
        (let last := compareTexts a b
         if o.has 'r' then last.swap else last)
    let run := filtering "sort" s o.operands fun text =>
      let sorted := (ByteText.lines text).mergeSort fun a b => order a b != .gt
      let sorted := if !o.has 'u' then sorted
        else (sorted.foldl (fun done line =>
          match done with
          | last :: _ => if byKeys last line == .eq then done else line :: done
          | [] => [line]) ([] : List (List Char))).reverse
      ByteText.ofLines sorted
    match o.value? 'o' with
    | some name => { run with output := [], written := [{ name, text := run.output }] }
    | none => run

/-- Runs of equal lines as one, with their number if wanted. -/
def uniq : Tool := fun s args =>
  let table : OptionTable :=
    { plain := "cdui"
      long := [("count", 'c'), ("repeated", 'd'), ("unique", 'u'), ("ignore-case", 'i')] }
  withOptions "uniq" table s args fun o =>
    filtering "uniq" s o.operands fun text =>
      let same (a b : List Char) : Bool :=
        if o.has 'i' then a.map Char.toLower == b.map Char.toLower else a == b
      let runs := (ByteText.lines text).foldl (fun done line =>
        match done with
        | (first, n) :: rest =>
          if same first line then (first, n + 1) :: rest else (line, 1) :: done
        | [] => [(line, 1)]) ([] : List (List Char × Nat))
      let kept := runs.reverse.filter fun (_, n) =>
        (!o.has 'd' || 1 < n) && (!o.has 'u' || n == 1)
      ByteText.ofLines (kept.map fun (line, n) =>
        if o.has 'c' then Format.padded false 7 (toString n).toList ++ ' ' :: line else line)

end MailTemplates.Script.Tools
