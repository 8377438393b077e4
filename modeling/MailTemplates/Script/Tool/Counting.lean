import MailTemplates.Script.Tool.Copying
/-!
# Tools that count

How many lines, words and characters there are, and which number each line has.
-/

namespace MailTemplates.Script.Tools

private def isGap (c : Char) : Bool := " \t\n\x0b\x0c\r".toList.contains c

/-- How many words there are. -/
def wordCount (cs : List Char) : Nat :=
  (cs.foldl (fun (n, inside) c =>
    if isGap c then (n, false) else (if inside then n else n + 1, true)) (0, false)).1

/-- Counts lines, words and characters. -/
def wc : Tool := fun s args =>
  let table : OptionTable :=
    { plain := "lwcm"
      long := [("lines", 'l'), ("words", 'w'), ("bytes", 'c'), ("chars", 'm')] }
  withOptions "wc" table s args fun o =>
    let o := if o.letters.isEmpty then
      { o with letters := [('l', ""), ('w', ""), ('c', "")] } else o
    let counts (cs : List Char) : List Nat :=
      (if o.has 'l' then [cs.count '\n'] else []) ++
        (if o.has 'w' then [wordCount cs] else []) ++
        (if o.has 'c' || o.has 'm' then [cs.length] else [])
    let files := inputs s o.operands
    let texts := files.filterMap fun (_, content) => content.toOption
    let kinds := (counts []).length
    let width :=
      if kinds == 1 && files.length == 1 then 1
      else if readsInput o.operands then 7
      else (toString ((texts.map List.length).foldl (· + ·) 0)).length
    let row (ns : List Nat) (name : String) : List Char :=
      let columns := ns.map fun n => String.ofList (Format.padded false width (toString n).toList)
      (" ".intercalate columns ++
        (if name.isEmpty then "" else " " ++ name) ++ "\n").toList
    let rows := files.filterMap fun (file, content) =>
      content.toOption.map fun cs => row (counts cs) (if o.operands.isEmpty then "" else file)
    let sums := (texts.map counts).foldl (fun a b => List.zipWith (· + ·) a b) (counts [])
    let complaints := files.filterMap fun (file, content) =>
      match content with
      | .error p => some s!"wc: {file}: {problemText p}"
      | .ok _ => none
    { output := rows.flatten ++ if files.length > 1 then row sums "total" else []
      complaints, status := if complaints.isEmpty then 0 else 1
      unread := leftOf s o.operands }

/-- Numbers in front of the lines that are not empty. -/
def nl : Tool := fun s args =>
  withOptions "nl" { valued := "b" } s args fun o =>
    let all := o.value? 'b' == some "a"
    filtering "nl" s o.operands fun text =>
      let (done, _) := (ByteText.lines text).foldl (fun (done, n) line =>
        if line.isEmpty && !all then (List.replicate 7 ' ' :: done, n)
        else (numbered n line :: done, n + 1))
        (([] : List (List Char)), 1)
      ByteText.ofLines done.reverse

end MailTemplates.Script.Tools
