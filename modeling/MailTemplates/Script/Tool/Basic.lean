import MailTemplates.FileTree.Basic
/-!
# Tools

A tool is a small program that is always there. It is given its arguments, its input and the files,
and makes an output, complaints, files and a status. Its options are letters behind a hyphen or
names behind two; some of them take a value.
-/

namespace MailTemplates.Script

/-- What a tool works on besides its arguments. -/
structure Surroundings where
  input : List Char
  file : String → Except FileProblem (List Char)

/-- A file that a tool writes. -/
structure WrittenFile where
  name : String
  text : List Char
  /-- Whether what is in the file stays in front. -/
  append : Bool := false

/-- What a tool has done. -/
structure ToolRun where
  output : List Char := []
  complaints : List String := []
  /-- Whether the output is written before the complaints. -/
  outputFirst : Bool := false
  status : Nat := 0
  /-- The input that it has not read. -/
  unread : List Char := []
  written : List WrittenFile := []

/-- A tool. -/
abbrev Tool := Surroundings → List String → ToolRun

/-- The wording of a problem as tools give it. -/
def problemText (p : FileProblem) : String :=
  ((p.message.splitOn " (os error").head?).getD p.message

/-- A run that fails with complaints. -/
def ToolRun.failed (s : Surroundings) (status : Nat) (complaints : List String) : ToolRun :=
  { complaints, status, unread := s.input }

/-- A run of a tool that does not know what it is to do. -/
def ToolRun.misused (s : Surroundings) (name : String) (status : Nat) (complaints : List String) :
    ToolRun :=
  .failed s status (complaints ++ [s!"Try '{name} --help' for more information."])

/-- A run that writes something and reads nothing. -/
def ToolRun.saying (s : Surroundings) (text : String) : ToolRun :=
  { output := text.toList, unread := s.input }

/-! ## Options -/

/-- The options of a tool. -/
structure OptionTable where
  /-- Letters that stand alone. -/
  plain : String := ""
  /-- Letters with a value right behind them or in the next argument. -/
  valued : String := ""
  /-- Letters that may have a value right behind them. -/
  attached : String := ""
  /-- Names that stand for letters. -/
  long : List (String × Char) := []
  /-- The status of a run with an option that is not known. -/
  misuse : Nat := 1

/-- The options and operands of a tool. -/
structure Options where
  /-- The letters, with their values. -/
  letters : List (Char × String) := []
  operands : List String := []

namespace Options

/-- Whether a letter is given. -/
def has (o : Options) (c : Char) : Bool := o.letters.any fun l => l.1 == c

/-- The value that a letter is given last. -/
def value? (o : Options) (c : Char) : Option String := o.letters.reverse.lookup c

/-- All values of a letter, in order. -/
def values (o : Options) (c : Char) : List String :=
  (o.letters.filter fun l => l.1 == c).map (·.2)

private def add (o : Options) (c : Char) (value : String) : Options :=
  { o with letters := o.letters ++ [(c, value)] }

/-- Takes the letters of one argument. The last one may take its value from the next argument. -/
def cluster (table : OptionTable) : List Char → List String → Options →
    Except String (Options × List String)
  | [], rest, o => .ok (o, rest)
  | c :: cs, rest, o =>
    if table.valued.toList.contains c then
      match cs, rest with
      | [], value :: rest => .ok (o.add c value, rest)
      | [], [] => .error s!"option requires an argument -- '{c}'"
      | _, _ => .ok (o.add c (String.ofList cs), rest)
    else if table.attached.toList.contains c then .ok (o.add c (String.ofList cs), rest)
    else if table.plain.toList.contains c then cluster table cs rest (o.add c "")
    else .error s!"invalid option -- '{c}'"

/-- Takes an option by its name, of which the front is enough if no other has it. -/
def named (table : OptionTable) (arg : String) (rest : List String) (o : Options) :
    Except String (Options × List String) :=
  let name := arg.toList.takeWhile (· != '=')
  let value := arg.toList.drop (name.length + 1)
  let exact := table.long.filter fun l => l.1.toList == name
  let fitting := table.long.filter fun l => name.isPrefixOf l.1.toList
  match if exact.isEmpty then fitting else exact with
  | [(full, c)] =>
    if table.valued.toList.contains c then
      if name.length < arg.length then .ok (o.add c (String.ofList value), rest)
      else
        match rest with
        | v :: rest => .ok (o.add c v, rest)
        | [] => .error s!"option '--{full}' requires an argument"
    else .ok (o.add c (String.ofList value), rest)
  | _ => .error s!"unrecognized option '--{arg}'"

/-- Reads arguments; options may stand behind operands. -/
def readFrom (table : OptionTable) : Nat → List String → Options → Except String Options
  | 0, _, o => .ok o
  | _ + 1, [], o => .ok o
  | fuel + 1, arg :: rest, o =>
    match arg.toList with
    | ['-', '-'] => .ok { o with operands := o.operands ++ rest }
    | '-' :: '-' :: name => do
      let (o, rest) ← named table (String.ofList name) rest o
      readFrom table fuel rest o
    | '-' :: c :: cs => do
      let (o, rest) ← cluster table (c :: cs) rest o
      readFrom table fuel rest o
    | _ => readFrom table fuel rest { o with operands := o.operands ++ [arg] }

/-- Reads arguments. -/
def read (table : OptionTable) (args : List String) : Except String Options :=
  readFrom table (args.length + 1) args {}

end Options

/-- Runs a tool with its options. -/
def withOptions (name : String) (table : OptionTable) (s : Surroundings) (args : List String)
    (run : Options → ToolRun) : ToolRun :=
  match Options.read table args with
  | .ok o => run o
  | .error complaint => .misused s name table.misuse [s!"{name}: {complaint}"]

/-! ## Input -/

/-- What the operands name, each with its name; the input if there are none. -/
def inputs (s : Surroundings) (operands : List String) :
    List (String × Except FileProblem (List Char)) :=
  match operands with
  | [] => [("-", .ok s.input)]
  | names => names.map fun name => (name, if name == "-" then .ok s.input else s.file name)

/-- Whether a tool reads its input. -/
def readsInput (operands : List String) : Bool := operands.isEmpty || operands.contains "-"

/-- What is left of the input of a tool that reads all of what its operands name. -/
def leftOf (s : Surroundings) (operands : List String) : List Char :=
  if readsInput operands then [] else s.input

/-- All that the operands name as one text, with the complaints about those that cannot be read. -/
def joined (name : String) (s : Surroundings) (operands : List String) :
    List Char × List String :=
  (inputs s operands).foldl (fun (text, complaints) (file, content) =>
    match content with
    | .ok cs => (text ++ cs, complaints)
    | .error p => (text, complaints ++ [s!"{name}: {file}: {problemText p}"])) ([], [])

/-- Runs a tool that makes one text of all its input. -/
def filtering (name : String) (s : Surroundings) (operands : List String)
    (f : List Char → List Char) : ToolRun :=
  let (text, complaints) := joined name s operands
  { output := f text, complaints, status := if complaints.isEmpty then 0 else 1
    unread := leftOf s operands }

/-- The number that digits write. -/
def digitsValue (ds : List Char) : Nat := ds.foldl (fun n c => n * 10 + (c.toNat - 0x30)) 0

end MailTemplates.Script
