/-!
# Bytes as text

A script and everything it works on are bytes. They are kept as text in which each character stands
for one byte, so that a script reads like text and no byte is lost.
-/

namespace MailTemplates.Script.ByteText

/-- The text of bytes. -/
def ofBytes (bytes : ByteArray) : List Char := bytes.data.toList.map fun b => Char.ofNat b.toNat

/-- The bytes of a text. -/
def toBytes (cs : List Char) : ByteArray := ⟨(cs.map fun c => UInt8.ofNat c.toNat).toArray⟩

/-- The bytes of a name or another text, as text. -/
def encode (s : String) : String := String.ofList (ofBytes s.toUTF8)

/-- The name that bytes are, as far as they are UTF-8. -/
def decode (s : String) : String :=
  (String.fromUTF8? (toBytes s.toList)).getD s

/-- The parts of a text in front of marks. What is behind the last mark is a part too if it is not
empty. -/
def linesBy (mark : Char) (cs : List Char) : List (List Char) :=
  let rec go (line : List Char) (done : List (List Char)) : List Char → List (List Char)
    | [] => (if line.isEmpty then done else line.reverse :: done).reverse
    | c :: rest =>
      if c == mark then go [] (line.reverse :: done) rest else go (c :: line) done rest
  go [] [] cs

/-- The lines of a text. -/
def lines (cs : List Char) : List (List Char) := linesBy '\n' cs

/-- A text of lines, each with an end. -/
def ofLines (ls : List (List Char)) : List Char := ls.flatMap fun l => l ++ ['\n']

end MailTemplates.Script.ByteText
