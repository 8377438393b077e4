import MailTemplates.Remote.Host
/-!
# URLs

A URL is cut into scheme, host, path, query and fragment. A path of segments is kept with `.` and
`..` taken out and with every character that has no place there written as its bytes. A relative
path is read from the directory of the URL it belongs to.
-/

namespace MailTemplates.Remote

open Percent (encode isControl)
open Text (splitAt)

/-- Who is asked where: the host, its port if it is not that of the scheme, and a user. -/
structure Authority where
  user : List Char
  password : List Char
  host : Host
  port : Option Nat
deriving DecidableEq, Repr

/-- The path of a URL. -/
inductive UrlPath where
  | segments (items : List (List Char))
  /-- A path that no relative one can be read from. -/
  | whole (text : List Char)
deriving DecidableEq, Repr

/-- A URL. -/
structure Url where
  scheme : List Char
  authority : Option Authority
  path : UrlPath
  query : Option (List Char) := none
  fragment : Option (List Char) := none
deriving DecidableEq, Repr

namespace Url

/-! ## Characters -/

/-- A character that is written as its bytes in a fragment. -/
def isFragmentEncoded (c : Char) : Bool := isControl c || " \"<>`".toList.contains c

/-- A character that is written as its bytes in a path. -/
def isPathEncoded (c : Char) : Bool :=
  isControl c || " \"#<>?`".toList.contains c || c == '{' || c == '}'

/-- A character that is written as its bytes in a user or a password. -/
def isUserEncoded (c : Char) : Bool := isPathEncoded c || "/:;=@[\\]^|".toList.contains c

/-- A character that is written as its bytes in a query. -/
def isQueryEncoded (special : Bool) (c : Char) : Bool :=
  isControl c || " \"#<>".toList.contains c || (special && c == '\'')

/-! ## Schemes -/

/-- The port of a scheme whose URLs all have a host. -/
def defaultPort : List Char → Option (Option Nat)
  | ['h', 't', 't', 'p'] => some (some 80)
  | ['h', 't', 't', 'p', 's'] => some (some 443)
  | ['w', 's'] => some (some 80)
  | ['w', 's', 's'] => some (some 443)
  | ['f', 't', 'p'] => some (some 21)
  | ['f', 'i', 'l', 'e'] => some none
  | _ => none

/-- Whether the URLs of a scheme are hierarchical, with a host and a path that starts with `/`. -/
def isSpecial (scheme : List Char) : Bool := (defaultPort scheme).isSome

/-- Whether the URLs of a scheme name files, which need no host. -/
def isFile (scheme : List Char) : Bool := scheme == "file".toList

/-- The scheme in small letters and what follows its colon. -/
def splitScheme (cs : List Char) : Option (List Char × List Char) :=
  let scheme := cs.takeWhile fun c => c.isAlphanum || c == '+' || c == '-' || c == '.'
  match scheme, cs.drop scheme.length with
  | c :: _, ':' :: rest => if c.isAlpha then some (scheme.map Char.toLower, rest) else none
  | _, _ => none

/-! ## Paths -/

/-- A character that ends a segment. -/
def isSlash (special : Bool) (c : Char) : Bool := c == '/' || (special && c == '\\')

/-- A text in small letters. -/
def lower (cs : List Char) : List Char := cs.map Char.toLower

/-- A segment that stands for the directory itself. -/
def isSingleDot (segment : List Char) : Bool :=
  ([".", "%2e"].map String.toList).contains (lower segment)

/-- A segment that stands for the directory above. -/
def isDoubleDot (segment : List Char) : Bool :=
  (["..", ".%2e", "%2e.", "%2e%2e"].map String.toList).contains (lower segment)

/-- A letter and a colon or a bar: the name of a drive. -/
def isDrive : List Char → Bool
  | [c, d] => c.isAlpha && (d == ':' || d == '|')
  | _ => false

/-- A segment that starts with the name of a drive which ends there. -/
def startsWithDrive (segment : List Char) : Bool :=
  isDrive (segment.take 2) && ((segment.drop 2).head?.all "/\\?#".toList.contains)

/-- The directory above; none is above a drive. -/
def above (before : List (List Char)) : List (List Char) :=
  match before.getLast? with
  | some segment => if startsWithDrive segment then before else before.dropLast
  | none => []

/-- Segments read behind others. The first segment of a path to a file may be a drive. -/
def walkSegments (isFile : Bool) : List (List Char) → List (List Char) → List (List Char)
  | before, [] => before
  | before, segment :: rest =>
    let last : List (List Char) := if rest.isEmpty then [[]] else []
    let next :=
      if isDoubleDot segment then above before ++ last
      else if isSingleDot segment then before ++ last
      else if isFile && before.isEmpty && isDrive segment then [segment.take 1 ++ [':']]
      else before ++ [encode isPathEncoded segment]
    walkSegments isFile next rest

/-- A text with the character `/` for all that end a segment. -/
def slashed (special : Bool) (cs : List Char) : List Char :=
  cs.map fun c => if isSlash special c then '/' else c

/-- The path behind a host. -/
def rootedPath (scheme cs : List Char) : List (List Char) :=
  let special := isSpecial scheme
  match slashed special cs with
  | [] => if special then [[]] else []
  | '/' :: rest => walkSegments (isFile scheme) [] (splitAt '/' rest)
  | rest => walkSegments (isFile scheme) [] (splitAt '/' rest)

/-- The path of a file, which does not start with empty segments. -/
def filePath (segments : List (List Char)) : List (List Char) :=
  match segments.dropWhile List.isEmpty with
  | [] => [[]]
  | rest => rest

/-! ## Parsing -/

/-- The text up to a character, and what follows it if it is there. -/
def cutAt (sep : Char) (cs : List Char) : List Char × Option (List Char) :=
  let before := cs.takeWhile (· != sep)
  (before, match cs.drop before.length with
    | _ :: after => some after
    | [] => none)

/-- A text without control characters and spaces around it and without tabs and line breaks. -/
def clean (s : String) : List Char :=
  let outer (c : Char) : Bool := c.toNat ≤ 0x20
  let cs := ((s.toList.dropWhile outer).reverse.dropWhile outer).reverse
  cs.filter fun c => !(c == '\t' || c == '\n' || c == '\r')

private def parsePort (scheme cs : List Char) : Except UrlProblem (Option Nat) :=
  if !cs.all Char.isDigit then .error .badPort
  else
    match Host.numberIn 10 cs with
    | some n =>
      if cs.isEmpty then .ok none
      else if 65535 < n then .error .badPort
      else .ok (if defaultPort scheme == some (some n) then none else some n)
    | none => .error .badPort

/-- The end of a host: a colon that is not inside brackets. -/
private def hostLength : Bool → List Char → Nat
  | _, [] => 0
  | inside, c :: cs =>
    if c = ':' && !inside then 0
    else 1 + hostLength (if c = '[' then true else if c = ']' then false else inside) cs

/-- Reads user, host and port, and gives what is left. A port ends at a backslash. -/
def parseAuthority (scheme cs : List Char) : Except UrlProblem (Authority × List Char) := do
  let (userInfo, hostPort) := match cs.reverse.dropWhile (· != '@') with
    | _ :: before => (some before.reverse, cs.drop (before.length + 1))
    | [] => (none, cs)
  let (user, password) := cutAt ':' (userInfo.getD [])
  let password := password.getD []
  let n := hostLength false hostPort
  let hostText := hostPort.take n
  let behind := hostPort.drop (n + 1)
  let portText := behind.takeWhile (· != '\\')
  let hasUser := userInfo == some [] || !user.isEmpty || !password.isEmpty
  if hostText.isEmpty && (hasUser || n < hostPort.length) then throw .emptyHost
  let host ← if isSpecial scheme then Host.ofSpecial hostText else Host.ofOpaque hostText
  let port ← parsePort scheme portText
  return (⟨encode isUserEncoded user, encode isUserEncoded password, host, port⟩,
    behind.drop portText.length)

private def noHost : Authority := ⟨[], [], .name [], none⟩

/-- Reads the host and the path of a file. -/
def parseFile (cs : List Char) : Except UrlProblem (Authority × List (List Char)) := do
  let path (cs : List Char) := rootedPath "file".toList cs
  if (cs.takeWhile (isSlash true)).length < 2 then return (noHost, filePath (path cs))
  let behind := cs.drop 2
  let hostText := behind.takeWhile fun c => !isSlash true c
  if isDrive hostText then return (noHost, filePath (path behind))
  let segments := path (behind.drop hostText.length)
  if hostText.isEmpty then return (noHost, filePath segments)
  let host ← Host.ofSpecial hostText
  let isHere := host == .name "localhost".toList || segments.head?.any isDrive
  return (if isHere then noHost else { noHost with host }, filePath segments)

/-- The URL that a text writes. -/
def parse (s : String) : Except UrlProblem Url := do
  let some (scheme, rest) := splitScheme (clean s) | throw .noBase
  let special := isSpecial scheme
  let (rest, fragment) := cutAt '#' rest
  let (rest, query) := cutAt '?' rest
  let query := query.map (encode (isQueryEncoded special))
  let fragment := fragment.map (encode isFragmentEncoded)
  let slashes := (rest.takeWhile (isSlash special)).length
  if isFile scheme then
    let (authority, segments) ← parseFile rest
    return ⟨scheme, some authority, .segments segments, query, fragment⟩
  else if special || 2 ≤ slashes then
    let behind := rest.drop (if special then slashes else 2)
    let text := behind.takeWhile fun c => !isSlash special c
    let (authority, left) ← parseAuthority scheme text
    let path := rootedPath scheme (left ++ behind.drop text.length)
    return ⟨scheme, some authority, .segments path, query, fragment⟩
  else if slashes = 1 then
    return ⟨scheme, none, .segments (rootedPath scheme rest), query, fragment⟩
  else
    return ⟨scheme, none, .whole (encode isControl rest), query, fragment⟩

/-- The URL of a relative path as seen from a URL. -/
def resolvePath (base : Url) (reference : String) : Except UrlProblem Url :=
  match base.path with
  | .whole _ => .error .opaqueBase
  | .segments items =>
    let special := isSpecial base.scheme
    let (rest, fragment) := cutAt '#' (clean reference)
    let (rest, query) := cutAt '?' rest
    let path := walkSegments (isFile base.scheme) items.dropLast
      (splitAt '/' (slashed special rest))
    .ok { base with
      path := .segments (if isFile base.scheme then filePath path else path)
      query := query.map (encode (isQueryEncoded special))
      fragment := fragment.map (encode isFragmentEncoded) }

/-! ## Printing -/

private def segmentsText (items : List (List Char)) : List Char := items.flatMap ('/' :: ·)

private def orNothing (sign : Char) : Option (List Char) → List Char
  | some cs => sign :: cs
  | none => []

/-- Host and port. -/
def Authority.place (a : Authority) : List Char :=
  a.host.text ++ match a.port with
    | some n => ':' :: Nat.toDigits 10 n
    | none => []

private def userText (a : Authority) : List Char :=
  if a.user.isEmpty && a.password.isEmpty then []
  else a.user ++ (if a.password.isEmpty then [] else ':' :: a.password) ++ ['@']

/-- The path and query, as a request names them. A path that could be taken for a host is written
from the directory itself. -/
def target (u : Url) : List Char :=
  (match u.path, u.authority with
    | .segments ([] :: second :: rest), none => "/.".toList ++ segmentsText ([] :: second :: rest)
    | .segments items, _ => segmentsText items
    | .whole cs, _ => cs) ++ orNothing '?' u.query

/-- The text of a URL. -/
def text (u : Url) : String :=
  let place := match u.authority with
    | some a => '/' :: '/' :: userText a ++ Authority.place a
    | none => []
  String.ofList (u.scheme ++ [':'] ++ place ++ u.target ++ orNothing '#' u.fragment)

/-- The URL without its user and password. -/
def withoutUser (u : Url) : Url :=
  { u with authority := u.authority.map fun a => { a with user := [], password := [] } }

/-- The URL as it is requested: without user and fragment. -/
def fetched (u : Url) : Url := { u.withoutUser with fragment := none }

/-- Whether it names a host. -/
def hasHost (u : Url) : Bool :=
  match u.authority with
  | some a => a.host != .name []
  | none => false

/-- Whether it can be fetched at all. -/
def isWeb (u : Url) : Bool := u.scheme == "http".toList || u.scheme == "https".toList

end Url

end MailTemplates.Remote
