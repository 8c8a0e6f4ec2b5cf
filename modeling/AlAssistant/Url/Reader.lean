import AlAssistant.Url.Host
import AlAssistant.Url.Path

/-!
# Reading URLs

Blanks and controls around a URL are dropped, and so are tabs and line ends inside it. A text
has to begin with a scheme. The special schemes have a host and a default port, and take a
backslash for a slash. The first fault from left to right is the one reported.
-/
namespace AlAssistant.Url

open AlAssistant.Text

/-- Default ports of the special schemes other than `file`. -/
def defaultPorts : List (String × Nat) :=
  [("http", 80), ("https", 443), ("ws", 80), ("wss", 443), ("ftp", 21)]

def defaultPort? (scheme : List Char) : Option Nat := defaultPorts.lookup (String.ofList scheme)

def isFileScheme (scheme : List Char) : Bool := scheme == "file".toList

def isSpecial (scheme : List Char) : Bool := isFileScheme scheme || (defaultPort? scheme).isSome

/-- The text without blanks and controls around it and without tabs and line ends. -/
def clean (text : List Char) : List Char :=
  let outer (c : Char) : Bool := c.toNat ≤ 0x20
  let trimmed := ((text.dropWhile outer).reverse.dropWhile outer).reverse
  trimmed.filter fun c => !(c == '\t' || c == '\n' || c == '\r')

def isSchemeChar (c : Char) : Bool := c.isAlphanum || c == '+' || c == '-' || c == '.'

/-- The scheme in lower case, and the text behind its colon. -/
def scheme? (text : List Char) : Option (List Char × List Char) :=
  match text with
  | first :: _ =>
    if !first.isAlpha then none
    else match text.dropWhile isSchemeChar with
      | ':' :: rest => some (asciiLower (text.takeWhile isSchemeChar), rest)
      | _ => none
  | [] => none

def endsPath (c : Char) : Bool := c == '?' || c == '#'

def endsAuthority (special : Bool) (c : Char) : Bool :=
  c == '/' || endsPath c || (special && c == '\\')

/-- User name and password. Only the first colon separates them. -/
def splitUserinfo (text : List Char) : List Char × List Char :=
  let encode := percentEncode userinfoSet
  match cutAt? [':'] text with
  | none => (encode text, [])
  | some (username, password) => (encode username, encode password)

/-- How much of the text belongs to the host: up to a colon outside brackets. -/
def takeHost (special : Bool) (inBrackets : Bool) : List Char → List Char
  | [] => []
  | c :: rest =>
    if (c == ':' && !inBrackets) || endsAuthority special c then []
    else
      let nowInBrackets := if c == '[' then true else if c == ']' then false else inBrackets
      c :: takeHost special nowInBrackets rest

/-- The port behind a colon, and what follows. The default port of a scheme is left out. -/
def readPort (scheme text : List Char) : Except Error (Option Nat × List Char) :=
  let digits := text.takeWhile Char.isDigit
  let rest := text.dropWhile Char.isDigit
  let value := ofDigits digits
  if 65535 < value then .error .invalidPort
  else if rest.isEmpty || rest.head?.any (endsAuthority true) then
    .ok (if digits.isEmpty || defaultPort? scheme = some value then none else some value, rest)
  else .error .invalidPort

/-- What stands between the slashes and the path. -/
structure Authority where
  username : List Char
  password : List Char
  host : Host
  port : Option Nat

/-- Reads host and port. An empty host takes no port, and no special scheme has one. -/
def readHostAndPort (scheme text : List Char) : Except Error ((Host × Option Nat) × List Char) := do
  let special := isSpecial scheme
  let hostText := takeHost special false text
  let rest := text.drop hostText.length
  if special && hostText.isEmpty then .error .emptyHost
  let host ← if special then Host.ofText hostText else Host.ofUncheckedText hostText
  match rest with
  | ':' :: portText =>
    if host = .empty then .error .emptyHost
    else do
      let (port, rest) ← readPort scheme portText
      return ((host, port), rest)
  | _ => return ((host, none), rest)

/-- Reads an authority. The last `@` before the path ends the user information. -/
def readAuthority (scheme text : List Char) : Except Error (Authority × List Char) := do
  let special := isSpecial scheme
  let authority := text.takeWhile (!endsAuthority special ·)
  if authority.contains '@' then
    let hostText := afterLast '@' authority
    let userText := authority.take (authority.length - hostText.length - 1)
    let rest := text.drop (userText.length + 1)
    if userText.isEmpty && rest.head?.any (endsAuthority special) then .error .emptyHost
    let (username, password) := splitUserinfo userText
    let ((host, port), rest) ← readHostAndPort scheme rest
    if host = .empty && !(username.isEmpty && password.isEmpty) then .error .emptyHost
    return (⟨username, password, host, port⟩, rest)
  else
    let ((host, port), rest) ← readHostAndPort scheme text
    return (⟨[], [], host, port⟩, rest)

/-- Query and fragment from the text behind the path. -/
def readQueryAndFragment (special : Bool) (text : List Char) :
    Option (List Char) × Option (List Char) :=
  let encodeQuery := percentEncode (if special then specialQuerySet else querySet)
  let encodeFragment := percentEncode fragmentSet
  match text with
  | '?' :: rest =>
    match cutAt? ['#'] rest with
    | some (query, fragment) => (some (encodeQuery query), some (encodeFragment fragment))
    | none => (some (encodeQuery rest), none)
  | '#' :: fragment => (none, some (encodeFragment fragment))
  | _ => (none, none)

/-- Puts the parts together, with the path and what follows it still to be read. -/
def finish (scheme : List Char) (authority : Option Authority) (pathText rest : List Char)
    (path : List Char → Path) : Url :=
  let (query, fragment) := readQueryAndFragment (isSpecial scheme) rest
  { scheme := scheme
    username := (authority.map (·.username)).getD []
    password := (authority.map (·.password)).getD []
    host := authority.map (·.host)
    port := authority.bind (·.port)
    path := path pathText
    query := query
    fragment := fragment }

/-- The text of the path, and the rest from the query or fragment on. -/
def cutPath (text : List Char) : List Char × List Char :=
  (text.takeWhile (!endsPath ·), text.dropWhile (!endsPath ·))

/-- The path behind an authority. Only a scheme that is not special may have none. -/
def pathBehindHost (special : Bool) (text : List Char) : Path :=
  match text with
  | [] => if special then .segments [[]] else .segments []
  | c :: rest =>
    let text := if c == '/' || (special && c == '\\') then rest else text
    .segments (resolvePath special false text).path

/-- Reads a URL with an authority from the text behind the slashes. -/
def readHierarchical (scheme text : List Char) : Except Error Url := do
  let (authority, rest) ← readAuthority scheme text
  let (pathText, rest) := cutPath rest
  return finish scheme (some authority) pathText rest (pathBehindHost (isSpecial scheme))

/-- Reads a URL of a scheme that is not special. -/
def readOther (scheme text : List Char) : Except Error Url :=
  match text with
  | '/' :: '/' :: rest => readHierarchical scheme rest
  | '/' :: rest =>
    let (pathText, rest) := cutPath rest
    .ok (finish scheme none pathText rest fun text => .segments (resolvePath false false text).path)
  | _ =>
    let (pathText, rest) := cutPath text
    .ok (finish scheme none pathText rest fun text => .opaqueText (opaquePath text !rest.isEmpty))

def isSlash (c : Char) : Bool := c == '/' || c == '\\'

/-- The path of a file. A drive letter in it takes the host away. -/
def finishFile (host : Host) (text : List Char) : Url :=
  let (pathText, rest) := cutPath text
  let pathText := match pathText with
    | c :: behind => if isSlash c then behind else pathText
    | [] => []
  let state := resolvePath true true pathText
  finish "file".toList (some ⟨[], [], if state.drive then .empty else host, none⟩) pathText rest
    fun _ => .segments state.path

/-- The host of a file URL: the local host is no host. -/
def fileHost (text : List Char) : Except Error Host :=
  if text.isEmpty then .ok .empty
  else do
    let host ← Host.ofText text
    return if host = .domain "localhost".toList then .empty else host

/-- Reads a file URL. Two slashes open a host unless a drive letter follows them. -/
def readFile (text : List Char) : Except Error Url :=
  match text with
  | a :: b :: rest =>
    if isSlash a && isSlash b then
      let hostText := rest.takeWhile (!endsAuthority true ·)
      if isDriveLetter hostText then .ok (finishFile .empty rest)
      else do
        let host ← fileHost hostText
        return finishFile host (rest.drop hostText.length)
    else .ok (finishFile .empty text)
  | _ => .ok (finishFile .empty text)

/-- Reads a URL that stands on its own. -/
def ofChars (text : List Char) : Except Error Url :=
  match scheme? (clean text) with
  | none => .error .relativeWithoutBase
  | some (scheme, rest) =>
    if isFileScheme scheme then readFile rest
    else if isSpecial scheme then readHierarchical scheme (rest.dropWhile isSlash)
    else readOther scheme rest

def ofText (text : String) : Except Error Url := ofChars text.toList

/-- The URL of a text, when it is one. -/
def ofText? (text : String) : Option Url := (ofText text).toOption

end AlAssistant.Url
