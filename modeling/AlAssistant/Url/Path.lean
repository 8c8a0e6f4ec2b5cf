import AlAssistant.Url.Basic
import AlAssistant.Url.Percent

/-!
# Paths

How the path of a URL is resolved, and which path of the file system a URL names.
-/
namespace AlAssistant.Url

open AlAssistant.Text

/-! ## Paths of URLs

A path is resolved segment by segment: a single dot is dropped, two dots remove the segment
before, and either leaves an empty segment when it stands last. Dots may be percent-encoded.
A drive letter is never removed. In a file URL a first segment such as `C|` is written `C:`,
and empty segments at the front are dropped.
-/

/-- A letter and a colon or a bar. -/
def isDriveLetter : List Char → Bool
  | [letter, mark] => letter.isAlpha && (mark == ':' || mark == '|')
  | _ => false

def singleDots : List (List Char) := [".".toList, "%2e".toList]

def doubleDots : List (List Char) :=
  ["..".toList, "%2e%2e".toList, "%2e.".toList, ".%2e".toList]

def isSingleDot (segment : List Char) : Bool := singleDots.contains (asciiLower segment)

def isDoubleDot (segment : List Char) : Bool := doubleDots.contains (asciiLower segment)

/-- Removes the last segment unless it is a drive letter. -/
def shorten (path : List (List Char)) : List (List Char) :=
  match path.getLast? with
  | some segment => if isDriveLetter segment then path else path.dropLast
  | none => path

/-- What resolving a path knows: whether it is that of a file, the segments so far, and
whether a drive letter opened it. -/
structure PathState where
  isFile : Bool
  path : List (List Char)
  drive : Bool := false

/-- Adds one segment as written; `last` says that no separator follows. -/
def PathState.add (s : PathState) (segment : List Char) (last : Bool) : PathState :=
  if isDoubleDot segment then
    { s with path := shorten s.path ++ (if last then [[]] else []) }
  else if isSingleDot segment then
    { s with path := s.path ++ (if last then [[]] else []) }
  else if s.isFile && s.path.isEmpty && isDriveLetter segment then
    { s with path := [segment.take 1 ++ [':']], drive := true }
  else
    { s with path := s.path ++ [percentEncode pathSet segment] }

/-- Adds all segments in order. -/
def PathState.addAll (s : PathState) : List (List Char) → PathState
  | [] => s
  | [segment] => s.add segment true
  | segment :: segments => (s.add segment false).addAll segments

/-- Drops empty segments at the front, but not the only one. -/
def dropEmptyFront : List (List Char) → List (List Char)
  | [] :: segment :: segments => dropEmptyFront (segment :: segments)
  | segments => segments

/-- Cuts a path at slashes, and at backslashes in a special scheme. -/
def splitPath (special : Bool) (text : List Char) : List (List Char) :=
  splitOnChar '/' (if special then text.map fun c => if c = '\\' then '/' else c else text)

/-- Resolves the text of a path behind its first slash. -/
def resolvePath (special isFile : Bool) (text : List Char) : PathState :=
  let s := PathState.addAll ⟨isFile, [], false⟩ (splitPath special text)
  if isFile then { s with path := dropEmptyFront s.path } else s

/-- The text of a path without hierarchy. A space before the query or fragment is encoded. -/
def opaquePath (text : List Char) (more : Bool) : List Char :=
  let encoded := percentEncode controlSet text
  if more && encoded.getLast? = some ' ' then encoded.dropLast ++ "%20".toList else encoded

end AlAssistant.Url

namespace AlAssistant

/-! ## Paths of files

A URL without a remote host names a path in the file system: its segments with the percent
signs decoded. Two ways to write a path are the same path when they go through the same
names, so a path is the list of its names.
-/

/-- An absolute path, from the root down, each name in bytes. -/
structure FilePath where
  names : List (List UInt8)
deriving DecidableEq, Repr

namespace FilePath

/-- The names between slashes; empty names and single dots lead nowhere. -/
def ofBytes (path : List UInt8) : FilePath :=
  ⟨(path.splitOn 47).filter fun name => !(name.isEmpty || name == [46])⟩

def ofText (path : String) : FilePath := ofBytes (Url.utf8 path.toList)

/-- The path of something directly inside. -/
def child (path : FilePath) (name : String) : FilePath :=
  ⟨path.names ++ [Url.utf8 name.toList]⟩

end FilePath

/-- The path that a URL names in the file system. -/
def Url.filePath? (url : Url) : Option FilePath :=
  let isLocal := match url.host with
    | none => true
    | some .empty => true
    | some (.domain name) => name == "localhost".toList
    | some (.opaqueName name) => name == "localhost".toList
    | _ => false
  match url.path with
  | .segments (first :: more) =>
    if isLocal then
      some (.ofBytes ((first :: more).flatMap fun part => 47 :: percentDecode (utf8 part)))
    else none
  | _ => none

end AlAssistant
