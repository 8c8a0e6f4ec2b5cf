import AlAssistant.Text.Search

/-!
# URLs

A URL is kept in its parts, and a host may be a network address. Both are printed in one form.
-/
namespace AlAssistant.Url

open AlAssistant.Text

/-! ## Network addresses

A host that ends in a number is an address of four bytes. Its parts may be written in
decimal, octal or hexadecimal, and the last part fills all bytes that are left. An address
of eight 16-bit pieces stands in brackets; one gap `::` stands for a run of zero pieces, and
the last two pieces may be written as four decimal bytes. Addresses are printed in one form.
-/

/-- One part of a four-byte address: `0x` opens hexadecimal, `0` octal. -/
def ipv4Number? : List Char → Option Nat
  | [] => none
  | '0' :: 'x' :: digits => numeral? 16 digits
  | '0' :: 'X' :: digits => numeral? 16 digits
  | '0' :: d :: digits => numeral? 8 (d :: digits)
  | digits => numeral? 10 digits

/-- The dot-separated parts, without the empty one after a final dot. -/
def dotParts (host : List Char) : List (List Char) :=
  let parts := splitOnChar '.' host
  if 1 < parts.length ∧ parts.getLast? = some [] then parts.dropLast else parts

/-- Whether a host has to be a four-byte address. -/
def endsInNumber (host : List Char) : Bool :=
  match (dotParts host).getLast? with
  | none => false
  | some part => (!part.isEmpty && part.all Char.isDigit) || (ipv4Number? part).isSome

/-- The four-byte address as one number. -/
def ipv4? (host : List Char) : Option Nat :=
  let parts := dotParts host
  if 4 < parts.length then none
  else do
    let numbers ← parts.mapM ipv4Number?
    let last ← numbers.getLast?
    let leading := numbers.dropLast
    if leading.any (255 < ·) || Nat.pow 256 (4 - leading.length) ≤ last then none
    else return leading.foldl (256 * · + ·) 0 * Nat.pow 256 (4 - leading.length) + last

/-- Four bytes with dots between them. -/
def renderIpv4 (address : Nat) : List Char :=
  let byte (i : Nat) := (toString (address / Nat.pow 256 i % 256)).toList
  ['.'].intercalate [byte 3, byte 2, byte 1, byte 0]

/-- A decimal byte without leading zeros. -/
def decimalByte? (digits : List Char) : Option Nat :=
  match digits with
  | [] => none
  | ['0'] => some 0
  | '0' :: _ => none
  | _ => (numeral? 10 digits).filter (· < 256)

/-- One to four hexadecimal digits. -/
def hexPiece? (digits : List Char) : Option Nat :=
  if digits.isEmpty || 4 < digits.length then none else numeral? 16 digits

/-- The last part of an address: one piece, or four decimal bytes that make two. -/
def finalPieces? (part : List Char) : Option (List Nat) :=
  if part.contains '.' then
    match (splitOnChar '.' part).mapM decimalByte? with
    | some [a, b, c, d] => some [256 * a + b, 256 * c + d]
    | _ => none
  else (hexPiece? part).map ([·])

/-- Colon-separated pieces; four decimal bytes may end them. -/
def pieces? (text : List Char) : Option (List Nat) :=
  let parts := splitOnChar ':' text
  match parts.getLast? with
  | none => none
  | some final => do return (← parts.dropLast.mapM hexPiece?) ++ (← finalPieces? final)

/-- As `pieces?`, for a side of the gap, which may be empty. -/
def gapSide? (text : List Char) : Option (List Nat) :=
  if text.isEmpty then some [] else pieces? text

/-- The eight pieces of an address; a gap stands for at least one piece. -/
def ipv6? (text : List Char) : Option (List Nat) :=
  match cutAt? [':', ':'] text with
  | none => (pieces? text).filter (·.length = 8)
  | some (before, after) => do
    let left ← if before.contains '.' then none else gapSide? before
    let right ← gapSide? after
    if 7 < left.length + right.length then none
    else return left ++ List.replicate (8 - left.length - right.length) 0 ++ right

/-- Length of the run of zeros that a list begins with. -/
def leadingZeros (pieces : List Nat) : Nat := (pieces.takeWhile (· = 0)).length

/-- Start and length of the first longest run of zeros. -/
def longestZeros : List Nat → Nat → Nat × Nat → Nat × Nat
  | [], _, best => best
  | piece :: pieces, index, best =>
    let run := leadingZeros (piece :: pieces)
    longestZeros pieces (index + 1) (if best.2 < run then (index, run) else best)

def hexText (n : Nat) : List Char := Nat.toDigits 16 n

/-- Pieces in hexadecimal with colons; the first longest run of two or more zeros is the gap. -/
def renderIpv6 (pieces : List Nat) : List Char :=
  let written (part : List Nat) := [':'].intercalate (part.map hexText)
  match longestZeros pieces 0 (0, 1) with
  | (start, run) =>
    if run < 2 then written pieces
    else written (pieces.take start) ++ [':', ':'] ++ written (pieces.drop (start + run))

/-! ## Parts of a URL

A URL in the parts that the URL standard gives it. Components are kept in their encoded form,
so printing only puts delimiters between them. A path is either opaque text or a list of
segments; no segments print as nothing, one empty segment prints as a slash.
-/

inductive Host where
  | empty
  | domain (name : List Char)
  | ipv4 (address : Nat)
  | ipv6 (pieces : List Nat)
  | opaqueName (name : List Char)
deriving DecidableEq, Repr

inductive Path where
  | opaqueText (text : List Char)
  | segments (parts : List (List Char))
deriving DecidableEq, Repr

end Url

/-- A parsed URL. An empty password is no password. -/
structure Url where
  scheme : List Char
  username : List Char
  password : List Char
  host : Option Url.Host
  port : Option Nat
  path : Url.Path
  query : Option (List Char)
  fragment : Option (List Char)
deriving DecidableEq, Repr

namespace Url

def Host.render : Host → List Char
  | .empty => []
  | .domain name => name
  | .ipv4 address => renderIpv4 address
  | .ipv6 pieces => ['['] ++ renderIpv6 pieces ++ [']']
  | .opaqueName name => name

def Path.render : Path → List Char
  | .opaqueText text => text
  | .segments parts => parts.flatMap ('/' :: ·)

/-- The path with its delimiters. -/
def pathText (url : Url) : List Char := url.path.render

def userinfo (url : Url) : List Char :=
  if url.username.isEmpty && url.password.isEmpty then []
  else url.username ++ (if url.password.isEmpty then [] else ':' :: url.password) ++ ['@']

/-- What stands between the scheme and the path. A path without host that begins with an
empty segment is kept apart from a host by `/.`. -/
def authorityText (url : Url) : List Char :=
  match url.host with
  | some host =>
    ['/', '/'] ++ url.userinfo ++ host.render ++
      (match url.port with
       | some port => ':' :: (toString port).toList
       | none => [])
  | none =>
    match url.path with
    | .segments ([] :: _ :: _) => ['/', '.']
    | _ => []

/-- The URL as text. -/
def toChars (url : Url) : List Char :=
  url.scheme ++ [':'] ++ url.authorityText ++ url.pathText ++
    (match url.query with
     | some query => '?' :: query
     | none => []) ++
    (match url.fragment with
     | some fragment => '#' :: fragment
     | none => [])

def toText (url : Url) : String := String.ofList url.toChars

/-- The last segment of the path, empty when the path ends in a slash. -/
def fileName (url : Url) : String := String.ofList (Text.afterLast '/' url.pathText)

/-- Why a text is no URL. -/
inductive Error where
  | emptyHost
  | invalidDomainName
  | invalidPort
  | invalidIpv4
  | invalidIpv6
  | invalidDomainCharacter
  | relativeWithoutBase
deriving DecidableEq, Repr

def Error.message : Error → String
  | .emptyHost => "empty host"
  | .invalidDomainName => "invalid international domain name"
  | .invalidPort => "invalid port number"
  | .invalidIpv4 => "invalid IPv4 address"
  | .invalidIpv6 => "invalid IPv6 address"
  | .invalidDomainCharacter => "invalid domain character"
  | .relativeWithoutBase => "relative URL without a base"

end AlAssistant.Url
