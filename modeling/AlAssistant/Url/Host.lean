import AlAssistant.Text.CharClass
import AlAssistant.Text.LetterCase
import AlAssistant.Url.Basic
import AlAssistant.Url.Percent
import AlAssistant.Url.Punycode

/-!
# Hosts

The host of a special scheme is a domain or an address and is brought into one form. Any
other scheme keeps its host as it is, apart from characters that would end it.
-/
namespace AlAssistant.Url

open AlAssistant.Text

/-! ## Domain names

A domain is decoded, folded and split into labels. Folding puts letters into lower case,
writes fullwidth forms in ASCII, takes the ideographic full stops for dots and drops
invisible characters. A label outside ASCII is then written in Punycode after the marker
`xn--`, and a label that carries the marker has to be the written form of such a label.

Folding is an approximation of the mapping of UTS #46. Nothing is normalized, so accents stay
composed or decomposed as they were written, characters with a compatibility mapping other than
the fullwidth forms are kept, and the characters that are dropped or refused are the ranges
listed here rather than those of the mapping table.
-/

/-- ASCII characters that no domain may hold. -/
def isForbiddenInDomain (c : Char) : Bool :=
  controlSet c || " #%/:<>?@[\\]^|".toList.contains c

/-- Characters that leave no trace in a domain. -/
def invisibleRanges : List CodeRange :=
  [(0xAD, 0xAD), (0x34F, 0x34F), (0x180B, 0x180D), (0x200B, 0x200B), (0x2060, 0x2060),
   (0x2064, 0x2064), (0xFE00, 0xFE0F), (0xFEFF, 0xFEFF)]

/-- Controls, blanks, separators, private and unassigned ranges outside ASCII. -/
def unusableRanges : List CodeRange :=
  [(0x80, 0xA0), (0x1680, 0x1680), (0x2000, 0x200A), (0x200E, 0x200F), (0x2028, 0x202F),
   (0x205F, 0x205F), (0x2061, 0x2063), (0x2065, 0x206F), (0x2FF0, 0x2FFB), (0x3000, 0x3000),
   (0xD800, 0xF8FF), (0xFDD0, 0xFDEF), (0xFFF0, 0xFFFF), (0x1FFFE, 0x1FFFF), (0x2FFFE, 0x2FFFF),
   (0xE0000, 0x10FFFF)]

/-- The folded form of one character. -/
def foldDomainChar (c : Char) : List Char :=
  let n := c.toNat
  if n < 0x80 then [c.toLower]
  else if covers invisibleRanges n then []
  else if n = 0x3002 ∨ n = 0xFF0E ∨ n = 0xFF61 then ['.']
  else if 0xFF01 ≤ n ∧ n ≤ 0xFF5E then [(Char.ofNat (n - 0xFEE0)).toLower]
  else [lowercaseChar c]

def foldDomain (text : List Char) : List Char := text.flatMap foldDomainChar

/-- Whether a folded character may stand in a label. -/
def isUsable (c : Char) : Bool :=
  if c.toNat < 0x80 then !isForbiddenInDomain c else !covers unusableRanges c.toNat

def isAsciiText (text : List Char) : Bool := text.all (·.toNat < 0x80)

/-- Whether a marked label is the written form of a folded label outside ASCII. -/
def isEncodedLabel (encoded : List Char) : Bool :=
  match Punycode.decode? encoded with
  | none => false
  | some label => !isAsciiText label && label.all isUsable && foldDomain label == label &&
      Punycode.encode label == encoded

/-- The ASCII form of a folded label. -/
def asciiLabel? (label : List Char) : Option (List Char) :=
  if !label.all isUsable then none
  else if !isAsciiText label then some ("xn--".toList ++ Punycode.encode label)
  else match dropStart? "xn--".toList label with
    | some encoded => if isEncodedLabel encoded then some label else none
    | none => some label

/-- The ASCII form of a domain as it is written in a URL. -/
def asciiDomain? (text : List Char) : Option (List Char) := do
  let decoded ← ofUtf8? (percentDecode (utf8 text))
  let labels ← (splitOnChar '.' (foldDomain decoded)).mapM asciiLabel?
  return ['.'].intercalate labels

/-! ## Hosts by scheme -/

/-- Characters that may not stand in the host of a scheme without rules of its own. -/
def isForbiddenInHost (c : Char) : Bool :=
  "\x00\t\n\r #/:<>?@[\\]^|".toList.contains c

/-- The address between brackets, when the host begins with one. -/
def bracketed? (text : List Char) : Option (Except Error Host) :=
  match text with
  | '[' :: inner =>
    some <|
      if inner.getLast? = some ']' then
        match ipv6? inner.dropLast with
        | some pieces => .ok (.ipv6 pieces)
        | none => .error .invalidIpv6
      else .error .invalidIpv6
  | _ => none

/-- The host of a special scheme. -/
def Host.ofText (text : List Char) : Except Error Host :=
  match bracketed? text with
  | some host => host
  | none =>
    match asciiDomain? text with
    | none => .error .invalidDomainName
    | some [] => .error .emptyHost
    | some name =>
      if endsInNumber name then
        match ipv4? name with
        | some address => .ok (.ipv4 address)
        | none => .error .invalidIpv4
      else .ok (.domain name)

/-- The host of any other scheme, which may be empty. -/
def Host.ofUncheckedText (text : List Char) : Except Error Host :=
  match bracketed? text with
  | some host => host
  | none =>
    if text.isEmpty then .ok .empty
    else if text.any isForbiddenInHost then .error .invalidDomainCharacter
    else .ok (.opaqueName (percentEncode controlSet text))

end AlAssistant.Url
