import AlAssistant.Json.Basic
import AlAssistant.Text.Search

/-!
# Reading JSON

A text is one value with blanks around it and nothing else. It is cut into tokens first, one
character at a time, and the value is read from the tokens.
-/
namespace AlAssistant.Json

open AlAssistant.Text (numeral? ofDigits)

/-! ## Tokens

Text is cut into tokens by a machine that reads one character at a time. Numbers and words
are gathered as far as their characters reach and judged as a whole; two of them side by side
are an error in every JSON text, so nothing is lost by gathering greedily. The body of a
string is gathered up to its closing quote and then decoded.
-/

inductive Token where
  | openBrace
  | closeBrace
  | openBracket
  | closeBracket
  | colon
  | comma
  | null
  | bool (b : Bool)
  | integer (i : Int)
  | decimal (written : String)
  | string (s : Literal)
deriving DecidableEq, Repr

/-- The four blanks of JSON. -/
def isSpace (c : Char) : Bool := c == ' ' || c == '\t' || c == '\n' || c == '\r'

/-- Digits without a superfluous leading zero, and what follows them. -/
def wholePart? (text : List Char) : Option (List Char × List Char) :=
  match text.takeWhile Char.isDigit with
  | [] => none
  | ['0'] => some (['0'], text.dropWhile Char.isDigit)
  | '0' :: _ => none
  | digits => some (digits, text.dropWhile Char.isDigit)

/-- Whether at least one digit stands here, and nothing else. -/
def areDigits (text : List Char) : Bool := !text.isEmpty && text.all Char.isDigit

/-- What may follow `e` or `E`: an optional sign and digits. -/
def isExponent : List Char → Bool
  | '+' :: text => areDigits text
  | '-' :: text => areDigits text
  | text => areDigits text

/-- What may follow the whole part of a number that is no integer. -/
def isFractionOrExponent : List Char → Bool
  | '.' :: text =>
    match text.takeWhile Char.isDigit, text.dropWhile Char.isDigit with
    | [], _ => false
    | _, [] => true
    | _, e :: rest => (e == 'e' || e == 'E') && isExponent rest
  | e :: rest => (e == 'e' || e == 'E') && isExponent rest
  | [] => false

/-- The token of a run of number characters. The negative zero is no integer: it is kept as a
decimal, whose sign shows. -/
def numberToken? (written : List Char) : Option Token :=
  let unsigned := match written with
    | '-' :: text => text
    | text => text
  match wholePart? unsigned with
  | none => none
  | some (digits, []) =>
    if unsigned.length = written.length then some (.integer (ofDigits digits))
    else if digits = ['0'] then some (.decimal "-0.0")
    else some (.integer (-(ofDigits digits : Int)))
  | some (_, rest) =>
    if isFractionOrExponent rest then some (.decimal (String.ofList written)) else none

def wordToken? (word : List Char) : Option Token :=
  if word = "null".toList then some .null
  else if word = "true".toList then some (.bool true)
  else if word = "false".toList then some (.bool false)
  else none

/-- The character that a one-letter escape stands for. -/
def escaped? : Char → Option Char
  | '"' => some '"'
  | '\\' => some '\\'
  | '/' => some '/'
  | 'b' => some '\x08'
  | 'f' => some '\x0c'
  | 'n' => some '\n'
  | 'r' => some '\r'
  | 't' => some '\t'
  | _ => none

/-- The code points of a string body, with surrogates where escapes wrote them. -/
def bodyUnits? : List Char → Option (List Nat)
  | [] => some []
  | '\\' :: 'u' :: a :: b :: c :: d :: rest => do
    let unit ← numeral? 16 [a, b, c, d]
    return unit :: (← bodyUnits? rest)
  | '\\' :: e :: rest => do
    let c ← escaped? e
    return c.toNat :: (← bodyUnits? rest)
  | c :: rest =>
    if c.toNat < 0x20 || c == '\\' then none else (bodyUnits? rest).map (c.toNat :: ·)

def isHighSurrogate (n : Nat) : Bool := 0xD800 ≤ n && n < 0xDC00

def isLowSurrogate (n : Nat) : Bool := 0xDC00 ≤ n && n < 0xE000

/-- Joins surrogate pairs; nothing when a half stands alone. -/
def joinSurrogates : List Nat → Option (List Char)
  | [] => some []
  | [n] => if isHighSurrogate n || isLowSurrogate n then none else some [Char.ofNat n]
  | n :: m :: rest =>
    if isHighSurrogate n then
      if isLowSurrogate m then
        (joinSurrogates rest).map
          (Char.ofNat (0x10000 + (n - 0xD800) * 0x400 + (m - 0xDC00)) :: ·)
      else none
    else if isLowSurrogate n then none
    else (joinSurrogates (m :: rest)).map (Char.ofNat n :: ·)

/-- The token of a string body, the text between the quotes. -/
def stringToken? (body : List Char) : Option Token :=
  (bodyUnits? body).map fun units => .string ((joinSurrogates units).map String.ofList)

/-- What is being gathered. Gathered characters are in reverse order. -/
inductive Gathering where
  | nothing
  | number (run : List Char)
  | word (run : List Char)
  | string (run : List Char)
  | escape (run : List Char)
deriving DecidableEq, Repr

def isNumberChar (c : Char) : Bool :=
  c.isDigit || c == '-' || c == '+' || c == '.' || c == 'e' || c == 'E'

/-- Begins with `c` while nothing is being gathered. -/
def Gathering.start (c : Char) : Option (List Token × Gathering) :=
  if isSpace c then some ([], .nothing)
  else if c.isDigit || c == '-' then some ([], .number [c])
  else if c.isAlpha then some ([], .word [c])
  else match c with
    | '"' => some ([], .string [])
    | '{' => some ([.openBrace], .nothing)
    | '}' => some ([.closeBrace], .nothing)
    | '[' => some ([.openBracket], .nothing)
    | ']' => some ([.closeBracket], .nothing)
    | ':' => some ([.colon], .nothing)
    | ',' => some ([.comma], .nothing)
    | _ => none

/-- Reads one character: the tokens it completes and what is gathered next. -/
def Gathering.step (state : Gathering) (c : Char) : Option (List Token × Gathering) :=
  match state with
  | .nothing => start c
  | .number run =>
    if isNumberChar c then some ([], .number (c :: run))
    else do
      let (tokens, next) ← start c
      return ((← numberToken? run.reverse) :: tokens, next)
  | .word run =>
    if c.isAlpha then some ([], .word (c :: run))
    else do
      let (tokens, next) ← start c
      return ((← wordToken? run.reverse) :: tokens, next)
  | .string run =>
    if c == '"' then (stringToken? run.reverse).map fun token => ([token], .nothing)
    else if c == '\\' then some ([], .escape (c :: run))
    else some ([], .string (c :: run))
  | .escape run => some ([], .string (c :: run))

/-- What is complete when the text ends. -/
def Gathering.finish : Gathering → Option (List Token)
  | .nothing => some []
  | .number run => (numberToken? run.reverse).map ([·])
  | .word run => (wordToken? run.reverse).map ([·])
  | .string _ => none
  | .escape _ => none

/-- The tokens of `text` when `state` has been gathered before it. -/
def tokensFrom (state : Gathering) : List Char → Option (List Token)
  | [] => state.finish
  | c :: text => do
    let (tokens, next) ← state.step c
    return tokens ++ (← tokensFrom next text)

/-- The tokens of a text, when it has no malformed part. -/
def tokens? (text : List Char) : Option (List Token) := tokensFrom .nothing text

/-! ## Values from tokens

Values are read by descent. Each call passes on one unit of fuel less; two units for every token
are enough.
-/

mutual

/-- One value and the tokens after it. -/
def readValue : Nat → List Token → Option (Value × List Token)
  | 0, _ => none
  | fuel + 1, tokens =>
    match tokens with
    | .null :: rest => some (.null, rest)
    | .bool b :: rest => some (.bool b, rest)
    | .integer i :: rest => some (.integer i, rest)
    | .decimal written :: rest => some (.decimal written, rest)
    | .string s :: rest => some (.string s, rest)
    | .openBracket :: .closeBracket :: rest => some (.array [], rest)
    | .openBracket :: rest =>
      (readItems fuel rest).map fun (items, rest) => (.array items, rest)
    | .openBrace :: .closeBrace :: rest => some (.object [], rest)
    | .openBrace :: rest =>
      (readMembers fuel rest).map fun (members, rest) => (.object members, rest)
    | _ => none

/-- One or more items and the closing bracket. -/
def readItems : Nat → List Token → Option (List Value × List Token)
  | 0, _ => none
  | fuel + 1, tokens =>
    match readValue fuel tokens with
    | some (item, .closeBracket :: rest) => some ([item], rest)
    | some (item, .comma :: rest) =>
      (readItems fuel rest).map fun (items, rest) => (item :: items, rest)
    | _ => none

/-- One or more members and the closing brace. -/
def readMembers : Nat → List Token → Option (List (Literal × Value) × List Token)
  | 0, _ => none
  | fuel + 1, tokens =>
    match tokens with
    | .string key :: .colon :: rest =>
      match readValue fuel rest with
      | some (value, .closeBrace :: rest) => some ([(key, value)], rest)
      | some (value, .comma :: rest) =>
        (readMembers fuel rest).map fun (members, rest) => ((key, value) :: members, rest)
      | _ => none
    | _ => none

end

/-- The value that a whole list of tokens writes. -/
def Value.ofTokens? (tokens : List Token) : Option Value :=
  match readValue (2 * tokens.length + 1) tokens with
  | some (value, []) => some value
  | _ => none

/-- The value that a text writes. -/
def Value.ofText? (text : String) : Option Value :=
  (tokens? text.toList).bind Value.ofTokens?

end AlAssistant.Json
