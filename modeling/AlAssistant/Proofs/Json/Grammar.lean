import AlAssistant.Json.Basic
import AlAssistant.Text.Search

/-!
# JSON texts

Which texts write which values. A character of a string is written as it is, by an escape of one
letter, or by its number; beyond the basic plane the number is that of two surrogates. A number
without fraction and exponent is an integer, every other number is kept as it is written. Blanks may
stand around a value, a key, and every mark.
-/
namespace AlAssistant.Json

open AlAssistant.Text (numeral? ofDigits)

/-- The characters that may stand between tokens. -/
def blanks : List Char := [' ', '\t', '\n', '\r']

/-- The escapes of one letter with the characters they stand for. -/
def letterEscapes : List (Char × Char) :=
  [('"', '"'), ('\\', '\\'), ('/', '/'), ('b', '\x08'), ('f', '\x0c'), ('n', '\n'), ('r', '\r'),
   ('t', '\t')]

/-- A character that needs no escape. -/
def isPlain (c : Char) : Bool := 0x20 ≤ c.toNat && c != '"' && c != '\\'

/-- The text of one code point or surrogate between the quotes of a string. -/
inductive WritesUnit : List Char → Nat → Prop
  | plain {c : Char} : isPlain c = true → WritesUnit [c] c.toNat
  | letter {letter c : Char} : (letter, c) ∈ letterEscapes → WritesUnit ['\\', letter] c.toNat
  | number {a b c d : Char} {n : Nat} : numeral? 16 [a, b, c, d] = some n →
      WritesUnit ['\\', 'u', a, b, c, d] n

/-- The text between the quotes of a string. -/
inductive WritesUnits : List Char → List Nat → Prop
  | nil : WritesUnits [] []
  | cons {piece body : List Char} {n : Nat} {units : List Nat} :
      WritesUnit piece n → WritesUnits body units → WritesUnits (piece ++ body) (n :: units)

def highSurrogate (c : Char) : Nat := 0xD800 + (c.toNat - 0x10000) / 0x400

def lowSurrogate (c : Char) : Nat := 0xDC00 + (c.toNat - 0x10000) % 0x400

/-- The characters that code points and pairs of surrogates stand for. -/
inductive Spells : List Nat → List Char → Prop
  | nil : Spells [] []
  | point {c : Char} {units : List Nat} {text : List Char} :
      Spells units text → Spells (c.toNat :: units) (c :: text)
  | pair {c : Char} {units : List Nat} {text : List Char} :
      0x10000 ≤ c.toNat → Spells units text →
        Spells (highSurrogate c :: lowSurrogate c :: units) (c :: text)

/-- A string in quotes. It stands for the text that it spells, and for none when it holds half of a
surrogate pair. -/
def WritesLiteral (text : List Char) (s : Literal) : Prop :=
  ∃ body units, text = '"' :: (body ++ ['"']) ∧ WritesUnits body units ∧
    ∀ spelled : String, s = some spelled ↔ Spells units spelled.toList

/-- Decimal digits, at least one. -/
def AreDigits (text : List Char) : Prop := text ≠ [] ∧ ∀ c ∈ text, c.isDigit = true

/-- Decimal digits without a zero in front of others. -/
def IsNumeral (text : List Char) : Prop := AreDigits text ∧ (text.head? = some '0' → text = ['0'])

def IsFraction (text : List Char) : Prop := ∃ digits, AreDigits digits ∧ text = '.' :: digits

def IsExponent (text : List Char) : Prop :=
  ∃ mark ∈ ['e', 'E'], ∃ sign ∈ [[], ['+'], ['-']], ∃ digits, AreDigits digits ∧
    text = mark :: (sign ++ digits)

/-- The text of a number. The negative zero is no integer. -/
inductive WritesNumber : List Char → Value → Prop
  | natural {digits : List Char} : IsNumeral digits →
      WritesNumber digits (.integer (ofDigits digits))
  | negative {digits : List Char} : IsNumeral digits → digits ≠ ['0'] →
      WritesNumber ('-' :: digits) (.integer (-(ofDigits digits : Int)))
  | negativeZero : WritesNumber ['-', '0'] (.decimal "-0.0")
  | decimal {sign digits fraction exponent : List Char} :
      sign ∈ [[], ['-']] → IsNumeral digits → fraction = [] ∨ IsFraction fraction →
        exponent = [] ∨ IsExponent exponent → fraction ++ exponent ≠ [] →
          WritesNumber (sign ++ digits ++ fraction ++ exponent)
            (.decimal (String.ofList (sign ++ digits ++ fraction ++ exponent)))

/-- A member of an object: the text of its key and the text of its value. -/
structure WrittenMember where
  keyText : List Char
  key : Literal
  valueText : List Char
  value : Value

namespace WrittenMember

/-- The key is a string with blanks around it. -/
def HasKey (member : WrittenMember) : Prop :=
  ∃ before text after, before ⊆ blanks ∧ WritesLiteral text member.key ∧ after ⊆ blanks ∧
    member.keyText = before ++ text ++ after

def text (member : WrittenMember) : List Char := member.keyText ++ ':' :: member.valueText

end WrittenMember

/-- The text of a value, with blanks around it. -/
inductive Writes : List Char → Value → Prop
  | padded {before text after : List Char} {value : Value} :
      before ⊆ blanks → Writes text value → after ⊆ blanks →
      Writes (before ++ text ++ after) value
  | null : Writes "null".toList .null
  | bool (b : Bool) : Writes (if b then "true" else "false").toList (.bool b)
  | number {text : List Char} {value : Value} : WritesNumber text value → Writes text value
  | string {text : List Char} {s : Literal} : WritesLiteral text s → Writes text (.string s)
  | emptyArray {inside : List Char} : inside ⊆ blanks →
      Writes ('[' :: (inside ++ [']'])) (.array [])
  | array {items : List (List Char × Value)} : items ≠ [] →
      (∀ item ∈ items, Writes item.1 item.2) →
        Writes ('[' :: ([','].intercalate (items.map (·.1)) ++ [']'])) (.array (items.map (·.2)))
  | emptyObject {inside : List Char} : inside ⊆ blanks →
      Writes ('{' :: (inside ++ ['}'])) (.object [])
  | object {members : List WrittenMember} : members ≠ [] →
      (∀ member ∈ members, member.HasKey) →
        (∀ member ∈ members, Writes member.valueText member.value) →
          Writes ('{' :: ([','].intercalate (members.map (·.text)) ++ ['}']))
            (.object (members.map fun member => (member.key, member.value)))

end AlAssistant.Json
