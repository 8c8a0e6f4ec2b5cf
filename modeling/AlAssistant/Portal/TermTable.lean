import AlAssistant.Portal.Search

/-!
# Tables of terms

How a result page writes the terms it found: a table with a row for each pair of terms, in
cells of two classes. Every character of a term is written as it is, as a numbered reference
with leading zeros or without, or by one of the five names that markup needs.
-/
namespace AlAssistant.Portal

open AlAssistant.Text

/-- The names of the characters that markup uses itself. -/
inductive MarkupChar where
  | ampersand
  | less
  | greater
  | quote
  | apostrophe
deriving DecidableEq, Repr

namespace MarkupChar

def char : MarkupChar → Char
  | ampersand => '&'
  | less => '<'
  | greater => '>'
  | quote => '"'
  | apostrophe => '\''

def name : MarkupChar → String
  | ampersand => "amp"
  | less => "lt"
  | greater => "gt"
  | quote => "quot"
  | apostrophe => "apos"

end MarkupChar

/-- A character together with the way it is written. A hexadecimal number comes with its digits,
whose letters may be in either case, as may the letter that marks it. -/
inductive WrittenChar where
  | raw (c : Char)
  | decimal (zeros : Nat) (c : Char)
  | hexadecimal (mark : Char) (zeros : Nat) (digits : List Char) (c : Char)
  | named (c : MarkupChar)
deriving DecidableEq, Repr

namespace WrittenChar

/-- The character that is meant. -/
def char : WrittenChar → Char
  | raw c => c
  | decimal _ c => c
  | hexadecimal _ _ _ c => c
  | named c => c.char

/-- Whether the character may be written this way. Markup is never raw, and hexadecimal digits are
those of the character. -/
def isSound : WrittenChar → Bool
  | raw c => !(c == '&' || c == '<' || c == '>')
  | decimal _ _ => true
  | hexadecimal mark _ digits c =>
    (mark == 'x' || mark == 'X') && asciiLower digits == Nat.toDigits 16 c.toNat
  | named _ => true

def render : WrittenChar → List Char
  | raw c => [c]
  | decimal zeros c =>
    "&#".toList ++ List.replicate zeros '0' ++ Nat.toDigits 10 c.toNat ++ [';']
  | hexadecimal mark zeros digits _ =>
    "&#".toList ++ [mark] ++ List.replicate zeros '0' ++ digits ++ [';']
  | named c => '&' :: c.name.toList ++ [';']

end WrittenChar

/-- A term as a page writes it. -/
abbrev WrittenTerm := List WrittenChar

/-- The term that is meant. -/
def WrittenTerm.text (term : WrittenTerm) : List Char := term.map WrittenChar.char

/-- A pair of terms. -/
structure TermRow where
  source : WrittenTerm
  target : WrittenTerm
deriving DecidableEq, Repr

namespace TermRow

def cell (className : String) (term : WrittenTerm) : List Char :=
  "<td class=\"".toList ++ className.toList ++ "\">".toList ++
    term.flatMap WrittenChar.render ++ "</td>".toList

/-- The side of a pair that a direction looks for. -/
def side : Direction → TermRow → WrittenTerm
  | .forward => target
  | .reverse => source

def render (row : TermRow) : List Char :=
  "<tr>".toList ++ cell (Direction.cellClass .reverse) row.source ++
    cell (Direction.cellClass .forward) row.target ++ "</tr>".toList

end TermRow

/-- The table of a result page. -/
def renderTable (rows : List TermRow) : List Char :=
  "<table>".toList ++ rows.flatMap TermRow.render ++ "</table>".toList

end AlAssistant.Portal
