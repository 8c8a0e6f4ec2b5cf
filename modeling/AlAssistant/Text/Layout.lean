import AlAssistant.Text.CharClass
import AlAssistant.Text.Search

/-!
# Blanks, lines and columns

How a text is laid out for its reader: where words begin and end, where lines do, and which column
a character stands in.
-/
namespace AlAssistant.Text

/-! ## Trimming and splitting at blanks

`trim` removes blanks at both ends, `words` cuts a text into its maximal blank-free runs, and
`collapse` writes those runs with one space between them.
-/

def trimStart (text : List Char) : List Char := text.dropWhile isBlank

def trimEnd (text : List Char) : List Char := (text.reverse.dropWhile isBlank).reverse

def trim (text : List Char) : List Char := trimEnd (trimStart text)

/-- The blanks a line begins with. -/
def indentation (line : List Char) : List Char := line.takeWhile isBlank

/-- Cuts at blanks; `run` is the reversed run read so far. -/
def wordsFrom (run : List Char) : List Char → List (List Char)
  | [] => if run.isEmpty then [] else [run.reverse]
  | c :: rest =>
    if isBlank c then
      if run.isEmpty then wordsFrom [] rest else run.reverse :: wordsFrom [] rest
    else wordsFrom (c :: run) rest

/-- The maximal blank-free runs, in order. -/
def words (text : List Char) : List (List Char) := wordsFrom [] text

/-- The words of a text with single spaces between them. -/
def collapse (text : List Char) : List Char := [' '].intercalate (words text)

/-- Whether nothing but blanks is left. -/
def isBlankText (text : List Char) : Bool := text.all isBlank

/-! ## Lines

A document is read as lines in two ways. `lines` is the view of an editor on source text: a
line feed ends a line, a carriage return before it belongs to the ending, and a final line
feed opens no further line. Splitting at line feeds alone keeps the carriage returns and the
empty last part; positions of edits to a whole document are counted that way.
-/

/-- Removes one carriage return at the end. -/
def dropCarriageReturn (line : List Char) : List Char :=
  if line.getLast? = some '\r' then line.dropLast else line

/-- Turns the parts between line feeds into lines: all but the last were ended by a feed. -/
def linesOfParts : List (List Char) → List (List Char)
  | [] => []
  | [last] => if last.isEmpty then [] else [last]
  | part :: parts => dropCarriageReturn part :: linesOfParts parts

/-- The lines of a text without their endings. -/
def lines (text : List Char) : List (List Char) := linesOfParts (splitOnChar '\n' text)

/-- The ending that inserted lines take: that of Windows as soon as the text has one. -/
def lineEnding (text : List Char) : List Char :=
  if occursIn ['\r', '\n'] text then ['\r', '\n'] else ['\n']

/-- Lines with single line feeds between them. -/
def joinLines (ls : List (List Char)) : List Char := ['\n'].intercalate ls

/-! ## Columns

An editor counts columns in UTF-16 code units, storage counts bytes of UTF-8. Both are
measures on the same list of characters. A column is resolved to the first character boundary
at or after it; a column inside a surrogate pair therefore rounds up, and one past the end
gives the end.
-/

/-- Code units of one character: two outside the basic plane. -/
def charUnits (c : Char) : Nat := if c.toNat < 0x10000 then 1 else 2

/-- Length in UTF-16 code units. -/
def units (text : List Char) : Nat := text.foldr (fun c n => charUnits c + n) 0

/-- Length in bytes of UTF-8. -/
def byteLength (text : List Char) : Nat := text.foldr (fun c n => c.utf8Size + n) 0

/-- How many characters stand before the boundary that `column` resolves to. -/
def charIndex : List Char → Nat → Nat
  | _, 0 => 0
  | [], _ => 0
  | c :: text, column + 1 => charIndex text (column + 1 - charUnits c) + 1

/-- The byte offset that `column` resolves to. -/
def byteOffset (line : List Char) (column : Nat) : Nat :=
  byteLength (line.take (charIndex line column))

/-- The characters from one column to another; nothing when they are in reverse order. -/
def slice (line : List Char) (first last : Nat) : List Char :=
  (line.take (charIndex line last)).drop (charIndex line first)

end AlAssistant.Text
