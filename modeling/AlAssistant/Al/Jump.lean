import AlAssistant.Document.Basic
import AlAssistant.Text.LetterCase

/-!
# Jumps to marked lines

A marker tells which lines a jump goes to. A jump puts the caret at the end of the next of them.
-/
namespace AlAssistant.Al

open AlAssistant.Text

/-! ## Markers

A marker names the lines of source text that a jump can go to: those that begin with a fixed
text, whatever their indentation and their case.
-/

inductive Marker where
  | dataItem
  | onAfterGetRecord
  | keys
  | trigger
deriving DecidableEq, Repr

namespace Marker

/-- What a marked line begins with, in upper case. -/
def text : Marker → String
  | dataItem => "DATAITEM("
  | onAfterGetRecord => "TRIGGER ONAFTERGETRECORD("
  | keys => "KEYS"
  | trigger => "TRIGGER ON"

/-- Whether a line is marked: its text in upper case, cut to the length of the marker, contains the
marker. -/
def marks (marker : Marker) (line : List Char) : Bool :=
  let mark := marker.text.toList
  occursIn mark ((uppercase (trimStart line)).take mark.length)

/-- The line a jump goes to when no marked line follows. -/
def fallbackLine : Nat := 1

/-- The first marked line below the cursor. -/
def nextLine (marker : Marker) (lines : List (List Char)) (cursor : Nat) : Nat :=
  match (lines.drop (cursor + 1)).findIdx? marker.marks with
  | some distance => cursor + 1 + distance
  | none => fallbackLine

end Marker

/-! ## Jumps

A jump goes from the cursor line to the next marked line. The caret is put at the end of that
line, and the editor is asked to show ten lines around it. Every position lies in the text;
that of an empty text is its start.
-/

/-- Where a jump leads. -/
structure Jump where
  /-- The empty range at the end of the line. -/
  caret : Range
  /-- The lines to bring into view. -/
  reveal : Range
deriving DecidableEq, Repr

/-- Lines shown on either side. -/
def revealMargin : Nat := 10

/-- The jump from a cursor line to the next line with a marker. -/
def Jump.next (text : String) (cursor : Nat) (marker : Marker) : Jump :=
  let lines := lines text.toList
  let last := lines.length - 1
  let line := min (marker.nextLine lines cursor) last
  let column := units (lines[line]?.getD [])
  { caret := .caret ⟨line, column⟩
    reveal := ⟨⟨line - revealMargin, 0⟩, ⟨min (line + revealMargin) last, 0⟩⟩ }

end AlAssistant.Al
