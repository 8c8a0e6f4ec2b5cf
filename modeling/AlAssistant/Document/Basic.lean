import AlAssistant.Json.Basic
import AlAssistant.Text.Layout
import AlAssistant.Url.Basic

/-!
# Documents

Places in a document, what can be done to its text, what a compiler says about it, and the store of
the documents that are open.
-/
namespace AlAssistant

/-! ## Positions and ranges

A position is a line and a column in UTF-16 code units, both counted from zero. Positions are
ordered by line and then by column. A range covers its two ends. Lines and columns are taken to
stay below 2^32, so no sum of them overflows; those that a message brings are checked to.
-/

structure Position where
  line : Nat
  character : Nat
deriving DecidableEq, Repr, Inhabited

namespace Position

/-- Reading order. -/
def le (a b : Position) : Bool :=
  a.line < b.line || (a.line == b.line && a.character ≤ b.character)

theorem le_trans {a b c : Position} (hab : a.le b = true) (hbc : b.le c = true) :
    a.le c = true := by
  simp only [Position.le, Bool.or_eq_true, Bool.and_eq_true, decide_eq_true_eq,
    beq_iff_eq] at hab hbc ⊢
  omega

end Position

structure Range where
  start : Position
  stop : Position
deriving DecidableEq, Repr, Inhabited

namespace Range

/-- The empty range at a position. -/
def caret (position : Position) : Range := ⟨position, position⟩

def isEmpty (range : Range) : Bool := range.start == range.stop

/-- Whether a position lies in the range, its ends included. -/
def contains (range : Range) (position : Position) : Bool :=
  range.start.le position && position.le range.stop

/-- Whether both ends of another range lie in the range. -/
def containsRange (range other : Range) : Bool :=
  range.contains other.start && range.contains other.stop

end Range

/-! ## Text edits

An edit replaces a range by new text. Its positions are resolved on the lines between line
feeds, so a carriage return counts as a character of its line.
-/

structure TextEdit where
  range : Range
  newText : String
deriving DecidableEq, Repr

namespace Text

/-- How many characters stand before a position; those of the whole text when the line does
not exist. -/
def positionIndex (text : List Char) (position : Position) : Nat :=
  let parts := splitOnChar '\n' text
  let before := parts.take position.line
  match parts[position.line]? with
  | some line =>
    before.foldr (fun part n => part.length + 1 + n) 0 + charIndex line position.character
  | none => text.length

/-- The range of a whole text. -/
def fullRange (text : String) : Range :=
  let parts := splitOnChar '\n' text.toList
  ⟨⟨0, 0⟩, ⟨parts.length - 1, units (parts.getLast?.getD [])⟩⟩

end Text

/-- The text after an edit. -/
def TextEdit.apply (edit : TextEdit) (text : String) : String :=
  let chars := text.toList
  let first := Text.positionIndex chars edit.range.start
  let last := Text.positionIndex chars edit.range.stop
  String.ofList (chars.take first ++ edit.newText.toList ++ chars.drop last)

/-! ## Diagnostics

What a compiler reports about a range of a document, with everything that an editor may attach
to it. Fields that nothing here depends on are kept so that a diagnostic can be sent back.
-/

inductive DiagnosticCode where
  | number (n : Int)
  | text (code : String)
deriving DecidableEq, Repr

/-- A place that a diagnostic refers to. -/
structure RelatedInformation where
  uri : Url
  range : Range
  message : String
deriving DecidableEq, Repr

structure Diagnostic where
  range : Range
  severity : Option Int
  code : Option DiagnosticCode
  /-- Where the code is described. -/
  codeDescription : Option Url
  /-- Who reports it. -/
  source : Option String
  message : String
  relatedInformation : Option (List RelatedInformation)
  tags : Option (List Int)
  data : Option Json.Value
deriving Repr

/-! ## Open documents

The store holds the text of each open document under its URL. Opening and changing a document
both set its whole text, and closing forgets it.
-/

/-- Texts by URL; the first entry for a URL counts. -/
structure DocumentStore where
  entries : List (Url × String)
deriving DecidableEq, Repr

namespace DocumentStore

def empty : DocumentStore := ⟨[]⟩

def get? (store : DocumentStore) (uri : Url) : Option String := store.entries.lookup uri

def erase (store : DocumentStore) (uri : Url) : DocumentStore :=
  ⟨store.entries.filter (·.1 != uri)⟩

def insert (store : DocumentStore) (uri : Url) (text : String) : DocumentStore :=
  ⟨(uri, text) :: (store.erase uri).entries⟩

end DocumentStore

end AlAssistant
