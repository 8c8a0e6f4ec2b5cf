import AlAssistant.Xliff.Insertion

/-!
# Localization documents

A document that was written by a tool has its units in order, with other text around them, and
each unit has its elements on lines of their own: the source, perhaps a target, and notes.
Filling such a document is said here of its units and not of its text: a unit gets the value of
its own developer note as its target, and everything else stays.
-/
namespace AlAssistant.Xliff

/-- An element on a line of its own, with the spaces and tabs before it. -/
structure ElementLine where
  indent : List Char
  element : Element
deriving DecidableEq, Repr

/-- A line behind the ending of the line before it. -/
def ElementLine.render (ending name : List Char) (line : ElementLine) : List Char :=
  ending ++ line.indent ++ line.element.render name

/-- A unit of a document. -/
structure TransUnit where
  attributes : List Char
  sourceIndent : List Char
  source : List Char
  target : Option ElementLine
  notes : List ElementLine
  /-- What the end tag is indented by. -/
  endIndent : List Char
deriving DecidableEq, Repr

namespace TransUnit

/-- The line of the source. -/
def sourceLine (unit : TransUnit) : ElementLine := ⟨unit.sourceIndent, .full [] unit.source⟩

/-- What stands between the tags of a unit. -/
def body (ending : List Char) (unit : TransUnit) : List Char :=
  unit.sourceLine.render ending sourceName ++
    unit.target.toList.flatMap (·.render ending targetName) ++
    unit.notes.flatMap (·.render ending noteName) ++ ending ++ unit.endIndent

def render (ending : List Char) (unit : TransUnit) : List Char :=
  Element.render unitName (.full unit.attributes (unit.body ending))

/-- The translation that a unit carries for a language. -/
def translation? (code : List Char) (unit : TransUnit) : Option (List Char) :=
  let note := unit.notes.find? fun line => isDeveloperNote line.element
  let value := (note.bind (·.element.content?)).bind (noteValue? · code)
  value.filter (!·.isEmpty)

/-- The target of a unit once `value` is put in; nothing when it stays as it is. -/
def filledTarget? (value : List Char) (unit : TransUnit) : Option ElementLine :=
  match unit.target with
  | none => some ⟨unit.sourceIndent, .full [] value⟩
  | some ⟨indent, .selfClosing attributes⟩ =>
    some ⟨indent, .full (Text.trimEnd attributes) value⟩
  | some ⟨indent, .full attributes content⟩ =>
    if content ∈ placeholders ∧ content ≠ value then some ⟨indent, .full attributes value⟩
    else none

/-- The unit with its target filled; nothing when it stays as it is. -/
def fill? (code : List Char) (unit : TransUnit) : Option TransUnit :=
  ((unit.translation? code).bind unit.filledTarget?).map fun target =>
    { unit with target := some target }

end TransUnit

/-- Units, each with the text behind it, and the text before them all. -/
structure Document where
  header : List Char
  units : List (TransUnit × List Char)
deriving DecidableEq, Repr

namespace Document

def render (ending : List Char) (document : Document) : List Char :=
  document.header ++ document.units.flatMap fun (unit, after) => unit.render ending ++ after

/-- The document with every unit filled. -/
def fill (code : List Char) (document : Document) : Document :=
  { document with
    units := document.units.map fun (unit, after) => ((unit.fill? code).getD unit, after) }

/-- How many units filling changes. -/
def fillCount (code : List Char) (document : Document) : Nat :=
  document.units.countP fun (unit, _) => (unit.fill? code).isSome

end Document

end AlAssistant.Xliff
