import AlAssistant.Xliff.Element
import AlAssistant.Xliff.Note

/-!
# Inserting translations from notes

Each unit of a translated file may carry a developer note. If the note has a value for the
language of the file and the target is missing, empty or a placeholder, the value becomes the
target. Only that part of the text changes: a placeholder is replaced between its tags, a
self-closing target is opened up, and a missing one goes on a line of its own below the source.
-/
namespace AlAssistant.Xliff

open AlAssistant.Text

def unitName : List Char := "trans-unit".toList

def sourceName : List Char := "source".toList

def targetName : List Char := "target".toList

def noteName : List Char := "note".toList

/-- Contents of a target that is not translated yet. -/
def placeholders : List (List Char) :=
  [[], "[NAB: NOT TRANSLATED]".toList, "[NAB: REVIEW]".toList]

def isDeveloperNote (note : Element) : Bool :=
  occursIn "from=\"Developer\"".toList note.attributes ||
    occursIn "from='Developer'".toList note.attributes

/-- The content of the first developer note of a unit. -/
def developerNote? (unitText : List Char) : Option (List Char) :=
  ((elements noteName unitText).find? isDeveloperNote).bind (·.content?)

/-- The spaces and tabs that the last line of a text begins with. -/
def lastIndent (text : List Char) : List Char :=
  (afterLast '\n' text).takeWhile fun c => c == ' ' || c == '\t'

/-- One replacement: the text before it, what it removes and puts in, the text behind it. -/
structure Splice where
  before : List Char
  removed : List Char
  inserted : List Char
  after : List Char
deriving DecidableEq, Repr

namespace Splice

def old (splice : Splice) : List Char := splice.before ++ splice.removed ++ splice.after

def new (splice : Splice) : List Char := splice.before ++ splice.inserted ++ splice.after

end Splice

/-- A target element that holds `value`. -/
def targetWith (attributes value : List Char) : List Char :=
  Element.render targetName (.full attributes value)

/-- The replacement in an untranslated target. -/
def targetSplice? (value : List Char) (target : Found) : Option Splice :=
  match target.element with
  | .full attributes content =>
    if placeholders.contains content && content != value then
      some {
        before := target.before ++ '<' :: targetName ++ attributes ++ ['>']
        removed := content
        inserted := value
        after := endTag targetName ++ target.after }
    else none
  | .selfClosing attributes =>
    some {
      before := target.before
      removed := target.element.render targetName
      inserted := targetWith (trimEnd attributes) value
      after := target.after }

/-- The new line below the source of a unit without a target. -/
def sourceSplice (ending lineBefore value : List Char) (source : Found) : Splice :=
  { before := source.before ++ source.element.render sourceName
    removed := []
    inserted := ending ++ lastIndent (lineBefore ++ source.before) ++ targetWith [] value
    after := source.after }

/-- The replacement in a unit. `lineBefore` is the text between the last line feed and the
unit. -/
def unitSplice? (code ending lineBefore unitText : List Char) : Option Splice :=
  match (developerNote? unitText).bind (noteValue? · code) with
  | none => none
  | some value =>
    if value.isEmpty then none
    else match find? true targetName unitText with
      | some target => targetSplice? value target
      | none =>
        (find? false sourceName unitText).map (sourceSplice ending lineBefore value)

/-- A text with the translations put in, and how many there are. -/
structure Insertion where
  text : List Char
  updated : Nat
deriving DecidableEq, Repr

namespace Insertion

def isUnchanged (insertion : Insertion) : Bool := insertion.updated == 0

/-- Puts an unchanged part in front. -/
def behind (kept : List Char) (insertion : Insertion) : Insertion :=
  { insertion with text := kept ++ insertion.text }

/-- Puts a unit in front. -/
def behindUnit (unitText : List Char) (splice : Option Splice) (insertion : Insertion) :
    Insertion :=
  match splice with
  | none => insertion.behind unitText
  | some splice => { text := splice.new ++ insertion.text, updated := insertion.updated + 1 }

end Insertion

/-- Treats the units of a text one after another. `lineBefore` is the text between the last
line feed and here. -/
def insertFrom (code ending lineBefore text : List Char) : Insertion :=
  match _h : find? false unitName text with
  | none => ⟨text, 0⟩
  | some found =>
    let unitText := found.element.render unitName
    let lineBefore := afterLast '\n' (lineBefore ++ found.before)
    let rest := insertFrom code ending (afterLast '\n' (lineBefore ++ unitText)) found.after
    (rest.behindUnit unitText (unitSplice? code ending lineBefore unitText)).behind found.before
termination_by text.length
decreasing_by exact find?_length _h

/-- Fills the untranslated targets of a file from its developer notes. -/
def insertNotes (fileName text : String) : Except Refusal Insertion :=
  match codeOfFile fileName with
  | .error refusal => .error refusal
  | .ok code =>
    let chars := text.toList
    .ok (insertFrom code.toList (lineEnding chars) [] chars)

/-! ## What an insertion replaces

The replacement in a unit leaves the rest of the unit as it is: the text before it, what it
removes and the text behind it make up the unit.
-/

theorem old_of_targetSplice? {value unitText : List Char} {target : Found} {splice : Splice}
    (found : find? true targetName unitText = some target)
    (h : targetSplice? value target = some splice) : splice.old = unitText := by
  have whole := text_of_find? found
  unfold targetSplice? at h
  split at h
  · next attributes content heq =>
    split at h
    · cases h
      simpa [Splice.old, Found.text, heq, Element.render] using whole
    · cases h
  · next attributes heq =>
    cases h
    simpa [Splice.old, Found.text, heq] using whole

theorem old_sourceSplice {ending lineBefore value unitText : List Char} {source : Found}
    (found : find? false sourceName unitText = some source) :
    (sourceSplice ending lineBefore value source).old = unitText := by
  simpa [Splice.old, sourceSplice, Found.text] using text_of_find? found

theorem old_of_unitSplice? {code ending lineBefore unitText : List Char} {splice : Splice}
    (h : unitSplice? code ending lineBefore unitText = some splice) :
    splice.old = unitText := by
  unfold unitSplice? at h
  split at h
  · cases h
  · split at h
    · cases h
    · split at h
      · next target found => exact old_of_targetSplice? found h
      · obtain ⟨source, found, rfl⟩ := Option.map_eq_some_iff.1 h
        exact old_sourceSplice found

end AlAssistant.Xliff
