import AlAssistant.Al.Jump
import AlAssistant.Al.QuickFix
import AlAssistant.Url.Reader

/-!
# Documents on the wire

How positions, ranges, edits and diagnostics are written in messages. Numbers of lines and
columns have 32 bits. Fields of a diagnostic that are missing or null are left out when it is
sent back.
-/
namespace AlAssistant

open Json

namespace Position

def ofValue? (value : Value) : Option Position := do
  let [line, character] ← value.fields? [("line", .required), ("character", .required)] | none
  return ⟨← required? Value.nat32? line, ← required? Value.nat32? character⟩

def toValue (position : Position) : Value :=
  .record [("line", .nat position.line), ("character", .nat position.character)]

end Position

namespace Range

def ofValue? (value : Value) : Option Range := do
  let [start, stop] ← value.fields? [("start", .required), ("end", .required)] | none
  return ⟨← required? Position.ofValue? start, ← required? Position.ofValue? stop⟩

def toValue (range : Range) : Value :=
  .record [("start", range.start.toValue), ("end", range.stop.toValue)]

end Range

namespace Url

def ofValue? (value : Value) : Option Url := value.text?.bind Url.ofText?

def toValue (url : Url) : Value := .text url.toText

end Url

def TextEdit.toValue (edit : TextEdit) : Value :=
  .record [("range", edit.range.toValue), ("newText", .text edit.newText)]

/-- Edits to one document. -/
def Protocol.changesValue (uri : Url) (edit : TextEdit) : Value :=
  .record [("changes", .record [(uri.toText, .array [edit.toValue])])]

def Al.Jump.toValue (jump : Al.Jump) : Value :=
  .record [("caret", jump.caret.toValue), ("reveal", jump.reveal.toValue)]

namespace DiagnosticCode

def ofValue? (value : Value) : Option DiagnosticCode :=
  (value.int32?.map number).or (value.text?.map text)

def toValue : DiagnosticCode → Value
  | number n => .integer n
  | text code => .text code

end DiagnosticCode

namespace RelatedInformation

def ofValue? (value : Value) : Option RelatedInformation := do
  let [location, message] ←
    value.fields? [("location", .required), ("message", .required)] | none
  let [uri, range] ←
    (← location).fields? [("uri", .required), ("range", .required)] | none
  return ⟨← required? Url.ofValue? uri, ← required? Range.ofValue? range,
    ← required? Value.text? message⟩

def toValue (related : RelatedInformation) : Value :=
  .record [
    ("location", .record [("uri", related.uri.toValue), ("range", related.range.toValue)]),
    ("message", .text related.message)]

end RelatedInformation

namespace Diagnostic

def fields : List Field :=
  [("range", .required), ("severity", .optional), ("code", .optional),
   ("codeDescription", .optional), ("source", .optional), ("message", .required),
   ("relatedInformation", .optional), ("tags", .optional), ("data", .optional)]

/-- The link of a description of a code. -/
def descriptionLink? (value : Value) : Option Url := do
  let [href] ← value.fields? [("href", .required)] | none
  required? Url.ofValue? href

def ofValue? (value : Value) : Option Diagnostic := do
  let [range, severity, code, description, source, message, related, tags, data] ←
    value.fields? fields | none
  return {
    range := ← required? Range.ofValue? range
    severity := ← optional? Value.int32? severity
    code := ← optional? DiagnosticCode.ofValue? code
    codeDescription := ← optional? descriptionLink? description
    source := ← optional? Value.text? source
    message := ← required? Value.text? message
    relatedInformation := ← optional? (Value.list? RelatedInformation.ofValue?) related
    tags := ← optional? (Value.list? Value.int32?) tags
    data := ← optional? some data }

/-- A field that is left out when it is empty. -/
def present {α : Type} (name : String) (encode : α → Value) (field : Option α) :
    List (String × Value) :=
  (field.map fun a => (name, encode a)).toList

def toValue (diagnostic : Diagnostic) : Value :=
  .record (
    [("range", diagnostic.range.toValue)] ++
    present "severity" .integer diagnostic.severity ++
    present "code" DiagnosticCode.toValue diagnostic.code ++
    present "codeDescription" (fun link => .record [("href", link.toValue)])
      diagnostic.codeDescription ++
    present "source" .text diagnostic.source ++
    [("message", .text diagnostic.message)] ++
    present "relatedInformation" (fun related => .array (related.map RelatedInformation.toValue))
      diagnostic.relatedInformation ++
    present "tags" (fun tags => .array (tags.map .integer)) diagnostic.tags ++
    present "data" id diagnostic.data)

end Diagnostic

/-- A quick fix as a code action. -/
def Al.QuickFix.toValue (fix : Al.QuickFix) : Value :=
  .record [
    ("title", .text fix.title),
    ("kind", .text "quickfix"),
    ("diagnostics", .array [fix.diagnostic.toValue]),
    ("edit", Protocol.changesValue fix.uri fix.edit),
    ("isPreferred", .bool true)]

end AlAssistant
