import AlAssistant.Protocol.Capabilities
import AlAssistant.Protocol.Document

/-!
# Parameters of messages

The parameters that the messages of a session carry. A token for progress may come with any
request and has to be a number or a text; parameters that take one are written as an object.
-/
namespace AlAssistant.Protocol

open AlAssistant.Json

/-- A token as it may come with a request. -/
def token? (field : Option Value) : Option (Option DiagnosticCode) :=
  optional? DiagnosticCode.ofValue? field

/-- The document a message is about. -/
def documentUri? (value : Value) : Option Url := do
  let [uri] ← value.fields? [("uri", .required)] | none
  required? Url.ofValue? uri

/-- The folder a client has opened. -/
structure Opening where
  /-- The first folder of the workspace, or else the root. -/
  root : Option Url

def traceLevels : List String := ["off", "messages", "verbose"]

def traceLevel? (value : Value) : Option String := value.text?.filter traceLevels.contains

def folderUri? (value : Value) : Option Url := do
  let [uri, name] ← value.fields? [("uri", .required), ("name", .required)] | none
  let _ ← required? Value.text? name
  required? Url.ofValue? uri

def clientName? (value : Value) : Option String := do
  let [name, version] ← value.fields? [("name", .required), ("version", .optional)] | none
  let _ ← optional? Value.text? version
  required? Value.text? name

namespace Opening

def fields : List Field :=
  [("processId", .optional), ("rootPath", .optional), ("rootUri", .defaulted),
   ("initializationOptions", .optional), ("capabilities", .required), ("trace", .defaulted),
   ("workspaceFolders", .optional), ("clientInfo", .optional), ("locale", .optional)]

def ofValue? (value : Value) : Option Opening := do
  let [process, rootPath, rootUri, _, capabilities, trace, folders, client, locale] ←
    value.fields? fields | none
  let _ ← optional? Value.nat32? process
  let _ ← optional? Value.text? rootPath
  let rootUri ← optional? Url.ofValue? rootUri
  if !clientCapabilities.accepts (← capabilities) then none
  let _ ← optional? traceLevel? trace
  let folders ← optional? (Value.list? folderUri?) folders
  let _ ← optional? clientName? client
  let _ ← optional? Value.text? locale
  return ⟨(folders.bind (·.head?)).or rootUri⟩

end Opening

/-- A document that is opened or changed, with its new text. -/
structure DocumentText where
  uri : Url
  text : String

/-- A document that is opened. -/
def openedDocument? (value : Value) : Option DocumentText := do
  let [document] ← value.fields? [("textDocument", .required)] | none
  let [uri, language, version, text] ← (← document).fields?
    [("uri", .required), ("languageId", .required), ("version", .required), ("text", .required)]
    | none
  let uri ← required? Url.ofValue? uri
  let _ ← required? Value.text? language
  let _ ← required? Value.int32? version
  return ⟨uri, ← required? Value.text? text⟩

/-- The text of one change. A change with a range is taken for a change of the whole text. -/
def changeText? (value : Value) : Option String := do
  let [range, length, text] ← value.fields?
    [("range", .optional), ("rangeLength", .optional), ("text", .required)] | none
  let _ ← optional? Range.ofValue? range
  let _ ← optional? Value.nat32? length
  required? Value.text? text

/-- A document and its changes in order. -/
def changedDocument? (value : Value) : Option (Url × List String) := do
  let [document, changes] ← value.fields?
    [("textDocument", .required), ("contentChanges", .required)] | none
  let [uri, version] ← (← document).fields? [("uri", .required), ("version", .required)] | none
  let uri ← required? Url.ofValue? uri
  let _ ← required? Value.int32? version
  return (uri, ← required? (Value.list? changeText?) changes)

/-- A document that is closed. -/
def closedDocument? (value : Value) : Option Url := do
  let [document] ← value.fields? [("textDocument", .required)] | none
  required? documentUri? document

/-- The settings that a client sends, of any shape. -/
def sentSettings? (value : Value) : Option Value := do
  let [settings] ← value.fields? [("settings", .required)] | none
  settings

/-- A record without fields. -/
def emptyRecord? (value : Value) : Option Unit := do
  let [] ← value.fields? [] | none
  return ()

/-- A place in a document. -/
def documentPosition? (value : Value) : Option (Url × Position) := do
  let [document, position, progress] ← value.members?
    [("textDocument", .required), ("position", .required), ("workDoneToken", .optional)] | none
  let _ ← token? progress
  return (← required? documentUri? document, ← required? Position.ofValue? position)

/-- The diagnostics that a client asks actions for. -/
def actionContext? (value : Value) : Option (List Diagnostic) := do
  let [diagnostics, only, trigger] ← value.fields?
    [("diagnostics", .required), ("only", .optional), ("triggerKind", .optional)] | none
  let _ ← optional? (Value.list? Value.text?) only
  let _ ← optional? Value.int32? trigger
  required? (Value.list? Diagnostic.ofValue?) diagnostics

/-- A range of a document that a client asks actions for. -/
structure ActionQuery where
  uri : Url
  range : Range
  diagnostics : List Diagnostic

def ActionQuery.ofValue? (value : Value) : Option ActionQuery := do
  let [document, range, context, progress, results] ← value.members?
    [("textDocument", .required), ("range", .required), ("context", .required),
     ("workDoneToken", .optional), ("partialResultToken", .optional)] | none
  let _ ← token? progress
  let _ ← token? results
  return ⟨← required? documentUri? document, ← required? Range.ofValue? range,
    ← required? actionContext? context⟩

/-- A command with its arguments. -/
structure Invocation where
  command : String
  arguments : List Value

def Invocation.ofValue? (value : Value) : Option Invocation := do
  let [command, arguments, progress] ← value.members?
    [("command", .required), ("arguments", .defaulted), ("workDoneToken", .optional)] | none
  let _ ← token? progress
  return ⟨← required? Value.text? command, ← defaulted? (Value.list? some) [] arguments⟩

/-- The argument of a jump. -/
def caretArgument? (value : Value) : Option (Url × Position) := do
  let [uri, position] ← value.fields? [("uri", .required), ("position", .required)] | none
  return (← required? Url.ofValue? uri, ← required? Position.ofValue? position)

/-- The argument of a translation: a selection, or the phrase itself. -/
structure PhraseArgument where
  uri : Url
  range : Range
  phrase : Option String

def PhraseArgument.ofValue? (value : Value) : Option PhraseArgument := do
  let [uri, range, phrase] ← value.fields?
    [("uri", .required), ("range", .required), ("phrase", .defaulted)] | none
  return ⟨← required? Url.ofValue? uri, ← required? Range.ofValue? range,
    ← optional? Value.text? phrase⟩

end AlAssistant.Protocol
