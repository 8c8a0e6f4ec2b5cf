import AlAssistant.Json.Basic

/-!
# Shapes of values

Some messages are only checked and not used. Their shape is described as data: a record lists
the fields that are looked at, and a field that may be missing may also be null.
-/
namespace AlAssistant.Protocol

open AlAssistant.Json

inductive Shape where
  | anything
  | bool
  | text
  | nat32
  | int32
  | list (item : Shape)
  /-- An object whose listed fields may be missing. -/
  | options (fields : List (String × Shape))
  /-- A record whose listed fields have to be there. -/
  | record (fields : List (String × Shape))

/-- The value of a field in an object, null when it is missing. -/
def fieldOrNull (members : List (Literal × Value)) (name : String) : Value :=
  ((members.find? (·.1 == some name)).map (·.2)).getD .null

mutual

/-- Whether a value has a shape. -/
def Shape.accepts : Shape → Value → Bool
  | .anything, _ => true
  | .bool, value => value.bool?.isSome
  | .text, value => value.text?.isSome
  | .nat32, value => value.nat32?.isSome
  | .int32, value => value.int32?.isSome
  | .list item, value =>
    match value with
    | .array items => items.all item.accepts
    | _ => false
  | .options fields, value =>
    match value with
    | .object members => acceptOptions fields members
    | _ => false
  | .record fields, value =>
    match value with
    | .object members => acceptFields fields members
    | .array items => acceptItems fields items
    | _ => false

def acceptOptions : List (String × Shape) → List (Literal × Value) → Bool
  | [], _ => true
  | (name, shape) :: fields, members =>
    let value := fieldOrNull members name
    (value.isNull || shape.accepts value) && acceptOptions fields members

def acceptFields : List (String × Shape) → List (Literal × Value) → Bool
  | [], _ => true
  | (name, shape) :: fields, members =>
    shape.accepts (fieldOrNull members name) && acceptFields fields members

def acceptItems : List (String × Shape) → List Value → Bool
  | [], items => items.isEmpty
  | (_, shape) :: fields, items =>
    match items with
    | [] => false
    | item :: items => shape.accepts item && acceptItems fields items

end

open Shape

/-! ## Client capabilities

What a client says about itself when it opens a session. Nothing depends on it, but a value of
the wrong shape makes the message malformed.
-/

def registration : Shape := options [("dynamicRegistration", bool)]

def linkSupport : Shape := options [("dynamicRegistration", bool), ("linkSupport", bool)]

def workspaceCapabilities : Shape :=
  options [
    ("applyEdit", bool),
    ("workspaceEdit", options [("documentChanges", bool), ("resourceOperations", list text),
      ("failureHandling", text), ("normalizesLineEndings", bool)]),
    ("didChangeConfiguration", registration),
    ("didChangeWatchedFiles", options [("dynamicRegistration", bool),
      ("relativePatternSupport", bool)]),
    ("symbol", registration),
    ("executeCommand", registration),
    ("workspaceFolders", bool),
    ("configuration", bool),
    ("semanticTokens", options [("refreshSupport", bool)]),
    ("codeLens", options [("refreshSupport", bool)]),
    ("fileOperations", registration)]

def textDocumentCapabilities : Shape :=
  options [
    ("synchronization", options [("dynamicRegistration", bool), ("willSave", bool),
      ("willSaveWaitUntil", bool), ("didSave", bool)]),
    ("completion", options [("dynamicRegistration", bool), ("contextSupport", bool)]),
    ("hover", options [("dynamicRegistration", bool), ("contentFormat", list text)]),
    ("signatureHelp", options [("dynamicRegistration", bool), ("contextSupport", bool)]),
    ("references", registration),
    ("documentHighlight", registration),
    ("documentSymbol", registration),
    ("formatting", registration),
    ("rangeFormatting", registration),
    ("onTypeFormatting", registration),
    ("declaration", linkSupport),
    ("definition", linkSupport),
    ("typeDefinition", linkSupport),
    ("implementation", linkSupport),
    ("codeAction", options [("dynamicRegistration", bool), ("isPreferredSupport", bool),
      ("disabledSupport", bool), ("dataSupport", bool), ("honorsChangeAnnotations", bool)]),
    ("codeLens", registration),
    ("documentLink", options [("dynamicRegistration", bool), ("tooltipSupport", bool)]),
    ("colorProvider", registration),
    ("rename", options [("dynamicRegistration", bool), ("prepareSupport", bool)]),
    ("publishDiagnostics", options [("relatedInformation", bool), ("versionSupport", bool)]),
    ("foldingRange", options [("dynamicRegistration", bool), ("rangeLimit", nat32),
      ("lineFoldingOnly", bool)]),
    ("selectionRange", registration),
    ("linkedEditingRange", registration),
    ("callHierarchy", registration),
    ("moniker", registration)]

def windowCapabilities : Shape :=
  options [
    ("workDoneProgress", bool),
    ("showMessage", options [("messageActionItem",
      options [("additionalPropertiesSupport", bool)])]),
    ("showDocument", record [("support", bool)])]

def generalCapabilities : Shape :=
  options [
    ("regularExpressions", options [("engine", text), ("version", text)]),
    ("markdown", options [("parser", text), ("version", text)]),
    ("positionEncodings", list text)]

/-- Everything a client may declare. -/
def clientCapabilities : Shape :=
  options [
    ("workspace", workspaceCapabilities),
    ("textDocument", textDocumentCapabilities),
    ("window", windowCapabilities),
    ("general", generalCapabilities),
    ("experimental", anything)]

end AlAssistant.Protocol
