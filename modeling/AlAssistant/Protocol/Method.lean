import AlAssistant.Protocol.Capabilities

/-!
# Methods

The methods of the protocol. A session serves some of them; of the others it knows which are
notifications and which are requests, and what parameters a request has to carry.
-/
namespace AlAssistant.Protocol

open Shape

/-- Notifications that a session acts on, and all others. -/
inductive Notification where
  | initialized
  | configurationChanged
  | documentOpened
  | documentChanged
  | documentClosed
  | unused
deriving DecidableEq, Repr

/-- Requests that a session serves, and all others with the shape of their parameters. -/
inductive Request where
  | hover
  | codeAction
  | executeCommand
  | unserved (params : Shape)

inductive Method where
  | opening
  | shutdown
  | exit
  | notification (kind : Notification)
  | request (kind : Request)
  | unknown

def documentShape : Shape := record [("uri", text)]

def positionShape : Shape := record [("line", nat32), ("character", nat32)]

def rangeShape : Shape := record [("start", positionShape), ("end", positionShape)]

def inDocument (fields : List (String × Shape)) : Shape :=
  record (("textDocument", documentShape) :: fields)

def atPosition (fields : List (String × Shape)) : Shape :=
  inDocument (("position", positionShape) :: fields)

/-- Requests that are not served. -/
def unservedRequests : List (String × Shape) :=
  [("textDocument/willSaveWaitUntil", inDocument [("reason", int32)]),
   ("textDocument/declaration", atPosition []),
   ("textDocument/definition", atPosition []),
   ("textDocument/typeDefinition", atPosition []),
   ("textDocument/implementation", atPosition []),
   ("textDocument/references",
     atPosition [("context", record [("includeDeclaration", bool)])]),
   ("textDocument/prepareCallHierarchy", atPosition []),
   ("callHierarchy/incomingCalls", record [("item", options [])]),
   ("callHierarchy/outgoingCalls", record [("item", options [])]),
   ("textDocument/prepareTypeHierarchy", atPosition []),
   ("typeHierarchy/supertypes", record [("item", options [])]),
   ("typeHierarchy/subtypes", record [("item", options [])]),
   ("textDocument/documentHighlight", atPosition []),
   ("textDocument/documentLink", inDocument []),
   ("documentLink/resolve", record [("range", rangeShape)]),
   ("textDocument/codeLens", inDocument []),
   ("codeLens/resolve", record [("range", rangeShape)]),
   ("textDocument/foldingRange", inDocument []),
   ("textDocument/selectionRange", inDocument [("positions", list positionShape)]),
   ("textDocument/documentSymbol", inDocument []),
   ("textDocument/semanticTokens/full", inDocument []),
   ("textDocument/semanticTokens/full/delta", inDocument [("previousResultId", text)]),
   ("textDocument/semanticTokens/range", inDocument [("range", rangeShape)]),
   ("textDocument/inlineValue", inDocument [("range", rangeShape), ("context", options [])]),
   ("textDocument/inlayHint", inDocument [("range", rangeShape)]),
   ("inlayHint/resolve", record [("position", positionShape), ("label", anything)]),
   ("textDocument/moniker", atPosition []),
   ("textDocument/completion", atPosition []),
   ("completionItem/resolve", record [("label", text)]),
   ("textDocument/diagnostic", inDocument []),
   ("workspace/diagnostic", record [("previousResultIds", list anything)]),
   ("textDocument/signatureHelp", atPosition []),
   ("codeAction/resolve", record [("title", text)]),
   ("textDocument/documentColor", inDocument []),
   ("textDocument/colorPresentation",
     inDocument [("color", options []), ("range", rangeShape)]),
   ("textDocument/formatting", inDocument [("options", options [])]),
   ("textDocument/rangeFormatting",
     inDocument [("range", rangeShape), ("options", options [])]),
   ("textDocument/onTypeFormatting", atPosition [("ch", text), ("options", options [])]),
   ("textDocument/rename", atPosition [("newName", text)]),
   ("textDocument/prepareRename", atPosition []),
   ("textDocument/linkedEditingRange", atPosition []),
   ("workspace/symbol", record [("query", text)]),
   ("workspaceSymbol/resolve", record [("name", text), ("kind", int32), ("location", anything)]),
   ("workspace/willCreateFiles", record [("files", list (record [("uri", text)]))]),
   ("workspace/willRenameFiles",
     record [("files", list (record [("oldUri", text), ("newUri", text)]))]),
   ("workspace/willDeleteFiles", record [("files", list (record [("uri", text)]))])]

/-- Notifications that nothing follows from. -/
def unusedNotifications : List String :=
  ["textDocument/willSave", "textDocument/didSave", "workspace/didChangeWorkspaceFolders",
   "workspace/didCreateFiles", "workspace/didRenameFiles", "workspace/didDeleteFiles",
   "workspace/didChangeWatchedFiles", "$/cancelRequest"]

/-- Methods that a session acts on. -/
def servedMethods : List (String × Method) :=
  [("initialize", .opening),
   ("shutdown", .shutdown),
   ("exit", .exit),
   ("initialized", .notification .initialized),
   ("workspace/didChangeConfiguration", .notification .configurationChanged),
   ("textDocument/didOpen", .notification .documentOpened),
   ("textDocument/didChange", .notification .documentChanged),
   ("textDocument/didClose", .notification .documentClosed),
   ("textDocument/hover", .request .hover),
   ("textDocument/codeAction", .request .codeAction),
   ("workspace/executeCommand", .request .executeCommand)]

def Method.ofName (name : String) : Method :=
  match servedMethods.lookup name with
  | some method => method
  | none =>
    match unservedRequests.lookup name with
    | some shape => .request (.unserved shape)
    | none => if unusedNotifications.contains name then .notification .unused else .unknown

/-- Whether nobody has to answer an unknown method of this name. -/
def isOptionalMethod (name : String) : Bool := name.startsWith "$/"

end AlAssistant.Protocol
