import AlAssistant.Protocol.Method
import AlAssistant.Server.Request

/-!
# Steps of a session

A step takes one message and gives its outcome and the next state. Messages out of season are
answered with an error or dropped: requests before the opening, after the shutdown, or without
the parameters they need. Nothing at all is answered after the exit.
-/
namespace AlAssistant.Server

open AlAssistant.Json AlAssistant.Protocol

/-- A message of the client. A notification expects no answer. -/
structure Message where
  method : String
  params : Option Value
  isNotification : Bool

/-- Why a request is refused. -/
inductive Refusal where
  | invalidRequest
  | methodNotFound
  | invalidParams
  | notInitialized
deriving DecidableEq, Repr

/-- The error code of the protocol. -/
def Refusal.code : Refusal → Int
  | .invalidRequest => -32600
  | .methodNotFound => -32601
  | .invalidParams => -32602
  | .notInitialized => -32002

inductive Outcome where
  | result (value : Value)
  | refused (refusal : Refusal)
  /-- Nothing is sent back. -/
  | silent
  /-- The session is over. -/
  | over

/-- What the server can do, as it says when a session opens. -/
def openingResult : Value :=
  .record [
    ("capabilities", .record [
      ("codeActionProvider", .record [
        ("codeActionKinds", .array [.text "quickfix"]),
        ("resolveProvider", .bool false)]),
      ("executeCommandProvider", .record [
        ("commands", .array (Command.registered.map fun command => .text command.1))]),
      ("hoverProvider", .bool true),
      ("textDocumentSync", .integer 1)]),
    ("serverInfo", .record [
      ("name", .text "al-helper-language-server"),
      ("version", .text "0.1.0")])]

/-- Refuses a request; a notification is dropped. -/
def refuse (message : Message) (refusal : Refusal) : Outcome :=
  if message.isNotification then .silent else .refused refusal

/-- The refusal of a message in a phase in which the session is not running. -/
def outOfSeason : Phase → Refusal
  | .uninitialized => .notInitialized
  | _ => .invalidRequest

/-- Opens the session and loads the settings of its workspace. Settings that cannot be put in
force are reported and do not keep it from opening. -/
def openSession (files : Files) (state : State) (opening : Opening) :
    Dialogue (Outcome × State) := do
  let (loaded, manager) := state.manager.load files (opening.root.bind Url.filePath?)
  match loaded with
  | .ok () => pure ()
  | .error rejection =>
    Dialogue.log .error ("Configuration error: " ++ rejection.message)
  return (.result openingResult, { state with manager := manager, phase := .running })

def stepOpening (files : Files) (message : Message) (state : State) : Dialogue (Outcome × State) :=
  if state.phase ≠ .uninitialized then return (refuse message .invalidRequest, state)
  else if message.isNotification then return (.silent, state)
  else match message.params.bind Opening.ofValue? with
    | none => return (.refused .invalidParams, state)
    | some opening => openSession files state opening

/-- A shutdown takes no parameters, but ends the running phase whatever it carries. -/
def stepShutdown (message : Message) (state : State) : Outcome × State :=
  if state.phase ≠ .running then (refuse message (outOfSeason state.phase), state)
  else
    let outcome :=
      if message.isNotification then .silent
      else if message.params.isSome then .refused .invalidParams
      else .result .null
    (outcome, { state with phase := .shutDown })

/-- Acts on a notification; one that is malformed changes nothing. -/
def notify (kind : Notification) (params : Value) (state : State) : Dialogue State :=
  match kind with
  | .initialized =>
    match emptyRecord? params with
    | none => return state
    | some () => do
      Dialogue.log .info "initialized!"
      return state
  | .configurationChanged =>
    match (sentSettings? params).bind Settings.ofMessage? with
    | none => return state
    | some settings => return { state with manager := (state.manager.update settings).2 }
  | .documentOpened =>
    match openedDocument? params with
    | none => return state
    | some document => return state.setText document.uri document.text
  | .documentChanged =>
    match changedDocument? params with
    | none => return state
    | some (uri, changes) =>
      match changes.getLast? with
      | none => return state
      | some text => return state.setText uri text
  | .documentClosed =>
    match closedDocument? params with
    | none => return state
    | some uri => return state.close uri
  | .unused => return state

/-- Answers a request of a running session; nothing when its parameters do not fit. -/
def serve (kind : Request) (params : Value) (state : State) : Dialogue (Option Outcome) :=
  match kind with
  | .hover =>
    match documentPosition? params with
    | none => return none
    | some (uri, position) => return some (.result (← serveHover state uri position))
  | .codeAction =>
    match ActionQuery.ofValue? params with
    | none => return none
    | some query =>
      return some (.result (.array ((quickFixes state query).map Al.QuickFix.toValue)))
  | .executeCommand =>
    match Invocation.ofValue? params with
    | none => return none
    | some invocation => return some (.result (← serveCommand state invocation))
  | .unserved shape =>
    return if shape.accepts params then some (.refused .methodNotFound) else none

def stepNotification (kind : Notification) (message : Message) (state : State) :
    Dialogue (Outcome × State) := do
  if state.phase ≠ .running then return (refuse message (outOfSeason state.phase), state)
  else if !message.isNotification then return (.refused .invalidRequest, state)
  else match message.params with
    | none => return (.silent, state)
    | some params => return (.silent, ← notify kind params state)

def stepRequest (kind : Request) (message : Message) (state : State) :
    Dialogue (Outcome × State) := do
  if state.phase ≠ .running then return (refuse message (outOfSeason state.phase), state)
  else if message.isNotification then return (.silent, state)
  else match message.params with
    | none => return (.refused .invalidParams, state)
    | some params =>
      match ← serve kind params state with
      | none => return (.refused .invalidParams, state)
      | some outcome => return (outcome, state)

/-- One message of a session. -/
def step (files : Files) (message : Message) (state : State) : Dialogue (Outcome × State) :=
  if state.phase = .exited then return (.over, state)
  else match Method.ofName message.method with
    | .exit => return (.silent, { state with phase := .exited })
    | .opening => stepOpening files message state
    | .shutdown => return stepShutdown message state
    | .notification kind => stepNotification kind message state
    | .request kind => stepRequest kind message state
    | .unknown =>
      if isOptionalMethod message.method then return (.silent, state)
      else return (refuse message .methodNotFound, state)

end AlAssistant.Server
