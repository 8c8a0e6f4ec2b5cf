import AlAssistant.Dialogue.Commands
import AlAssistant.Protocol.Params
import AlAssistant.Settings.Manager

/-!
# Requests of a session

The commands that can be requested, the state of a session, and how its requests are served.
-/
namespace AlAssistant

/-! ## Commands

The commands that a client can have executed, and the names they are registered under.
-/

inductive Command where
  | jump (marker : Al.Marker)
  | translate (direction : Portal.Direction)
  | copyTranslation
  | insertNotes
deriving DecidableEq, Repr

namespace Command

/-- Every command with its name, in the order of registration. -/
def registered : List (String × Command) :=
  [("al.jumpToNextDataItem", jump .dataItem),
   ("al.jumpToNextOnAfterGetRecord", jump .onAfterGetRecord),
   ("al.jumpToNextKeys", jump .keys),
   ("al.jumpToNextTrigger", jump .trigger),
   ("al.showTranslation", translate .forward),
   ("al.showTranslationReverse", translate .reverse),
   ("al.translateAndCopyToClipboard", copyTranslation),
   ("al.insertTranslationFromComment", insertNotes)]

def ofName? (name : String) : Option Command := registered.lookup name

/-- The marker a jump looks for. -/
def marker? : Command → Option Al.Marker
  | jump marker => some marker
  | _ => none

/-- The direction a translation looks in. -/
def direction? : Command → Option Portal.Direction
  | translate direction => some direction
  | copyTranslation => some .forward
  | _ => none

end Command

end AlAssistant

namespace AlAssistant.Server

/-! ## The state of a session

A session is opened once, serves requests until it is shut down, and is over after an exit. It
keeps the texts of open documents and the settings in force.
-/

inductive Phase where
  | uninitialized
  | running
  | shutDown
  | exited
deriving DecidableEq, Repr

structure State where
  phase : Phase
  manager : Settings.Manager
  documents : DocumentStore
deriving DecidableEq, Repr

namespace State

def initial : State := ⟨.uninitialized, .initial, .empty⟩

/-- The lookup settings in force. -/
def config (state : State) : Settings.Translation := state.manager.current.translation

/-- The text of an open document. -/
def text? (state : State) (uri : Url) : Option String := state.documents.get? uri

def setText (state : State) (uri : Url) (text : String) : State :=
  { state with documents := state.documents.insert uri text }

def close (state : State) (uri : Url) : State :=
  { state with documents := state.documents.erase uri }

end State

open AlAssistant.Json AlAssistant.Protocol

/-! ## Serving requests

A request reads the state and may talk to the editor and the portal, but it changes nothing
that is kept. A command that is not known, whose argument does not fit, or that has nothing to
work on answers null.
-/

/-- A hover, when hovers translate and the document is open. -/
def serveHover (state : State) (uri : Url) (position : Position) : Dialogue Value := do
  if !state.config.hover then return .null
  match state.text? uri with
  | none => return .null
  | some text =>
    match ← Dialogue.hover state.config text position with
    | none => return .null
    | some markdown =>
      return .record [("contents",
        .record [("kind", .text "markdown"), ("value", .text markdown)])]

/-- The quick fixes for a range: one, or none. -/
def quickFixes (state : State) (query : ActionQuery) : List Al.QuickFix :=
  match Al.firstApplicable? query.range query.diagnostics, state.text? query.uri with
  | some diagnostic, some text =>
    (Al.declareVariable? query.uri text diagnostic Al.VariableTable.builtin).toList
  | _, _ => []

def serveJump (state : State) (marker : Al.Marker) (argument : Value) : Dialogue Value := do
  match caretArgument? argument with
  | none => return .null
  | some (uri, position) =>
    match state.text? uri with
    | none => return .null
    | some text => return (← Dialogue.jump uri text position.line marker).toValue

/-- The phrase of a translation command. The user is told when there is none. -/
def phraseOf (state : State) (argument : Value) : Dialogue (Option String) := do
  match PhraseArgument.ofValue? argument with
  | none => return none
  | some argument =>
    let text := (state.text? argument.uri).getD ""
    match Phrase.resolve text argument.range argument.phrase with
    | .ok phrase => return some phrase
    | .error refusal =>
      Dialogue.tell .warning refusal.message
      return none

def serveTranslation (state : State) (direction : Portal.Direction) (argument : Value) :
    Dialogue Value := do
  match ← phraseOf state argument with
  | none => return .null
  | some phrase =>
    let found ← Dialogue.showTranslation state.config phrase direction
    return .array (found.map .text)

def serveCopy (state : State) (argument : Value) : Dialogue Value := do
  match ← phraseOf state argument with
  | none => return .null
  | some phrase => return .orNull .text (← Dialogue.copyTranslation state.config phrase)

def serveInsertion (state : State) (argument : Value) : Dialogue Value := do
  match documentUri? argument with
  | none => return .null
  | some uri =>
    match state.text? uri with
    | none =>
      Dialogue.tell .warning "Open the XLF file before inserting translations"
      return .null
    | some text => return .nat (← Dialogue.insertNotes uri text)

/-- Executes a command with its first argument. -/
def serveCommand (state : State) (invocation : Invocation) : Dialogue Value :=
  match Command.ofName? invocation.command, invocation.arguments with
  | some (.jump marker), argument :: _ => serveJump state marker argument
  | some (.translate direction), argument :: _ => serveTranslation state direction argument
  | some .copyTranslation, argument :: _ => serveCopy state argument
  | some .insertNotes, argument :: _ => serveInsertion state argument
  | _, _ => return .null

end AlAssistant.Server
