import AlAssistant.Document.Basic

/-!
# Dialogues

A command talks to the editor and to the portal. What they will answer is given in advance as
queues, one for each kind of question, and what the command asks is recorded in order. An
empty queue answers as the other side does by default: the portal is not available, a choice
is dismissed, an edit is applied and a selection is made.
-/
namespace AlAssistant

namespace Dialogue

inductive MessageKind where
  | error
  | warning
  | info
deriving DecidableEq, Repr

/-- What becomes of a request to the portal. -/
inductive Reply where
  | page (html : String)
  /-- A status that is no success. -/
  | status (code : Nat)
  /-- No answer, or one that breaks off. The cause is in the words of the transport. -/
  | lost (cause : String)
deriving DecidableEq, Repr

/-- One thing a command does to the world outside. -/
inductive Event where
  | request (url : Url)
  | message (kind : MessageKind) (text : String)
  | log (kind : MessageKind) (text : String)
  | choice (text : String) (labels : List String)
  | edit (uri : Url) (edit : TextEdit)
  | selection (uri : Url) (range : Range)
deriving DecidableEq, Repr

/-- The answers to come. -/
structure Answers where
  pages : List Reply
  choices : List (Option String)
  edits : List Bool
  selections : List Bool
deriving DecidableEq, Repr

/-- The answers to come and the events so far. -/
structure Exchange where
  answers : Answers
  events : List Event
deriving DecidableEq, Repr

end Dialogue

/-- A computation that may ask and be answered. -/
abbrev Dialogue := StateM Dialogue.Exchange

namespace Dialogue

def record (event : Event) (exchange : Exchange) : Exchange :=
  { exchange with events := exchange.events ++ [event] }

/-- Requests a page from the portal. -/
def fetch (url : Url) : Dialogue Reply := fun exchange =>
  let exchange := record (.request url) exchange
  match exchange.answers.pages with
  | [] => (.status 503, exchange)
  | reply :: pages => (reply, { exchange with answers.pages := pages })

/-- Shows a message to the user. -/
def tell (kind : MessageKind) (text : String) : Dialogue Unit := fun exchange =>
  ((), record (.message kind text) exchange)

/-- Writes a line to the log of the editor. -/
def log (kind : MessageKind) (text : String) : Dialogue Unit := fun exchange =>
  ((), record (.log kind text) exchange)

/-- Lets the user choose a label; nothing when the choice is dismissed. -/
def choose (text : String) (labels : List String) : Dialogue (Option String) := fun exchange =>
  let exchange := record (.choice text labels) exchange
  match exchange.answers.choices with
  | [] => (none, exchange)
  | choice :: choices => (choice, { exchange with answers.choices := choices })

/-- Has an edit applied; false when the editor refuses. -/
def applyEdit (uri : Url) (edit : TextEdit) : Dialogue Bool := fun exchange =>
  let exchange := record (.edit uri edit) exchange
  match exchange.answers.edits with
  | [] => (true, exchange)
  | applied :: edits => (applied, { exchange with answers.edits := edits })

/-- Moves the selection of a document; false when the editor does not comply. -/
def select (uri : Url) (range : Range) : Dialogue Bool := fun exchange =>
  let exchange := record (.selection uri range) exchange
  match exchange.answers.selections with
  | [] => (true, exchange)
  | moved :: selections => (moved, { exchange with answers.selections := selections })

end Dialogue

end AlAssistant
