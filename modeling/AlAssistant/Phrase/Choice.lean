import AlAssistant.Document.Basic

/-!
# Phrases

What is picked from a text to be translated: a selection, the word at a caret, or the text that a
hover is over.
-/
namespace AlAssistant.Phrase

open AlAssistant.Text

/-! ## Selected text

A selection takes the end of its first line, all lines between, and the start of its last
line. Lines that do not exist give nothing, and neither does a selection whose ends are in
reverse order.
-/

/-- The part of line number `index` that a range covers. -/
def coveredPart (range : Range) (line : List Char) (index : Nat) : List Char :=
  let kept :=
    if index = range.stop.line then line.take (charIndex line range.stop.character) else line
  if index = range.start.line then kept.drop (charIndex line range.start.character) else kept

/-- The text under a range, with line feeds between its lines. -/
def selectedText (text : List Char) (range : Range) : List Char :=
  let covered := ((lines text).take (range.stop.line + 1)).drop range.start.line
  joinLines
    ((covered.zipIdx range.start.line).map fun (line, index) => coveredPart range line index)

/-! ## The word at the caret

Quotes of a line are paired off from the left. A caret between the quotes of a pair, or next to
one of them, picks the name inside. Elsewhere it picks the letters, digits and underscores
around it.
-/

/-- The name in quotes at a caret. `parts` are the pieces of the line between its quotes, and
the caret counts characters from the first of them. -/
def quotedAt? (caret : Nat) : List (List Char) → Option (List Char)
  | outside :: inside :: next :: parts =>
    let start := outside.length
    let stop := start + 1 + inside.length
    if caret < start then none
    else if caret ≤ stop then some inside
    else quotedAt? (caret - (stop + 1)) (next :: parts)
  | _ => none

def isNameChar (c : Char) : Bool := isAlphanumeric c || c == '_'

/-- The name characters around a caret. -/
def nameAround (line : List Char) (caret : Nat) : List Char :=
  ((line.take caret).reverse.takeWhile isNameChar).reverse ++
    (line.drop caret).takeWhile isNameChar

/-- The quoted name or the identifier at a column. -/
def wordAt? (line : List Char) (column : Nat) : Option (List Char) :=
  let caret := charIndex line column
  match quotedAt? caret (splitOnChar '"' line) with
  | some name => some name
  | none =>
    let name := nameAround line caret
    if name.isEmpty then none else some name

/-- Whether a line holds nothing but a comment. -/
def isCommentLine (line : List Char) : Bool := (dropStart? "//".toList (trimStart line)).isSome

/-! ## Choosing a phrase

A command translates the phrase it is given, else the selection, else the word at the caret.
A hover translates the source text of a localization file where the line has one, else the
word below the pointer. Blanks around a phrase are dropped, and then one pair of quotes.
-/

/-- Why a command has nothing to translate. -/
inductive Refusal where
  | commentLine
  | empty
deriving DecidableEq, Repr

def Refusal.message : Refusal → String
  | .commentLine => "Comment lines cannot be translated"
  | .empty => "Select a phrase to translate"

/-- A phrase without blanks around it and without its quotes. -/
def bare (phrase : List Char) : List Char := stripQuotes (trim phrase)

/-- What a selection or a caret picks. -/
def picked (text : List Char) (selection : Range) : Except Refusal (List Char) :=
  let line := ((lines text)[selection.start.line]?).getD []
  if isCommentLine line then .error .commentLine
  else if selection.isEmpty then .ok ((wordAt? line selection.start.character).getD [])
  else .ok (selectedText text selection)

/-- A bare phrase with something left in it. -/
def bare? (phrase : List Char) : Option String :=
  if (bare phrase).isEmpty then none else some (String.ofList (bare phrase))

/-- The phrase a command translates. -/
def resolve (text : String) (selection : Range) (given : Option String) :
    Except Refusal String :=
  let phrase : Except Refusal (List Char) := match given with
    | some phrase => .ok phrase.toList
    | none => picked text.toList selection
  match phrase with
  | .error refusal => .error refusal
  | .ok phrase =>
    match bare? phrase with
    | some phrase => .ok phrase
    | none => .error .empty

/-- The text of the first source element that opens and closes on a line. -/
def sourceText? (line : List Char) : Option (List Char) :=
  (cutAt? "<source>".toList line).bind fun (_, behind) =>
    (cutAt? "</source>".toList behind).map (·.1)

/-- What a hover picks on a line. -/
def pointed? (line : List Char) (column : Nat) : Option (List Char) :=
  if isCommentLine line then none else (sourceText? line).or (wordAt? line column)

/-- The phrase a hover translates. -/
def hovered? (text : String) (position : Position) : Option String :=
  ((lines text.toList)[position.line]?).bind fun line =>
    (pointed? line position.character).bind bare?

end AlAssistant.Phrase
