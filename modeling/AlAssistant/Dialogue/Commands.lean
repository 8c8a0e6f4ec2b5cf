import AlAssistant.Al.Jump
import AlAssistant.Dialogue.Basic
import AlAssistant.Phrase.Choice
import AlAssistant.Portal.ResultPage
import AlAssistant.Settings.Basic
import AlAssistant.Xliff.Insertion

/-!
# What commands ask

The dialogues of the commands: looking phrases up, jumping, and inserting translations.
-/
namespace AlAssistant.Dialogue

open AlAssistant.Portal
open AlAssistant.Settings (Translation Product)

/-! ## Looking phrases up

A lookup searches the configured product. If that finds nothing, the user may choose another
product once, and the second search is final. A search that fails ends the lookup with a
message. A hover makes the first search only and never talks to the user.
-/

/-- One search for a phrase. -/
def search (config : Translation) (phrase : String) (direction : Direction)
    (product limit : Nat) : Dialogue (Except LookupError (List String)) := do
  match searchUrl config.searchUrl phrase direction (languageNumber config.targetLanguage)
    product with
  | .error error => return .error error
  | .ok url =>
    match ← fetch url with
    | .status code => return .error (.status code)
    | .lost cause => return .error (.transport cause)
    | .page html => return .ok (candidates html direction limit)

/-- How many candidates a lookup collects, at least one. -/
def candidateLimit (config : Translation) : Nat := max 1 config.maxTranslations

/-- One search whose failure is told to the user. -/
def searchOrTell (config : Translation) (phrase : String) (direction : Direction)
    (product : Nat) : Dialogue (Option (List String)) := do
  match ← search config phrase direction product (candidateLimit config) with
  | .ok found => return some found
  | .error error =>
    tell .error ("Translation lookup failed: " ++ error.message)
    return none

/-- The question that offers other products. -/
def fallbackQuestion (phrase : String) : String :=
  "No translation found for '" ++ phrase ++ "'. Search in another product?"

def nothingFoundText (phrase : String) (product : Product) : String :=
  "No translation found for '" ++ phrase ++ "' in " ++ product.label

/-- The second search, in a product of the user's choice. -/
def searchFallback (config : Translation) (phrase : String) (direction : Direction) :
    Dialogue (List String) := do
  let labels := config.fallbackProducts.map (·.label)
  match ← choose (fallbackQuestion phrase) labels with
  | none => return []
  | some choice =>
    match config.fallbackProducts.find? (·.label == choice) with
    | none => return []
    | some product =>
      match ← searchOrTell config phrase direction product.id with
      | none => return []
      | some found =>
        if found.isEmpty then tell .info (nothingFoundText phrase product)
        return found

/-- The candidates for a phrase. -/
def lookup (config : Translation) (phrase : String) (direction : Direction) :
    Dialogue (List String) := do
  match ← searchOrTell config phrase direction config.productId with
  | none => return []
  | some found =>
    if found.isEmpty then searchFallback config phrase direction else return found

/-- Looks a phrase up and shows the candidates. -/
def showTranslation (config : Translation) (phrase : String) (direction : Direction) :
    Dialogue (List String) := do
  let found ← lookup config phrase direction
  if !found.isEmpty then
    tell .info (phrase ++ ": " ++ " | ".intercalate found)
  return found

/-- Looks a phrase up for the clipboard, which takes the first candidate. -/
def copyTranslation (config : Translation) (phrase : String) : Dialogue (Option String) := do
  match ← lookup config phrase .forward with
  | [] => return none
  | first :: _ =>
    tell .info ("Copied '" ++ first ++ "' to the clipboard")
    return some first

/-- The text of a hover. -/
def hoverText (phrase language : String) (found : List String) : String :=
  "**Translation:** \x60" ++ phrase ++ "\x60\n\n" ++
    String.join (found.map fun candidate => "**" ++ language ++ "**: " ++ candidate ++ "\n")

/-- The hover at a position. -/
def hover (config : Translation) (text : String) (position : Position) :
    Dialogue (Option String) := do
  match Phrase.hovered? text position with
  | none => return none
  | some phrase =>
    match ← search config phrase .forward config.productId (candidateLimit config) with
    | .error _ => return none
    | .ok found =>
      if found.isEmpty then return none
      else return some (hoverText phrase config.targetLanguage found)

open AlAssistant.Al (Jump Marker)

/-! ## Commands on a document

A jump moves the caret to the next marked line. Inserting notes replaces a localization file
by its filled form in one edit, and tells the user what became of it.
-/

/-- Moves the caret of a document to the next marked line, and says where that is. -/
def jump (uri : Url) (text : String) (cursor : Nat) (marker : Marker) : Dialogue Jump := do
  let target := Jump.next text cursor marker
  let _ ← select uri target.caret
  return target

def insertedText (updated : Nat) : String :=
  "Inserted " ++ toString updated ++ " translation(s) from developer notes"

/-- Fills the targets of a document from its notes; the answer is how many were written. -/
def insertNotes (uri : Url) (text : String) : Dialogue Nat := do
  match Xliff.insertNotes uri.fileName text with
  | .error refusal =>
    tell .warning refusal.message
    return 0
  | .ok insertion =>
    if insertion.isUnchanged then
      tell .info "No translations to insert"
      return 0
    else if ← applyEdit uri ⟨Text.fullRange text, String.ofList insertion.text⟩ then
      tell .info (insertedText insertion.updated)
      return insertion.updated
    else
      tell .error "Failed to insert translations"
      return 0

end AlAssistant.Dialogue
