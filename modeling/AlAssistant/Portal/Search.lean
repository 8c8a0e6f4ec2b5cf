import AlAssistant.Text.Layout
import AlAssistant.Url.Form
import AlAssistant.Url.Reader

/-!
# Searching the terminology portal

The portal knows languages by number. A search is one URL: the configured address with four
parameters added, the phrase, the language, the product, and the side the phrase is on.
-/
namespace AlAssistant.Portal

/-- Languages of the portal with their numbers. -/
def languages : List (String × Nat) :=
  [("Czech", 328), ("Danish", 332), ("Dutch", 560), ("English", 253), ("Finnish", 341),
   ("French", 345), ("German", 354), ("Icelandic", 394), ("Italian", 402), ("Norwegian", 536),
   ("Polish", 565), ("Portuguese", 567), ("Russian", 595), ("Spanish", 642), ("Swedish", 648),
   ("Turkish", 673)]

/-- The number that stands in for an unknown language, that of German. -/
def defaultLanguage : Nat := 354

/-- The number of a language by its name, in any case and with blanks around it. -/
def languageNumber (name : String) : Nat :=
  let name := Text.trim name.toList
  match languages.find? fun language => Text.sameIgnoringCase language.1.toList name with
  | some language => language.2
  | none => defaultLanguage

/-- Which side of a pair of terms the phrase is on. -/
inductive Direction where
  /-- From English to the target language. -/
  | forward
  /-- From the target language to English. -/
  | reverse
deriving DecidableEq, Repr

namespace Direction

/-- Whether the phrase is the source of the pair, as a parameter. -/
def sourceParameter : Direction → String
  | forward => "true"
  | reverse => "false"

/-- The class of the cells that hold the other side. -/
def cellClass : Direction → String
  | forward => "trs_target_clm"
  | reverse => "trs_source_clm"

end Direction

/-- Why a lookup gives no page. -/
inductive LookupError where
  /-- The portal answered with a status that is no success. -/
  | status (code : Nat)
  /-- The request, or the reading of its answer, failed. -/
  | transport (cause : String)
  | invalidUrl (url : String) (cause : Url.Error)
deriving DecidableEq, Repr

def LookupError.message : LookupError → String
  | status code => "Translation service returned HTTP " ++ toString code
  | transport cause => "Translation request failed: " ++ cause
  | invalidUrl url cause => "Invalid search URL '" ++ url ++ "': " ++ cause.message

/-- The parameters of a search, in order. -/
def searchParameters (phrase : String) (direction : Direction) (language product : Nat) :
    List Url.Parameter :=
  [("searchTerm", phrase), ("langID", toString language), ("productid", toString product),
   ("Source", direction.sourceParameter)]

/-- The URL of a search at the address `base`. -/
def searchUrl (base phrase : String) (direction : Direction) (language product : Nat) :
    Except LookupError Url :=
  match Url.ofText base with
  | .ok url => .ok (url.withParameters (searchParameters phrase direction language product))
  | .error cause => .error (.invalidUrl base cause)

end AlAssistant.Portal
