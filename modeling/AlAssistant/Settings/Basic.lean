import AlAssistant.Json.Reader
import AlAssistant.Text.Layout
import AlAssistant.Url.Reader

/-!
# Settings

What a user can configure, the defaults, and what a usable configuration is. Checking reports
every fault at once, in the order of the fields.
-/
namespace AlAssistant

namespace Settings

/-- A product of the portal, offered when the first search finds nothing. -/
structure Product where
  label : String
  id : Nat
deriving DecidableEq, Repr

/-- How phrases are looked up. -/
structure Translation where
  /-- The language candidates are in, by name. -/
  targetLanguage : String
  /-- How many candidates a search collects. -/
  maxTranslations : Nat
  /-- The product of the first search; zero is every product. -/
  productId : Nat
  searchUrl : String
  /-- Whether a hover translates. -/
  hover : Bool
  /-- The products to choose from when the first search finds nothing. -/
  fallbackProducts : List Product
deriving DecidableEq, Repr

def Translation.default : Translation where
  targetLanguage := "German"
  maxTranslations := 1
  productId := 0
  searchUrl := "https://www.microsoft.com/en-us/language/Search"
  hover := false
  fallbackProducts :=
    [⟨"All Products", 0⟩, ⟨"Dynamics NAV", 2⟩, ⟨"Dynamics 365 Business Central", 3⟩]

end Settings

structure Settings where
  translation : Settings.Translation
deriving DecidableEq, Repr

namespace Settings

def default : Settings := ⟨.default⟩

/-- What makes settings unusable. -/
inductive Fault where
  | noTranslations
  | unsupportedScheme (scheme : String)
  | invalidUrl (url : String) (cause : Url.Error)
  | noProducts
  | emptyLabel (index : Nat)
deriving DecidableEq, Repr

namespace Fault

/-- The field at fault. -/
def field : Fault → String
  | noTranslations => "translation.maxTranslations"
  | unsupportedScheme _ => "translation.searchUrl"
  | invalidUrl _ _ => "translation.searchUrl"
  | noProducts => "translation.fallbackProducts"
  | emptyLabel index => "translation.fallbackProducts[" ++ toString index ++ "].label"

def message : Fault → String
  | noTranslations => "Must be at least 1. Example: 3"
  | unsupportedScheme scheme =>
    "Unsupported scheme '" ++ scheme ++ "'. Use an http or https URL"
  | invalidUrl url cause => "Invalid URL '" ++ url ++ "': " ++ cause.message
  | noProducts =>
    "At least one product is required. Example: [\x7b\"label\": \"All Products\", \"id\": 0\x7d]"
  | emptyLabel _ => "The label cannot be empty"

/-- A fault on its own. -/
def text (fault : Fault) : String :=
  "Configuration error in '" ++ fault.field ++ "': " ++ fault.message

end Fault

/-- Numbered lines, one for each fault. -/
def faultLines : Nat → List Fault → List String
  | _, [] => []
  | number, fault :: faults =>
    ("  " ++ toString number ++ ". " ++ fault.field ++ " - " ++ fault.message) ::
      faultLines (number + 1) faults

/-- All faults of a check in one text. -/
def faultsText (faults : List Fault) : String :=
  "Configuration validation failed:\n" ++ "\n".intercalate (faultLines 1 faults)

/-- The schemes a search can use. -/
def searchSchemes : List String := ["http", "https"]

/-- The fault of a search address, if it has one. -/
def searchUrlFault? (url : String) : Option Fault :=
  match Url.ofText url with
  | .error cause => some (.invalidUrl url cause)
  | .ok parsed =>
    let scheme := String.ofList parsed.scheme
    if searchSchemes.contains scheme then none else some (.unsupportedScheme scheme)

/-- Faults of product labels; `index` is the place of the first product. -/
def labelFaults : Nat → List Product → List Fault
  | _, [] => []
  | index, product :: products =>
    (if Text.isBlankText product.label.toList then [.emptyLabel index] else []) ++
      labelFaults (index + 1) products

/-- All faults, in the order of the fields. -/
def faults (settings : Settings) : List Fault :=
  let t := settings.translation
  (if t.maxTranslations = 0 then [.noTranslations] else []) ++
    (searchUrlFault? t.searchUrl).toList ++
    (if t.fallbackProducts.isEmpty then [.noProducts] else []) ++
    labelFaults 0 t.fallbackProducts

/-- Whether settings can be used. -/
def isValid (settings : Settings) : Bool := settings.faults.isEmpty

end Settings

end AlAssistant

namespace AlAssistant.Settings

open AlAssistant.Json

/-! ## Settings as JSON

A missing field takes its default; null is no value for any of them. A client sends settings
either on their own or under one key of a wrapping record, and the wrapped form is tried first.
-/

def Product.ofValue? (value : Value) : Option Product := do
  let [label, id] ← value.fields? [("label", .required), ("id", .required)] | none
  return ⟨← required? Value.text? label, ← required? Value.nat32? id⟩

def Translation.fields : List Field :=
  [("targetLanguage", .defaulted), ("maxTranslations", .defaulted), ("productId", .defaulted),
   ("searchUrl", .defaulted), ("hover", .defaulted), ("fallbackProducts", .defaulted)]

def Translation.ofValue? (value : Value) : Option Translation := do
  let [language, limit, product, url, hover, products] ← value.fields? fields | none
  return {
    targetLanguage := ← defaulted? Value.text? default.targetLanguage language
    maxTranslations := ← defaulted? Value.nat64? default.maxTranslations limit
    productId := ← defaulted? Value.nat32? default.productId product
    searchUrl := ← defaulted? Value.text? default.searchUrl url
    hover := ← defaulted? Value.bool? default.hover hover
    fallbackProducts :=
      ← defaulted? (Value.list? Product.ofValue?) default.fallbackProducts products }

def ofValue? (value : Value) : Option Settings := do
  let [translation] ← value.fields? [("translation", .defaulted)] | none
  return ⟨← defaulted? Translation.ofValue? Translation.default translation⟩

/-- Settings under their key in a wrapping record. -/
def ofWrapped? (value : Value) : Option Settings := do
  let [settings] ← value.fields? [("alHelper", .required)] | none
  required? ofValue? settings

/-- Settings as a client sends them. -/
def ofMessage? (value : Value) : Option Settings := (ofWrapped? value).or (ofValue? value)

/-- Settings as the text of a file. -/
def ofText? (text : String) : Option Settings := (Value.ofText? text).bind ofValue?

def Product.toValue (product : Product) : Value :=
  .record [("label", .text product.label), ("id", .nat product.id)]

def Translation.toValue (t : Translation) : Value :=
  .record [
    ("targetLanguage", .text t.targetLanguage),
    ("maxTranslations", .nat t.maxTranslations),
    ("productId", .nat t.productId),
    ("searchUrl", .text t.searchUrl),
    ("hover", .bool t.hover),
    ("fallbackProducts", .array (t.fallbackProducts.map Product.toValue))]

/-- All fields of settings, also those that have their default. -/
def toValue (settings : Settings) : Value :=
  .record [("translation", settings.translation.toValue)]

end AlAssistant.Settings
