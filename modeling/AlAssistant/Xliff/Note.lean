import AlAssistant.Text.Layout

/-!
# Languages and developer notes

The language of a localization file is known from its name, and developer notes give translations
for it by a code.
-/
namespace AlAssistant.Xliff

open AlAssistant.Text

/-! ## The language of a localization file

The name of a translated file holds the tag of its locale, and developer notes name the same
language by a code of three letters. The tag may stand anywhere in the name; of several, the
one that comes first in the table counts.
-/

/-- Locale tags and the codes used in notes. -/
def locales : List (String × String) :=
  [("cs-CZ", "CSY"), ("da-DK", "DAN"), ("de-AT", "DEA"), ("de-CH", "DES"), ("de-DE", "DEU"),
   ("en-AU", "ENA"), ("en-CA", "ENC"), ("en-GB", "ENG"), ("en-NZ", "ENZ"), ("en-US", "ENU"),
   ("es-ES", "ESP"), ("es-MX", "ESM"), ("fi-FI", "FIN"), ("fr-BE", "FRB"), ("fr-CA", "FRC"),
   ("fr-CH", "FRS"), ("fr-FR", "FRA"), ("is-IS", "ISL"), ("it-CH", "ITS"), ("it-IT", "ITA"),
   ("nb-NO", "NOR"), ("nl-BE", "NLB"), ("nl-NL", "NLD"), ("pl-PL", "PLK"), ("ru-RU", "RUS"),
   ("sv-SE", "SVE")]

/-- The code of the first locale whose tag occurs in a file name, in any case. -/
def languageCode? (fileName : String) : Option String :=
  let name := asciiLower fileName.toList
  (locales.find? fun locale => occursIn (asciiLower locale.1.toList) name).map (·.2)

/-- Why notes cannot be inserted into a file. -/
inductive Refusal where
  | notXliff (fileName : String)
  | generatedFile (fileName : String)
  | unsupportedLanguage (fileName : String)
deriving DecidableEq, Repr

def Refusal.message : Refusal → String
  | .notXliff fileName => "'" ++ fileName ++ "' is not an XLF file"
  | .generatedFile fileName =>
    "'" ++ fileName ++ "' is the generated source file; open a translated XLF file instead"
  | .unsupportedLanguage fileName => "The language of '" ++ fileName ++ "' is not supported"

/-- The code of a translated file. -/
def codeOfFile (fileName : String) : Except Refusal String :=
  let name := asciiLower fileName.toList
  if !endsWith ".xlf".toList name then .error (.notXliff fileName)
  else if occursIn ".g.xlf".toList name then .error (.generatedFile fileName)
  else match languageCode? fileName with
    | some code => .ok code
    | none => .error (.unsupportedLanguage fileName)

/-! ## Developer notes

A note gives translations as pairs such as `DEU=Hallo,FRA=Bonjour`. A code of three capitals
and an equals sign open a pair at the start of the note or behind a comma, so a value reaches
up to the comma before the next code and may hold commas itself. A value may stand in quotes,
and one that is written here always does.
-/

/-- A translation for the language with a code. -/
structure NotePair where
  code : List Char
  value : List Char
deriving DecidableEq, Repr

def isCapital (c : Char) : Bool := 'A' ≤ c && c ≤ 'Z'

/-- A code and an equals sign behind optional blanks, and what follows them. -/
def codeHere? (text : List Char) : Option (List Char × List Char) :=
  match trimStart text with
  | a :: b :: c :: '=' :: rest =>
    if isCapital a && isCapital b && isCapital c then some ([a, b, c], rest) else none
  | _ => none

/-- Drops blanks, one comma at the end, and the quotes of a value. -/
def cleanValue (raw : List Char) : List Char :=
  let value := trim raw
  let value := if value.getLast? = some ',' then value.dropLast else value
  stripQuotes (trimEnd value)

/-- The text before the first comma that a code follows, the code, and what follows it. -/
def nextCode? : List Char → Option (List Char × List Char × List Char)
  | [] => none
  | c :: text =>
    match if c = ',' then codeHere? text else none with
    | some (code, rest) => some ([], code, rest)
    | none => (nextCode? text).map fun (before, code, rest) => (c :: before, code, rest)

theorem codeHere?_length {text code rest : List Char} (h : codeHere? text = some (code, rest)) :
    rest.length < text.length := by
  have bound := (List.dropWhile_sublist isBlank (l := text)).length_le
  unfold codeHere? trimStart at h
  split at h
  · next heq =>
    split at h
    · cases h
      rw [heq] at bound
      simp only [List.length_cons] at bound
      omega
    · cases h
  · cases h

theorem nextCode?_length {text before code rest : List Char}
    (h : nextCode? text = some (before, code, rest)) : rest.length < text.length := by
  induction text generalizing before with
  | nil => cases h
  | cons c text ih =>
    unfold nextCode? at h
    split at h
    · next heq =>
      cases h
      split at heq
      · exact Nat.lt_succ_of_lt (codeHere?_length heq)
      · cases heq
    · cases hn : nextCode? text with
      | none => simp [hn] at h
      | some found =>
        obtain ⟨b, c', r⟩ := found
        simp only [hn, Option.map_some, Option.some.injEq, Prod.mk.injEq] at h
        obtain ⟨_, rfl, rfl⟩ := h
        exact Nat.lt_succ_of_lt (ih hn)

/-- The pairs of a note from the value of `code` on. -/
def pairsFrom (code text : List Char) : List NotePair :=
  match _h : nextCode? text with
  | none => [⟨code, cleanValue text⟩]
  | some (raw, next, rest) => ⟨code, cleanValue raw⟩ :: pairsFrom next rest
termination_by text.length
decreasing_by exact nextCode?_length _h

/-- The pairs of a note, in order. -/
def notePairs (note : List Char) : List NotePair :=
  match codeHere? note with
  | some (code, rest) => pairsFrom code rest
  | none =>
    match nextCode? note with
    | some (_, code, rest) => pairsFrom code rest
    | none => []

/-- The value for a code, that of the first pair with it. -/
def noteValue? (note : List Char) (code : List Char) : Option (List Char) :=
  ((notePairs note).find? (·.code == code)).map (·.value)

/-- A pair with its value in quotes. -/
def NotePair.render (pair : NotePair) : List Char :=
  pair.code ++ "=\"".toList ++ pair.value ++ ['"']

/-- A note that gives pairs in order. -/
def renderNote (pairs : List NotePair) : List Char := [','].intercalate (pairs.map NotePair.render)

end AlAssistant.Xliff
