import AlAssistant.Url.Basic
import AlAssistant.Url.Percent

/-!
# Query parameters

Parameters are written as name, equals sign and value, with an ampersand between pairs. A
space becomes a plus sign, and every other character that is not a letter, a digit or one of
`*-._` is percent-encoded, so neither delimiter can come from a name or a value. Reading cuts
at the delimiters first and decodes then, with U+FFFD for bytes that are no UTF-8. So a name or
value is read as it was given, and parameters that are added to a query are read behind those
that were there, each by itself.
-/
namespace AlAssistant.Url

open AlAssistant.Text

/-! ## Writing -/

/-- Characters of a parameter that stand for themselves. -/
def isPlainInForm (c : Char) : Bool := c.isAlphanum || "*-._".toList.contains c

/-- One character of a name or value. -/
def formChar (c : Char) : List Char :=
  if isPlainInForm c then [c]
  else if c = ' ' then ['+']
  else (String.utf8EncodeChar c).flatMap percentByte

def formEncode (text : List Char) : List Char := text.flatMap formChar

/-- A pair of name and value. -/
abbrev Parameter := String × String

def formPair (parameter : Parameter) : List Char :=
  formEncode parameter.1.toList ++ ['='] ++ formEncode parameter.2.toList

/-- The pairs of a query, with delimiters. -/
def formPairs (parameters : List Parameter) : List Char :=
  ['&'].intercalate (parameters.map formPair)

/-- Adds parameters behind the query that is there. -/
def withParameters (url : Url) (parameters : List Parameter) : Url :=
  let added := formPairs parameters
  { url with
    query := some (match url.query with
      | none => added
      | some [] => added
      | some query => query ++ ['&'] ++ added) }

/-! ## Reading -/

/-- Plus signs read as spaces. -/
def plusToSpace (written : List Char) : List Char :=
  written.map fun c => if c = '+' then ' ' else c

/-- The text that a written name or value is read as. -/
def formText (written : List Char) : String :=
  String.ofList (replaceUtf8 (percentDecode (utf8 (plusToSpace written))))

/-- Name and value as written. Without an equals sign the value is empty. -/
def cutPair (pair : List Char) : List Char × List Char := (cutAt? ['='] pair).getD (pair, [])

/-- The written pairs of a query. Nothing between two ampersands is no pair. -/
def writtenPairs (query : List Char) : List (List Char × List Char) :=
  ((splitOnChar '&' query).filter (!·.isEmpty)).map cutPair

/-- The parameters of a query, in order. -/
def queryPairs (query : List Char) : List Parameter :=
  (writtenPairs query).map fun (name, value) => (formText name, formText value)

/-- The parameters of a URL as its receiver reads them. -/
def pairs (url : Url) : List Parameter := queryPairs (url.query.getD [])

/-! ## What is written is read back -/

theorem toNat_lt_of_isPlainInForm {c : Char} (h : isPlainInForm c = true) : c.toNat < 0x80 := by
  delta isPlainInForm Char.isAlphanum Char.isAlpha Char.isUpper Char.isLower Char.isDigit at h
  simp at h
  rcases h with ((⟨_, h⟩ | ⟨_, h⟩) | ⟨_, h⟩) | rfl | rfl | rfl | rfl
  · exact Nat.lt_of_le_of_lt (UInt32.le_iff_toNat_le.1 h) (by decide)
  · exact Nat.lt_of_le_of_lt (UInt32.le_iff_toNat_le.1 h) (by decide)
  · exact Nat.lt_of_le_of_lt (UInt32.le_iff_toNat_le.1 h) (by decide)
  all_goals decide

theorem ne_special_of_plain_ascii : ∀ n < 0x80, isPlainInForm (Char.ofNat n) = true →
    n ≠ 37 ∧ Char.ofNat n ≠ '+' ∧ Char.ofNat n ≠ '&' ∧ Char.ofNat n ≠ '=' := by
  decide

/-- A plain character means nothing in a query. -/
theorem ne_special_of_isPlainInForm {c : Char} (h : isPlainInForm c = true) :
    c.toNat ≠ 37 ∧ c ≠ '+' ∧ c ≠ '&' ∧ c ≠ '=' := by
  have small := toNat_lt_of_isPlainInForm h
  rw [← Char.ofNat_toNat c] at h
  have facts := ne_special_of_plain_ascii c.toNat small h
  rw [Char.ofNat_toNat] at facts
  exact facts

theorem hexCapital_ne_special :
    ∀ n < 16, hexCapital n ≠ '+' ∧ hexCapital n ≠ '&' ∧ hexCapital n ≠ '=' := by
  decide

theorem ne_special_of_mem_percentByte {b : UInt8} {d : Char} (h : d ∈ percentByte b) :
    d ≠ '+' ∧ d ≠ '&' ∧ d ≠ '=' := by
  have high := hexCapital_ne_special (b.toNat / 16) (by have := b.toNat_lt; omega)
  have low := hexCapital_ne_special (b.toNat % 16) (by omega)
  simp only [percentByte, List.mem_cons, List.not_mem_nil, or_false] at h
  rcases h with rfl | rfl | rfl
  · decide
  · exact high
  · exact low

theorem plusToSpace_append (a b : List Char) :
    plusToSpace (a ++ b) = plusToSpace a ++ plusToSpace b :=
  List.map_append

theorem plusToSpace_percentBytes (bytes : List UInt8) :
    plusToSpace (bytes.flatMap percentByte) = bytes.flatMap percentByte := by
  refine (List.map_congr_left fun d h => ?_).trans (List.map_id _)
  obtain ⟨b, _, inside⟩ := List.mem_flatMap.1 h
  exact if_neg (ne_special_of_mem_percentByte inside).1

/-- Decoding takes back what one character was written as. -/
theorem percentDecode_formChar (c : Char) (rest : List UInt8) :
    percentDecode (utf8 (plusToSpace (formChar c)) ++ rest) = utf8 [c] ++ percentDecode rest := by
  unfold formChar
  split
  · next plain =>
    have small := toNat_lt_of_isPlainInForm plain
    have facts := ne_special_of_isPlainInForm plain
    have notPercent : UInt8.ofNat c.toNat ≠ 37 := by
      intro h
      have := congrArg UInt8.toNat h
      simp at this
      omega
    have kept : plusToSpace [c] = [c] := by simp [plusToSpace, facts.2.1]
    rw [kept, utf8_ascii small]
    exact percentDecode_cons notPercent rest
  · split
    · next space =>
      subst space
      exact percentDecode_cons (b := 32) (by decide) rest
    · rw [plusToSpace_percentBytes, percentDecode_percentBytes]
      simp [utf8]

theorem percentDecode_formEncode (text : List Char) :
    percentDecode (utf8 (plusToSpace (formEncode text))) = utf8 text := by
  induction text with
  | nil => rfl
  | cons c text ih =>
    have parts : formEncode (c :: text) = formChar c ++ formEncode text := List.flatMap_cons
    rw [parts, plusToSpace_append, utf8_append, percentDecode_formChar, ih]
    exact (utf8_append [c] text).symm

@[simp] theorem formText_formEncode (text : String) : formText (formEncode text.toList) = text := by
  rw [formText, percentDecode_formEncode, replaceUtf8_utf8, String.ofList_toList]

/-- What is encoded holds no delimiter. -/
theorem ne_delimiter_of_mem_formEncode {text : List Char} {d : Char} (h : d ∈ formEncode text) :
    d ≠ '&' ∧ d ≠ '=' := by
  obtain ⟨c, _, inside⟩ := List.mem_flatMap.1 h
  unfold formChar at inside
  split at inside
  · next plain =>
    rw [List.mem_singleton.1 inside]
    exact (ne_special_of_isPlainInForm plain).2.2
  · split at inside
    · rw [List.mem_singleton.1 inside]
      decide
    · obtain ⟨b, _, inByte⟩ := List.mem_flatMap.1 inside
      exact (ne_special_of_mem_percentByte inByte).2

theorem ampersand_notMem_formPair (parameter : Parameter) : '&' ∉ formPair parameter := by
  intro h
  simp only [formPair, List.mem_append, List.mem_singleton] at h
  rcases h with (h | h) | h
  · exact (ne_delimiter_of_mem_formEncode h).1 rfl
  · exact absurd h (by decide)
  · exact (ne_delimiter_of_mem_formEncode h).1 rfl

/-- A written pair is cut where its parts meet. -/
theorem cutPair_formPair (parameter : Parameter) :
    cutPair (formPair parameter) =
      (formEncode parameter.1.toList, formEncode parameter.2.toList) := by
  have noEquals : '=' ∉ formEncode parameter.1.toList := fun h =>
    (ne_delimiter_of_mem_formEncode h).2 rfl
  simp [cutPair, formPair, cutAt?_singleton noEquals]

theorem writtenPairs_append (a b : List Char) :
    writtenPairs (a ++ '&' :: b) = writtenPairs a ++ writtenPairs b := by
  simp [writtenPairs, splitOnChar_append]

theorem writtenPairs_formPair (parameter : Parameter) :
    writtenPairs (formPair parameter) = [cutPair (formPair parameter)] := by
  have notEmpty : formPair parameter ≠ [] := by simp [formPair]
  simp [writtenPairs, splitOnChar_of_notMem (ampersand_notMem_formPair parameter), notEmpty]

theorem writtenPairs_formPairs (parameters : List Parameter) :
    writtenPairs (formPairs parameters) = parameters.map fun p => cutPair (formPair p) := by
  induction parameters with
  | nil => rfl
  | cons first parameters ih =>
    cases parameters with
    | nil => simp [formPairs, writtenPairs_formPair]
    | cons second parameters =>
      have parts : formPairs (first :: second :: parameters) =
          formPair first ++ '&' :: formPairs (second :: parameters) := by
        simp [formPairs]
      rw [parts, writtenPairs_append, ih, writtenPairs_formPair]
      rfl

/-- Parameters are read as they were given. -/
theorem queryPairs_formPairs (parameters : List Parameter) :
    queryPairs (formPairs parameters) = parameters := by
  rw [queryPairs, writtenPairs_formPairs, List.map_map]
  refine (List.map_congr_left fun parameter _ => ?_).trans (List.map_id parameters)
  simp [cutPair_formPair]

/-- Added parameters are read behind those of the query that was there. -/
theorem queryPairs_append (query : List Char) (parameters : List Parameter) :
    queryPairs (query ++ '&' :: formPairs parameters) = queryPairs query ++ parameters := by
  rw [queryPairs, writtenPairs_append, List.map_append]
  exact congrArg (queryPairs query ++ ·) (queryPairs_formPairs parameters)

theorem pairs_withParameters (url : Url) (added : List Parameter) :
    (url.withParameters added).pairs = url.pairs ++ added := by
  unfold pairs withParameters
  cases url.query with
  | none => exact queryPairs_formPairs added
  | some query =>
    cases query with
    | nil => exact queryPairs_formPairs added
    | cons c query => simpa using queryPairs_append (c :: query) added

end AlAssistant.Url
