/-!
# Percent encoding and UTF-8

A component of a URL is written over UTF-8: characters outside ASCII and the characters of
the component's own set become `%` and two capital hexadecimal digits for every byte. The
sets grow from one another, from the controls up to the user information. Decoding gives the
bytes that were encoded, whatever follows them, and leaves every byte alone that is no percent
sign.
-/
namespace AlAssistant.Url

/-- The ASCII characters that a component may not hold. -/
abbrev EncodeSet := Char → Bool

def controlSet : EncodeSet := fun c => c.toNat < 0x20 || c.toNat = 0x7F

def fragmentSet : EncodeSet := fun c => controlSet c || " \"<>\x60".toList.contains c

def querySet : EncodeSet := fun c => controlSet c || " \"#<>".toList.contains c

/-- The query of a special scheme may not hold an apostrophe either. -/
def specialQuerySet : EncodeSet := fun c => querySet c || c == '\''

def pathSet : EncodeSet := fun c => querySet c || "?^\x60\x7b\x7d".toList.contains c

def userinfoSet : EncodeSet := fun c => pathSet c || "/:;=@[\\]|".toList.contains c

/-- A capital hexadecimal digit. -/
def hexCapital (n : Nat) : Char := Char.ofNat (if n < 10 then '0'.toNat + n else 'A'.toNat + n - 10)

/-- One byte as `%XX`. -/
def percentByte (b : UInt8) : List Char :=
  ['%', hexCapital (b.toNat / 16), hexCapital (b.toNat % 16)]

/-- One character under an encode set. -/
def percentChar (set : EncodeSet) (c : Char) : List Char :=
  if c.toNat < 0x80 && !set c then [c] else (String.utf8EncodeChar c).flatMap percentByte

def percentEncode (set : EncodeSet) (text : List Char) : List Char := text.flatMap (percentChar set)

def hexValue? (b : UInt8) : Option Nat :=
  let n := b.toNat
  if 48 ≤ n ∧ n ≤ 57 then some (n - 48)
  else if 65 ≤ n ∧ n ≤ 70 then some (n - 55)
  else if 97 ≤ n ∧ n ≤ 102 then some (n - 87)
  else none

/-- Replaces every `%` followed by two hexadecimal digits by their byte. -/
def percentDecode : List UInt8 → List UInt8
  | [] => []
  | [b] => [b]
  | [b, x] => [b, x]
  | b :: x :: y :: rest =>
    if b = 37 then
      match hexValue? x, hexValue? y with
      | some high, some low => UInt8.ofNat (16 * high + low) :: percentDecode rest
      | _, _ => b :: percentDecode (x :: y :: rest)
    else b :: percentDecode (x :: y :: rest)

/-- The bytes of a text in UTF-8. -/
def utf8 (text : List Char) : List UInt8 := text.flatMap String.utf8EncodeChar

/-- The text that bytes encode, when they are well-formed UTF-8. -/
def ofUtf8? (bytes : List UInt8) : Option (List Char) :=
  (String.fromUTF8? bytes.toByteArray).map String.toList

/-! ## Encoded bytes are read back -/

@[simp] theorem utf8_append (a b : List Char) : utf8 (a ++ b) = utf8 a ++ utf8 b :=
  List.flatMap_append

/-- An ASCII character is one byte. -/
theorem utf8_ascii {c : Char} (h : c.toNat < 0x80) : utf8 [c] = [UInt8.ofNat c.toNat] := by
  have size : c.utf8Size = 1 := by
    rw [Char.utf8Size_eq_one_iff]
    exact UInt32.le_iff_toNat_le.2 (Nat.le_of_lt_succ h)
  simp only [utf8, List.flatMap_cons, List.flatMap_nil, List.append_nil]
  rw [String.utf8EncodeChar_eq_singleton size]
  rfl

theorem utf8_hexCapital :
    ∀ n < 16, utf8 [hexCapital n] = [UInt8.ofNat (hexCapital n).toNat] := by
  decide

theorem hexValue?_hexCapital :
    ∀ n < 16, hexValue? (UInt8.ofNat (hexCapital n).toNat) = some n := by
  decide

theorem utf8_percentByte (b : UInt8) :
    utf8 (percentByte b) = [37, UInt8.ofNat (hexCapital (b.toNat / 16)).toNat,
      UInt8.ofNat (hexCapital (b.toNat % 16)).toNat] := by
  have high := utf8_hexCapital (b.toNat / 16) (by have := b.toNat_lt; omega)
  have low := utf8_hexCapital (b.toNat % 16) (by omega)
  have percent : utf8 ['%'] = [37] := by decide
  have parts : percentByte b =
      ['%'] ++ [hexCapital (b.toNat / 16)] ++ [hexCapital (b.toNat % 16)] := rfl
  rw [parts, utf8_append, utf8_append, percent, high, low]
  rfl

theorem percentDecode_percentByte (b : UInt8) (rest : List UInt8) :
    percentDecode (utf8 (percentByte b) ++ rest) = b :: percentDecode rest := by
  have high := hexValue?_hexCapital (b.toNat / 16) (by have := b.toNat_lt; omega)
  have low := hexValue?_hexCapital (b.toNat % 16) (by omega)
  simp [utf8_percentByte, percentDecode, high, low, Nat.div_add_mod]

theorem percentDecode_percentBytes (bytes rest : List UInt8) :
    percentDecode (utf8 (bytes.flatMap percentByte) ++ rest) = bytes ++ percentDecode rest := by
  induction bytes with
  | nil => rfl
  | cons b bytes ih => simp [percentDecode_percentByte, ih]

/-- A byte that is no percent sign stays. -/
theorem percentDecode_cons {b : UInt8} (h : b ≠ 37) (rest : List UInt8) :
    percentDecode (b :: rest) = b :: percentDecode rest := by
  match rest with
  | [] => rfl
  | [_] => rfl
  | _ :: _ :: _ => simp [percentDecode, h]

/-! ## UTF-8 with replacement

A reader of parameters does not refuse bytes that are no UTF-8. It takes characters from the
front and puts U+FFFD where none begins. The replacement stands for one byte, together with
those bytes behind it that might still have made a character of it. Bytes that encode a text are
read as that text. -/

/-- The character that well-formed bytes begin with. -/
def firstChar? (bytes : List UInt8) : Option Char := bytes.toByteArray.utf8DecodeChar? 0

/-- First and last value of a byte behind the one that leads. -/
abbrev ByteRange := Nat × Nat

/-- The bytes that a leading byte asks for. Overlong forms, surrogates and numbers past the last
code point are excluded by the first of them. -/
def continuations (lead : UInt8) : List ByteRange :=
  let any := (0x80, 0xBF)
  let n := lead.toNat
  if n < 0xC2 then []
  else if n < 0xE0 then [any]
  else if n = 0xE0 then [(0xA0, 0xBF), any]
  else if n = 0xED then [(0x80, 0x9F), any]
  else if n < 0xF0 then [any, any]
  else if n = 0xF0 then [(0x90, 0xBF), any, any]
  else if n < 0xF4 then [any, any, any]
  else if n = 0xF4 then [(0x80, 0x8F), any, any]
  else []

/-- How many bytes are as the ranges ask, from the first on. -/
def agreeing : List ByteRange → List UInt8 → Nat
  | (first, last) :: ranges, b :: bytes =>
    if first ≤ b.toNat ∧ b.toNat ≤ last then agreeing ranges bytes + 1 else 0
  | _, _ => 0

/-- The text that bytes are read as. -/
def replaceUtf8 : List UInt8 → List Char
  | [] => []
  | b :: bytes =>
    match firstChar? (b :: bytes) with
    | some c => c :: replaceUtf8 (bytes.drop (c.utf8Size - 1))
    | none => '\uFFFD' :: replaceUtf8 (bytes.drop (agreeing (continuations b) bytes))
termination_by bytes => bytes.length
decreasing_by all_goals simp only [List.length_drop, List.length_cons]; omega

theorem firstChar?_encoded (c : Char) (bytes : List UInt8) :
    firstChar? (String.utf8EncodeChar c ++ bytes) = some c := by
  unfold firstChar?
  rw [List.toByteArray_append, ByteArray.utf8DecodeChar?_utf8EncodeChar_append]

theorem replaceUtf8_encoded (c : Char) (bytes : List UInt8) :
    replaceUtf8 (String.utf8EncodeChar c ++ bytes) = c :: replaceUtf8 bytes := by
  have hf := firstChar?_encoded c bytes
  have hl : (String.utf8EncodeChar c).length = c.utf8Size := String.length_utf8EncodeChar c
  cases he : String.utf8EncodeChar c with
  | nil =>
    have := c.utf8Size_pos
    rw [he, List.length_nil] at hl
    omega
  | cons b tail =>
    rw [he, List.cons_append] at hf
    rw [he, List.length_cons] at hl
    rw [List.cons_append, replaceUtf8, hf]
    dsimp only
    rw [← hl, Nat.add_sub_cancel, List.drop_left]

/-- What was encoded is read without a replacement. -/
@[simp] theorem replaceUtf8_utf8 (text : List Char) : replaceUtf8 (utf8 text) = text := by
  induction text with
  | nil => rw [utf8, List.flatMap_nil, replaceUtf8]
  | cons c text ih =>
    rw [utf8, List.flatMap_cons, replaceUtf8_encoded]
    exact congrArg (c :: ·) ih

end AlAssistant.Url
