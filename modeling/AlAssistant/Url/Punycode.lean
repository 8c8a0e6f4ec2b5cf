/-!
# Punycode

A label with characters outside ASCII is written with its ASCII characters first, then a
hyphen, then one variable-length number for each other character. A number says how far the
position has to advance, counted over code points and places at once.
-/
namespace AlAssistant.Url.Punycode

/-- The bias after a step of length `delta` to a label of `count` characters. -/
def balance (delta bias : Nat) : Nat :=
  if h : delta > 455 then balance (delta / 35) (bias + 36) else bias + 36 * delta / (delta + 38)
termination_by delta
decreasing_by omega

def adapt (delta count : Nat) (first : Bool) : Nat :=
  let damped := if first then delta / 700 else delta / 2
  balance (damped + damped / count) 0

/-- The threshold of the digit with weight index `k`. -/
def threshold (k bias : Nat) : Nat := min 26 (max 1 (k - bias))

theorem threshold_le (k bias : Nat) : threshold k bias ≤ 26 := by
  unfold threshold; omega

theorem threshold_pos (k bias : Nat) : 1 ≤ threshold k bias := by
  unfold threshold; omega

def digitChar (d : Nat) : Char := Char.ofNat (if d < 26 then 'a'.toNat + d else '0'.toNat + d - 26)

/-- Digits of a variable-length number, least significant first. -/
def numberDigits (q k bias : Nat) : List Char :=
  let t := threshold k bias
  if q < t then [digitChar q]
  else digitChar (t + (q - t) % (36 - t)) :: numberDigits ((q - t) / (36 - t)) (k + 36) bias
termination_by q
decreasing_by
  have low := threshold_pos k bias
  have high := threshold_le k bias
  have shrink := Nat.div_le_self (q - threshold k bias) (36 - threshold k bias)
  omega

/-- Where the encoder stands: the pending step, the bias, and how many characters are out. -/
structure EncoderState where
  delta : Nat
  bias : Nat
  written : Nat
  output : List Char

/-- Passes one character of the label while code point `point` is being written. -/
def EncoderState.pass (basicCount point : Nat) (s : EncoderState) (c : Char) : EncoderState :=
  if c.toNat < point then { s with delta := s.delta + 1 }
  else if c.toNat = point then
    { delta := 0
      bias := adapt s.delta (s.written + 1) (s.written = basicCount)
      written := s.written + 1
      output := s.output ++ numberDigits s.delta 36 s.bias }
  else s

/-- Writes all characters of the given ascending code points. -/
def writePoints (label : List Char) (basicCount : Nat) : List Nat → Nat → EncoderState → List Char
  | [], _, s => s.output
  | point :: points, next, s =>
    let s := { s with delta := s.delta + (point - next) * (s.written + 1) }
    let s := label.foldl (EncoderState.pass basicCount point) s
    writePoints label basicCount points (point + 1) { s with delta := s.delta + 1 }

/-- The code points outside ASCII, ascending, each once. -/
def extendedPoints (label : List Char) : List Nat :=
  ((label.map Char.toNat).filter (0x80 ≤ ·)).mergeSort.eraseDups

/-- The encoded form of a label, without its marker. -/
def encode (label : List Char) : List Char :=
  let basic := label.filter (·.toNat < 0x80)
  let start := if basic.isEmpty then [] else basic ++ ['-']
  writePoints label basic.length (extendedPoints label) 0x80 ⟨0, 72, basic.length, start⟩

def digitValue? (c : Char) : Option Nat :=
  if 'a' ≤ c ∧ c ≤ 'z' then some (c.toNat - 'a'.toNat)
  else if c.isDigit then some (c.toNat - '0'.toNat + 26)
  else none

/-- Where the decoder stands: the characters so far, the last code point, the place, the
place before the current number, and the weight and weight index of its next digit. -/
structure DecoderState where
  output : List Char
  point : Nat
  place : Nat
  before : Nat
  weight : Nat
  k : Nat
  bias : Nat

/-- Reads one digit. The last digit of a number inserts a character. -/
def DecoderState.read (s : DecoderState) (digit : Nat) : Option DecoderState :=
  let place := s.place + digit * s.weight
  let t := threshold s.k s.bias
  if digit < t then
    let count := s.output.length + 1
    let point := s.point + place / count
    if point.isValidChar then
      some {
        output := s.output.insertIdx (place % count) (Char.ofNat point)
        point := point
        place := place % count + 1
        before := place % count + 1
        weight := 1
        k := 36
        bias := adapt (place - s.before) count (s.before = 0) }
    else none
  else some { s with place := place, weight := s.weight * (36 - t), k := s.k + 36 }

def readDigits : List Char → DecoderState → Option (List Char)
  | [], s => if s.k = 36 then some s.output else none
  | c :: rest, s => do readDigits rest (← s.read (← digitValue? c))

/-- The label that an encoded form stands for. -/
def decode? (encoded : List Char) : Option (List Char) :=
  let tail := (encoded.reverse.takeWhile (· ≠ '-')).reverse
  let basic := encoded.take (encoded.length - tail.length - 1)
  readDigits tail ⟨basic, 0x80, 0, 0, 1, 36, 72⟩

end AlAssistant.Url.Punycode
