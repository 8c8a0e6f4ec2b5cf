/-!
# JSON

Values, how records are decoded from them, and how they are written.
-/
namespace AlAssistant.Json

/-! ## JSON values

A value keeps what later readers can tell apart. Whole numbers are integers of any size;
every other number, the negative zero included, is kept as it was written. Members of an
object stay in order and may repeat a key, since whether that is an error depends on who
reads the object.
-/

/-- The text of a string literal. A literal with half of a surrogate pair is well formed but
stands for no text. -/
abbrev Literal := Option String

inductive Value where
  | null
  | bool (b : Bool)
  | integer (i : Int)
  | decimal (written : String)
  | string (s : Literal)
  | array (items : List Value)
  | object (members : List (Literal × Value))
deriving Inhabited, Repr

/-- A string value. -/
def Value.text (s : String) : Value := .string (some s)

def Value.nat (n : Nat) : Value := .integer n

/-- An object with distinct keys that are texts. -/
def Value.record (members : List (String × Value)) : Value :=
  .object (members.map fun (key, value) => (some key, value))

def Value.isNull : Value → Bool
  | .null => true
  | _ => false

/-- Null in place of a missing value. -/
def Value.orNull {α : Type} (encode : α → Value) : Option α → Value
  | none => .null
  | some a => encode a

/-! ## Decoding records

A record with named fields may be written as an object, or as an array of its fields in the
order of their declaration. An object may hold further members, but a declared key given
twice is an error, and so is a key that stands for no text. An array may not be longer than
the record. Decoders answer nothing when a value has the wrong shape.
-/

/-- What it means that a field is missing. -/
inductive Presence where
  /-- The record is then malformed. -/
  | required
  /-- The field is empty when an object leaves it out; an array has to give it. -/
  | optional
  /-- The field takes its default in both forms. -/
  | defaulted
deriving DecidableEq, Repr

/-- A declared field. -/
abbrev Field := String × Presence

/-- The member of a declared field; a repeated key gives nothing. -/
def member? (members : List (Literal × Value)) (field : Field) : Option (Option Value) :=
  match members.filter (·.1 == some field.1) with
  | [] => if field.2 = .required then none else some none
  | [(_, value)] => some (some value)
  | _ => none

/-- The fields of a record in its object form only. -/
def Value.members? (fields : List Field) : Value → Option (List (Option Value))
  | .object members =>
    if members.all (·.1.isSome) then fields.mapM (member? members) else none
  | _ => none

/-- The items of an array given to the declared fields in order. -/
def positional? : List Field → List Value → Option (List (Option Value))
  | [], [] => some []
  | [], _ :: _ => none
  | field :: fields, [] =>
    if field.2 = .defaulted then (positional? fields []).map (none :: ·) else none
  | _ :: fields, item :: items => (positional? fields items).map (some item :: ·)

/-- The fields of a record in either form. -/
def Value.fields? (fields : List Field) : Value → Option (List (Option Value))
  | .array items => positional? fields items
  | value => value.members? fields

/-- A field that may be missing or null. -/
def optional? {α : Type} (decode : Value → Option α) : Option Value → Option (Option α)
  | none => some none
  | some .null => some none
  | some value => (decode value).map some

/-- A field that takes a default when it is missing, but not when it is null. -/
def defaulted? {α : Type} (decode : Value → Option α) (default : α) : Option Value → Option α
  | none => some default
  | some value => decode value

/-- A field that has to be there. -/
def required? {α : Type} (decode : Value → Option α) (field : Option Value) : Option α :=
  field.bind decode

def Value.text? : Value → Option String
  | .string s => s
  | _ => none

def Value.bool? : Value → Option Bool
  | .bool b => some b
  | _ => none

/-- A whole number from zero to below `bound`. -/
def Value.natBelow? (bound : Nat) : Value → Option Nat
  | .integer i => if 0 ≤ i ∧ i < bound then some i.toNat else none
  | _ => none

/-- An unsigned number of 32 bits. -/
def Value.nat32? : Value → Option Nat := Value.natBelow? 0x100000000

/-- An unsigned number of 64 bits. -/
def Value.nat64? : Value → Option Nat := Value.natBelow? 0x10000000000000000

/-- A signed number of 32 bits. -/
def Value.int32? : Value → Option Int
  | .integer i => if -0x80000000 ≤ i ∧ i < 0x80000000 then some i else none
  | _ => none

def Value.list? {α : Type} (decode : Value → Option α) : Value → Option (List α)
  | .array items => items.mapM decode
  | _ => none

/-! ## Writing JSON

Values are written without blanks, and characters outside ASCII as they are. A literal that
stands for no text is written as the replacement character.
-/

def hexChar (n : Nat) : Char := Char.ofNat (if n < 10 then '0'.toNat + n else 'a'.toNat + n - 10)

/-- One character inside a string literal. -/
def escapeChar (c : Char) : List Char :=
  match c with
  | '"' => ['\\', '"']
  | '\\' => ['\\', '\\']
  | '\n' => ['\\', 'n']
  | '\r' => ['\\', 'r']
  | '\t' => ['\\', 't']
  | c =>
    if c.toNat < 0x20 then ['\\', 'u', '0', '0', hexChar (c.toNat / 16), hexChar (c.toNat % 16)]
    else [c]

def renderLiteral (s : Literal) : String :=
  "\"" ++ String.ofList ((s.getD "\uFFFD").toList.flatMap escapeChar) ++ "\""

mutual

/-- The text of a value. -/
def Value.render : Value → String
  | .null => "null"
  | .bool b => if b then "true" else "false"
  | .integer i => toString i
  | .decimal written => written
  | .string s => renderLiteral s
  | .array items => "[" ++ ",".intercalate (renderItems items) ++ "]"
  | .object members => "\x7b" ++ ",".intercalate (renderMembers members) ++ "\x7d"

def renderItems : List Value → List String
  | [] => []
  | item :: items => item.render :: renderItems items

def renderMembers : List (Literal × Value) → List String
  | [] => []
  | (key, value) :: members =>
    (renderLiteral key ++ ":" ++ value.render) :: renderMembers members

end

end AlAssistant.Json
