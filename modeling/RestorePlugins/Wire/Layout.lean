import RestorePlugins.Wire.Varint

namespace RestorePlugins.Wire

/-!
# Messages by layout

A message is a list of numbered fields.  It is written in the order of its layout without the
fields that have their default value, and read in any order, where unknown fields are passed
over.

* `FieldKinds K` — what the kinds `K` of fields hold, and how one value is written and read.
* `Layout K`, `Row` — the fields of a message, and one value for each.
* `writeRow`, `readField`, `decodeRow` — messages to and from bytes.
-/

/-- Kinds of fields. -/
class FieldKinds (K : Type) where
  /-- The values of a kind. -/
  Value : K → Type
  /-- The value of a field that is not written. -/
  default : (kind : K) → Value kind
  /-- The field with a number, or nothing for the default value. -/
  write : (kind : K) → Nat → Value kind → Bytes
  /-- Reads one more occurrence of a field on top of what was read; the number bounds the
  messages around each other. -/
  read : (kind : K) → Nat → WireType → Value kind → Bytes →
    Except WireFault (Value kind × Bytes)

/-- A field of a message. -/
structure Field (K : Type) where
  name : String
  number : Nat
  kind : K

/-- A message's name and its fields in the order of their numbers. -/
structure Layout (K : Type) where
  name : String
  fields : List (Field K)

variable {K : Type} [FieldKinds K]

/-- One value for each field. -/
def Row : List (Field K) → Type
  | [] => Unit
  | field :: rest => FieldKinds.Value field.kind × Row rest

/-- The row of default values. -/
def Row.default : (fields : List (Field K)) → Row fields
  | [] => ()
  | field :: rest => (FieldKinds.default field.kind, Row.default rest)

/-- All fields. -/
def writeRow : (fields : List (Field K)) → Row fields → Bytes
  | [], () => []
  | field :: rest, (value, values) =>
    FieldKinds.write field.kind field.number value ++ writeRow rest values

/-- Reads the value of the field with a number into a row, or passes over it when the message
has no such field. -/
def readValue (message : String) (depth number : Nat) (form : WireType) :
    (fields : List (Field K)) → Row fields → Bytes → Except WireFault (Row fields × Bytes)
  | [], (), bs => do
    let rest ← skipUnknown depth form number bs
    .ok ((), rest)
  | field :: more, (value, values), bs =>
    if field.number = number then do
      let (value, rest) ← (FieldKinds.read field.kind depth form value bs).mapError
        (WireFault.inside message field.name)
      .ok ((value, values), rest)
    else do
      let (values, rest) ← readValue message depth number form more values bs
      .ok ((value, values), rest)

/-- Reads one field into a row. -/
def readField (layout : Layout K) (depth : Nat) (row : Row layout.fields) (bs : Bytes) :
    Except WireFault (Row layout.fields × Bytes) := do
  let ((number, form), rest) ← readKey bs
  readValue layout.name depth number form layout.fields row rest

/-- This many messages may stand around each other. -/
def depthLimit : Nat := 100

/-- The bytes of a message. -/
def encodeRow (layout : Layout K) (row : Row layout.fields) : Bytes := writeRow layout.fields row

/-- The message that bytes spell. -/
def decodeRow (layout : Layout K) (bs : Bytes) : Except WireFault (Row layout.fields) := do
  let (row, _) ← readWhile (readField layout depthLimit) 0 bs.length (Row.default _) bs
  .ok row

end RestorePlugins.Wire
