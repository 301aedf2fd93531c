import RestorePlugins.Entries
import RestorePlugins.Wire.Layout

namespace RestorePlugins.Wire

/-!
# Kinds of fields

* `Cell` — fields without inner messages: texts, bytes, numbers, flags, lists and maps of texts.
* `Part` — cells, and inner messages that consist of cells.
-/

/-! ### Cells -/

/-- Fields without inner messages. -/
inductive Cell where
  | text
  | bytes
  | int32
  | int64
  | flag
  | texts
  | textMap
  deriving DecidableEq, Repr

namespace Cell

/-- The values of a cell. -/
def Value : Cell → Type
  | text => String
  | bytes => Bytes
  | int32 => Int32
  | int64 => Int64
  | flag => Bool
  | texts => List String
  | textMap => Dict String

/-- The value of a cell that is not written. -/
def default : (cell : Cell) → cell.Value
  | text => ("" : String)
  | bytes => ([] : Bytes)
  | int32 => (0 : Int32)
  | int64 => (0 : Int64)
  | flag => false
  | texts => ([] : List String)
  | textMap => (∅ : Dict String)

/-! #### Writing -/

/-- Bytes as a field. -/
def writeDelimited (number : Nat) (body : Bytes) : Bytes :=
  key number .lengthDelimited ++ withLength body

/-- Bytes as a field, or nothing if there are none. -/
def writeSome (number : Nat) (body : Bytes) : Bytes :=
  if body.isEmpty then [] else writeDelimited number body

/-- A number as a field, or nothing for zero. -/
def writeNumber (number n : Nat) : Bytes :=
  if n = 0 then [] else key number .varint ++ varint n

/-- An entry of a map: the key is field one and the value field two. -/
def writeEntry (entry : String × String) : Bytes :=
  writeSome 1 (utf8 entry.1) ++ writeSome 2 (utf8 entry.2)

/-- A cell as a field, or nothing for the default value. -/
def write : (cell : Cell) → Nat → cell.Value → Bytes
  | text, number, s => writeSome number (utf8 s)
  | bytes, number, bs => writeSome number bs
  | int32, number, i => writeNumber number (Int32.toInt64 i).toUInt64.toNat
  | int64, number, i => writeNumber number (Int64.toUInt64 i).toNat
  | flag, number, b => writeNumber number (Bool.toNat b)
  | texts, number, items => List.flatMap (fun s => writeDelimited number (utf8 s)) items
  | textMap, number, d =>
    (Dict.entries d).flatMap fun entry => writeDelimited number (writeEntry entry)

/-! #### Reading -/

/-- Reads a text. -/
def readText (form : WireType) (bs : Bytes) : Except WireFault (String × Bytes) := do
  expectForm .lengthDelimited form
  let (body, rest) ← readBytes bs
  match utf8Text? body with
  | some s => .ok (s, rest)
  | none => broken .notUtf8

/-- Reads a number. -/
def readNumber (form : WireType) (bs : Bytes) : Except WireFault (Nat × Bytes) := do
  expectForm .varint form
  readVarint bs

/-- Reads one field of an entry on top of what was read. -/
def readEntryField (depth : Nat) (entry : String × String) (bs : Bytes) :
    Except WireFault ((String × String) × Bytes) := do
  let ((number, form), rest) ← readKey bs
  if number = 1 then do
    let (key, rest) ← readText form rest
    .ok ((key, entry.2), rest)
  else if number = 2 then do
    let (value, rest) ← readText form rest
    .ok ((entry.1, value), rest)
  else do
    let rest ← skipUnknown depth form number rest
    .ok (entry, rest)

/-- Reads an entry; its form is not looked at. -/
def readEntry (depth : Nat) (bs : Bytes) : Except WireFault ((String × String) × Bytes) :=
  if depth = 0 then broken .tooDeep else readDelimited (readEntryField (depth - 1)) ("", "") bs

/-- Reads a cell: the last text, bytes, number or flag stays, items of lists and entries of maps
are added. -/
def read : (cell : Cell) → Nat → WireType → cell.Value → Bytes →
    Except WireFault (cell.Value × Bytes)
  | text, _, form, _, bs => readText form bs
  | bytes, _, form, _, bs => do
    expectForm .lengthDelimited form
    readBytes bs
  | int32, _, form, _, bs => do
    let (n, rest) ← readNumber form bs
    .ok ((UInt32.ofNat n).toInt32, rest)
  | int64, _, form, _, bs => do
    let (n, rest) ← readNumber form bs
    .ok ((UInt64.ofNat n).toInt64, rest)
  | flag, _, form, _, bs => do
    let (n, rest) ← readNumber form bs
    .ok (n != 0, rest)
  | texts, _, form, items, bs => do
    let (s, rest) ← readText form bs
    .ok (List.append items [s], rest)
  | textMap, depth, _, d, bs => do
    let (entry, rest) ← readEntry depth bs
    .ok (Dict.insert entry.1 entry.2 d, rest)

end Cell

instance : FieldKinds Cell := ⟨Cell.Value, Cell.default, Cell.write, Cell.read⟩

/-! ### Parts -/

/-- Fields that may hold messages of cells. -/
inductive Part where
  | cell (cell : Cell)
  /-- A message that may be absent. -/
  | one (layout : Layout Cell)
  /-- Any number of messages. -/
  | many (layout : Layout Cell)

namespace Part

/-- The values of a part. -/
def Value : Part → Type
  | cell c => c.Value
  | one layout => Option (Row layout.fields)
  | many layout => List (Row layout.fields)

/-- The value of a part that is not written. -/
def default : (part : Part) → part.Value
  | cell c => c.default
  | one layout => (none : Option (Row layout.fields))
  | many layout => ([] : List (Row layout.fields))

/-- A part as a field, or nothing for the default value. -/
def write : (part : Part) → Nat → part.Value → Bytes
  | cell c, number, value => c.write number value
  | one _, _, none => []
  | one layout, number, some row => Cell.writeDelimited number (encodeRow layout row)
  | many layout, number, rows =>
    List.flatMap (fun row => Cell.writeDelimited number (encodeRow layout row)) rows

/-- Reads a message on top of what was read of it. -/
def readInner (layout : Layout Cell) (depth : Nat) (form : WireType) (row : Row layout.fields)
    (bs : Bytes) : Except WireFault (Row layout.fields × Bytes) := do
  expectForm .lengthDelimited form
  if depth = 0 then broken .tooDeep
  else readDelimited (readField layout (depth - 1)) row bs

/-- Reads a part: a message that occurs again is read on top of itself, or added to the list. -/
def read : (part : Part) → Nat → WireType → part.Value → Bytes →
    Except WireFault (part.Value × Bytes)
  | cell c, depth, form, value, bs => c.read depth form value bs
  | one layout, depth, form, value, bs => do
    let (row, rest) ← readInner layout depth form (Option.getD value (Row.default _)) bs
    .ok (some row, rest)
  | many layout, depth, form, rows, bs => do
    let (row, rest) ← readInner layout depth form (Row.default _) bs
    .ok (List.append rows [row], rest)

end Part

instance : FieldKinds Part := ⟨Part.Value, Part.default, Part.write, Part.read⟩

/-- A layout of cells as a layout of parts. -/
def Layout.ofCells (layout : Layout Cell) : Layout Part where
  name := layout.name
  fields := layout.fields.map fun field => ⟨field.name, field.number, .cell field.kind⟩

/-! ### Types that are messages -/

/-- A type whose values are the rows of a layout. -/
class Message (α : Type) where
  /-- The kinds of the fields. -/
  Kind : Type
  [kinds : FieldKinds Kind]
  layout : Layout Kind
  row : α → Row layout.fields
  ofRow : Row layout.fields → α
  ofRow_row : ∀ a, ofRow (row a) = a

attribute [reducible, instance] Message.kinds

/-- The bytes of a message. -/
def encode {α : Type} [Message α] (a : α) : Bytes :=
  encodeRow Message.layout (Message.row a)

/-- The message that bytes spell. -/
def decode (α : Type) [Message α] (bs : Bytes) : Except WireFault α :=
  (decodeRow (Message.layout : Layout (Message.Kind α)) bs).map Message.ofRow

end RestorePlugins.Wire
