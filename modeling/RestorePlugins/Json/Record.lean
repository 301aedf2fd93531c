import RestorePlugins.Json.Printer
import RestorePlugins.Json.Skip

namespace RestorePlugins.Json

/-!
# Records as JSON texts

A record is written as an object with its fields in declared order.  It is read from an object
with its fields in any order, each at most once, where unknown fields are passed over and an
optional integer may be left out; or from an array of its fields in declared order.

* `FieldKind`, `Layout`, `Row` — the kinds of fields, a record's fields, and their values.
* `Layout.write`, `Layout.read` — one record to and from text.
* `Record α` — a type that is a row of some layout; `encode` and `decode` are its texts.
-/

/-! ### Fields and rows -/

/-- The kinds of fields that records have. -/
inductive FieldKind where
  | text
  | integer
  | texts
  | textMap
  | choice (names : List String)
  deriving DecidableEq

/-- The values of a kind.  An integer is signed, has sixty-four bits and may be absent. -/
def FieldKind.Value : FieldKind → Type
  | .text => String
  | .integer => Option Int64
  | .texts => List String
  | .textMap => Dict String
  | .choice names => { name : String // name ∈ names }

/-- A record's name, as messages show it, and its fields in declared order. -/
structure Layout where
  name : String
  fields : List (String × FieldKind)

/-- One value for each field. -/
def Row : List (String × FieldKind) → Type
  | [] => Unit
  | field :: rest => field.2.Value × Row rest

/-- The values that have been read so far. -/
def Slots : List (String × FieldKind) → Type
  | [] => Unit
  | field :: rest => Option field.2.Value × Slots rest

/-- No value has been read. -/
def Slots.empty : (fields : List (String × FieldKind)) → Slots fields
  | [] => ()
  | _ :: rest => (none, Slots.empty rest)

/-! ### Writing -/

/-- Texts with commas between them. -/
def commaList : List Bytes → Bytes
  | [] => []
  | [item] => item
  | item :: rest => item ++ 0x2c :: commaList rest

/-- The text of a value. -/
def FieldKind.write : (kind : FieldKind) → kind.Value → Bytes
  | .text, s => quote s
  | .integer, none => utf8 "null"
  | .integer, some i => decimalInt i.toInt
  | .texts, items => 0x5b :: (commaList (items.map quote) ++ [0x5d])
  | .textMap, d =>
    0x7b :: (commaList (d.entries.map fun e => quote e.1 ++ 0x3a :: quote e.2) ++ [0x7d])
  | .choice _, name => quote name.1

/-- The texts of all fields, each after its key. -/
def writeRow : (fields : List (String × FieldKind)) → Row fields → List Bytes
  | [], () => []
  | field :: rest, (value, values) =>
    (quote field.1 ++ 0x3a :: field.2.write value) :: writeRow rest values

/-- The text of a record. -/
def Layout.write (layout : Layout) (row : Row layout.fields) : Bytes :=
  0x7b :: (commaList (writeRow layout.fields row) ++ [0x7d])

/-! ### Reading single values -/

/-- The fault that another kind of value stands where `expected` was. -/
def wrongTypeFault (expected : String) : Bytes → Fault
  | [] => faultAtNext .noValue []
  | b :: rest =>
    let word (tail : Bytes) (found : Found) : Fault :=
      match readWord tail rest with
      | .ok rest => faultAt (.wrongType found expected) rest
      | .error fault => fault
    let number (positive : Bool) (bs : Bytes) : Fault :=
      match readNumber positive bs with
      | .ok (.int i, rest) => faultAt (.wrongType (.int i) expected) rest
      | .ok (.float x, rest) => faultAt (.wrongType (.float x) expected) rest
      | .error fault => fault
    if b = 0x6e then word (utf8 "ull") .null
    else if b = 0x74 then word (utf8 "rue") (.bool true)
    else if b = 0x66 then word (utf8 "alse") (.bool false)
    else if b = 0x2d then number false rest
    else if isDigit b then number true (b :: rest)
    else if b = 0x22 then
      match readText rest with
      | .ok (s, rest) => faultAt (.wrongType (.str s) expected) rest
      | .error fault => fault
    else if b = 0x5b then faultAt (.wrongType .sequence expected) (b :: rest)
    else if b = 0x7b then faultAt (.wrongType .map expected) (b :: rest)
    else faultAtNext .noValue (b :: rest)

/-- A text value. -/
def readTextValue (expected : String) (bs : Bytes) : Except Fault (String × Bytes) :=
  match skipBlanks bs with
  | [] => .error (faultAt .endInValue [])
  | 0x22 :: rest => readText rest
  | rest => .error (wrongTypeFault expected rest)

/-- Whether an integer has sixty-four signed bits. -/
def isInt64 (i : Int) : Bool := -0x8000000000000000 ≤ i && i < 0x8000000000000000

/-- A number that has to be a signed integer of sixty-four bits, after its sign. -/
def readInt64 (positive : Bool) (bs : Bytes) : Except Fault (Int64 × Bytes) := do
  match ← readNumber positive bs with
  | (.int i, rest) =>
    if isInt64 i then .ok (Int64.ofInt i, rest)
    else .error (faultAt (.wrongValue (.int i) "i64") rest)
  | (.float x, rest) => .error (faultAt (.wrongType (.float x) "i64") rest)

/-- An integer or null. -/
def readOptionalInt (bs : Bytes) : Except Fault (Option Int64 × Bytes) :=
  match skipBlanks bs with
  | [] => .error (faultAt .endInValue [])
  | b :: rest =>
    if b = 0x6e then do
      let rest ← readWord (utf8 "ull") rest
      .ok (none, rest)
    else if b = 0x2d then do
      let (i, rest) ← readInt64 false rest
      .ok (some i, rest)
    else if isDigit b then do
      let (i, rest) ← readInt64 true (b :: rest)
      .ok (some i, rest)
    else .error (wrongTypeFault "i64" (b :: rest))

/-- Whether an item follows, in an array that has had items or not: the bytes of the item, or
the bytes from the bracket on. -/
def nextItem (first : Bool) (bs : Bytes) : Except Fault (Bool × Bytes) :=
  match skipBlanks bs with
  | [] => .error (faultAt .endInList [])
  | 0x5d :: rest => .ok (false, 0x5d :: rest)
  | b :: rest =>
    if first then .ok (true, b :: rest)
    else if b = 0x2c then
      match skipBlanks rest with
      | [] => .error (faultAt .endInValue [])
      | 0x5d :: rest => .error (faultAt .trailingComma rest)
      | rest => .ok (true, rest)
    else .error (faultAt .noListEnd rest)

/-- Whether a key follows, in an object that has had fields or not: the bytes after the key's
opening quote, or the bytes from the brace on. -/
def nextKey (first : Bool) (bs : Bytes) : Except Fault (Bool × Bytes) :=
  match skipBlanks bs with
  | [] => .error (faultAt .endInObject [])
  | 0x7d :: rest => .ok (false, 0x7d :: rest)
  | b :: rest =>
    if first then
      if b = 0x22 then .ok (true, rest) else .error (faultAt .keyNotString rest)
    else if b = 0x2c then
      match skipBlanks rest with
      | [] => .error (faultAt .endInValue [])
      | 0x22 :: rest => .ok (true, rest)
      | 0x7d :: rest => .error (faultAt .trailingComma rest)
      | _ :: rest => .error (faultAt .keyNotString rest)
    else .error (faultAt .noObjectEnd rest)

/-- The texts of an array, after its bracket. -/
def readTexts : Nat → Bool → Bytes → Except Fault (List String × Bytes)
  | 0, _, rest => .error (faultAt .endInList rest)
  | fuel + 1, first, bs => do
    match ← nextItem first bs with
    | (false, rest) => .ok ([], rest.drop 1)
    | (true, rest) =>
      let (item, rest) ← readTextValue "a string" rest
      let (items, rest) ← readTexts fuel false rest
      .ok (item :: items, rest)

/-- The fields of an object of texts, after its brace. -/
def readTextMap : Nat → Bool → Dict String → Bytes → Except Fault (Dict String × Bytes)
  | 0, _, _, rest => .error (faultAt .endInObject rest)
  | fuel + 1, first, d, bs => do
    match ← nextKey first bs with
    | (false, rest) => .ok (d, rest.drop 1)
    | (true, rest) =>
      let (key, rest) ← readText rest
      let rest ← readColon rest
      let (value, rest) ← readTextValue "a string" rest
      readTextMap fuel false (d.insert key value) rest

/-- The name of one of several variants. -/
def readVariant (names : List String) (bs : Bytes) :
    Except Fault ({ name : String // name ∈ names } × Bytes) := do
  let (name, rest) ← readTextValue "variant identifier" bs
  if h : name ∈ names then .ok (⟨name, h⟩, rest)
  else .error (faultAt (.unknownVariant name names) rest)

/-- A null. -/
def readUnit (bs : Bytes) : Except Fault Bytes :=
  match skipBlanks bs with
  | [] => .error (faultAt .endInValue [])
  | 0x6e :: rest => readWord (utf8 "ull") rest
  | rest => .error (wrongTypeFault "unit" rest)

/-- One of several variants: its name, or an object that maps its name to null. -/
def readChoice (names : List String) (bs : Bytes) :
    Except Fault ({ name : String // name ∈ names } × Bytes) :=
  match skipBlanks bs with
  | [] => .error (faultAt .endInValue [])
  | 0x22 :: rest => readVariant names (0x22 :: rest)
  | 0x7b :: rest => do
    let (name, rest) ← readVariant names rest
    let rest ← readColon rest
    let rest ← readUnit rest
    match skipBlanks rest with
    | 0x7d :: rest => .ok (name, rest)
    | [] => .error (faultAt .endInObject [])
    | rest => .error (faultAt .noValue rest)
  | rest => .error (faultAtNext .noValue rest)

/-- A value of a kind. -/
def FieldKind.read : (kind : FieldKind) → Bytes → Except Fault (kind.Value × Bytes)
  | .text, bs => readTextValue "a string" bs
  | .integer, bs => readOptionalInt bs
  | .texts, bs =>
    match skipBlanks bs with
    | [] => .error (faultAt .endInValue [])
    | 0x5b :: rest => readTexts (rest.length + 1) true rest
    | rest => .error (wrongTypeFault "a sequence" rest)
  | .textMap, bs =>
    match skipBlanks bs with
    | [] => .error (faultAt .endInValue [])
    | 0x7b :: rest => readTextMap (rest.length + 1) true ∅ rest
    | rest => .error (wrongTypeFault "a map" rest)
  | .choice names, bs => readChoice names bs

/-! ### Reading records -/

/-- How a record with too few items is described. -/
def Layout.arity (layout : Layout) : String :=
  let count := layout.fields.length
  "struct " ++ layout.name ++ " with " ++ toString count
    ++ (if count = 1 then " element" else " elements")

/-- The fields from an array, after its bracket; `done` of them have been read. -/
def readRowItems (arity : String) : (fields : List (String × FieldKind)) → Nat → Bytes →
    Except Fault (Row fields × Bytes)
  | [], _, bs =>
    match skipBlanks bs with
    | 0x5d :: rest => .ok ((), rest)
    | 0x2c :: rest =>
      match skipBlanks rest with
      | 0x5d :: rest => .error (faultAt .trailingComma rest)
      | rest => .error (faultAtNext .trailingCharacters rest)
    | [] => .error (faultAt .endInList [])
    | _ :: rest => .error (faultAt .trailingCharacters rest)
  | field :: more, done, bs => do
    match ← nextItem (done == 0) bs with
    | (false, rest) => .error (faultAt (.wrongLength done arity) (rest.drop 1))
    | (true, rest) =>
      let (value, rest) ← field.2.read rest
      let (values, rest) ← readRowItems arity more (done + 1) rest
      .ok ((value, values), rest)

/-- The bytes before which a fault after a key shows: past blanks and a closing brace. -/
def pastBrace (bs : Bytes) : Bytes :=
  match skipBlanks bs with
  | 0x7d :: rest => rest
  | rest => rest

/-- Reads the value of a key into its slot, or passes over it when no field has the key. -/
def readField (key : String) : (fields : List (String × FieldKind)) → Slots fields → Bytes →
    Except Fault (Slots fields × Bytes)
  | [], (), bs => do
    let rest ← readColon bs
    let rest ← skipValue (enoughFuel rest) rest
    .ok ((), rest)
  | field :: more, (slot, slots), bs =>
    if field.1 = key then
      if slot.isSome then .error (faultAt (.duplicateField key) (pastBrace bs))
      else do
        let rest ← readColon bs
        let (value, rest) ← field.2.read rest
        .ok ((some value, slots), rest)
    else do
      let (slots, rest) ← readField key more slots bs
      .ok ((slot, slots), rest)

/-- What an absent field means: only an integer may be absent. -/
def FieldKind.absent? : (kind : FieldKind) → Option kind.Value
  | .integer => some none
  | _ => none

/-- The row of the slots, or the first field that is missing. -/
def fillRow : (fields : List (String × FieldKind)) → Slots fields → Except String (Row fields)
  | [], () => .ok ()
  | field :: more, (slot, slots) =>
    match slot.or field.2.absent? with
    | none => .error field.1
    | some value => do
      let values ← fillRow more slots
      .ok (value, values)

/-- The fields from an object, after its brace. -/
def readRowFields (fields : List (String × FieldKind)) : Nat → Bool → Slots fields → Bytes →
    Except Fault (Row fields × Bytes)
  | 0, _, _, rest => .error (faultAt .endInObject rest)
  | fuel + 1, first, slots, bs => do
    match ← nextKey first bs with
    | (false, rest) =>
      match fillRow fields slots with
      | .ok row => .ok (row, rest.drop 1)
      | .error name => .error (faultAt (.missingField name) (rest.drop 1))
    | (true, rest) =>
      let (key, rest) ← readText rest
      let (slots, rest) ← readField key fields slots rest
      readRowFields fields fuel false slots rest

/-- One record. -/
def Layout.read (layout : Layout) (bs : Bytes) : Except Fault (Row layout.fields × Bytes) :=
  match skipBlanks bs with
  | [] => .error (faultAt .endInValue [])
  | 0x5b :: rest => readRowItems layout.arity layout.fields 0 rest
  | 0x7b :: rest =>
    readRowFields layout.fields (rest.length + 1) true (Slots.empty layout.fields) rest
  | rest => .error (wrongTypeFault ("struct " ++ layout.name) rest)

/-! ### Types that are records -/

/-- A type whose values are the rows of a layout. -/
class Record (α : Type) where
  layout : Layout
  row : α → Row layout.fields
  ofRow : Row layout.fields → α
  ofRow_row : ∀ a, ofRow (row a) = a

/-- The text of a record. -/
def encode {α : Type} [Record α] (a : α) : Bytes :=
  (Record.layout α).write (Record.row a)

/-- The record that a whole text spells. -/
def decode (α : Type) [Record α] (text : Bytes) : Except Error α :=
  (readAll (Record.layout α).read text).map Record.ofRow

end RestorePlugins.Json
