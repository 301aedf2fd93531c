import RestorePlugins.Text.Utf8

namespace RestorePlugins.Wire

/-!
# Numbers and keys on the wire

A number is written in groups of seven bits, the low ones first; every byte but the last has its
high bit set.  A key is a field's number with the form of the value behind it.

* `varint`, `readVarint` — numbers of sixty-four bits, in at most ten bytes.
* `WireType` — the forms of values; `key`, `readKey` — keys.
* `WireFault` — the rule that a message breaks, and the fields on the way to the place.
-/

/-! ### Faults -/

/-- The forms of values. -/
inductive WireType where
  | varint
  | sixtyFourBit
  | lengthDelimited
  | startGroup
  | endGroup
  | thirtyTwoBit
  deriving DecidableEq, Repr

namespace WireType

/-- The number of a form. -/
def code : WireType → Nat
  | varint => 0
  | sixtyFourBit => 1
  | lengthDelimited => 2
  | startGroup => 3
  | endGroup => 4
  | thirtyTwoBit => 5

/-- The form with a number. -/
def ofCode? : Nat → Option WireType
  | 0 => some varint
  | 1 => some sixtyFourBit
  | 2 => some lengthDelimited
  | 3 => some startGroup
  | 4 => some endGroup
  | 5 => some thirtyTwoBit
  | _ => none

theorem ofCode?_code (w : WireType) : ofCode? w.code = some w := by cases w <;> rfl

/-- The name of a form, as faults show it. -/
def name : WireType → String
  | varint => "Varint"
  | sixtyFourBit => "SixtyFourBit"
  | lengthDelimited => "LengthDelimited"
  | startGroup => "StartGroup"
  | endGroup => "EndGroup"
  | thirtyTwoBit => "ThirtyTwoBit"

end WireType

/-- The rule that a message breaks. -/
inductive WireCause where
  | badVarint
  | badKey (key : Nat)
  | badWireType (code : Nat)
  | badNumber
  | wrongWireType (found expected : WireType)
  | underflow
  | lengthExceeded
  | tooDeep
  | strayEndGroup
  | notUtf8
  deriving DecidableEq, Repr

/-- The wording of a broken rule. -/
def WireCause.message : WireCause → String
  | badVarint => "invalid varint"
  | badKey key => "invalid key value: " ++ toString key
  | badWireType code => "invalid wire type value: " ++ toString code
  | badNumber => "invalid tag value: 0"
  | wrongWireType found expected =>
    "invalid wire type: " ++ found.name ++ " (expected " ++ expected.name ++ ")"
  | underflow => "buffer underflow"
  | lengthExceeded => "delimited length exceeded"
  | tooDeep => "recursion limit reached"
  | strayEndGroup => "unexpected end group tag"
  | notUtf8 => "invalid string value: data is not UTF-8 encoded"

/-- A broken rule, and the messages and fields around the place, the innermost first. -/
structure WireFault where
  cause : WireCause
  around : List (String × String) := []
  deriving DecidableEq, Repr

namespace WireFault

/-- The fault as seen from a field that holds the place. -/
def inside (message field : String) (fault : WireFault) : WireFault :=
  { fault with around := fault.around ++ [(message, field)] }

/-- The wording of a fault. -/
def message (fault : WireFault) : String :=
  let way := fault.around.map fun (message, field) => message ++ "." ++ field ++ ": "
  "failed to decode Protobuf message: " ++ String.join way ++ fault.cause.message

end WireFault

/-- The fault of a broken rule. -/
def broken {α : Type} (cause : WireCause) : Except WireFault α := .error { cause := cause }

/-! ### Numbers -/

/-- A number in groups of seven bits. -/
def varint (n : Nat) : Bytes :=
  if n < 128 then [UInt8.ofNat n] else UInt8.ofNat (n % 128 + 128) :: varint (n / 128)
termination_by n

/-- Reads a number after some of its bytes; the tenth byte is the last and has one bit. -/
def readVarintFrom : Nat → Bytes → Except WireFault (Nat × Bytes)
  | _, [] => broken .badVarint
  | before, b :: rest =>
    if b < 0x80 then
      if before = 9 && 2 ≤ b then broken .badVarint else .ok (b.toNat, rest)
    else if before = 9 then broken .badVarint
    else do
      let (high, rest) ← readVarintFrom (before + 1) rest
      .ok (b.toNat % 128 + 128 * high, rest)

/-- Reads a number. -/
def readVarint (bs : Bytes) : Except WireFault (Nat × Bytes) := readVarintFrom 0 bs

/-! ### Keys -/

/-- The key of a field. -/
def key (number : Nat) (form : WireType) : Bytes := varint (8 * number + form.code)

/-- Reads a key: a field's number and the form of its value. -/
def readKey (bs : Bytes) : Except WireFault ((Nat × WireType) × Bytes) := do
  let (key, rest) ← readVarint bs
  if 0xffffffff < key then broken (.badKey key)
  else match WireType.ofCode? (key % 8) with
    | none => broken (.badWireType (key % 8))
    | some form =>
      if key / 8 = 0 then broken .badNumber else .ok ((key / 8, form), rest)

/-- Refuses a form other than the expected one. -/
def expectForm (expected found : WireType) : Except WireFault Unit :=
  if found = expected then .ok () else broken (.wrongWireType found expected)

/-! ### Lengths -/

/-- Bytes behind their length. -/
def withLength (body : Bytes) : Bytes := varint body.length ++ body

/-- Reads bytes behind their length. -/
def readBytes (bs : Bytes) : Except WireFault (Bytes × Bytes) := do
  let (length, rest) ← readVarint bs
  if rest.length < length then broken .underflow
  else .ok (rest.take length, rest.drop length)

/-- Takes steps while more than `limit` bytes are unread. -/
def readWhile {α : Type} (step : α → Bytes → Except WireFault (α × Bytes)) (limit : Nat) :
    Nat → α → Bytes → Except WireFault (α × Bytes)
  | 0, value, rest => .ok (value, rest)
  | fuel + 1, value, rest =>
    if rest.length ≤ limit then .ok (value, rest)
    else do
      let (value, rest) ← step value rest
      readWhile step limit fuel value rest

/-- Takes steps through the bytes behind a length.  A step may read on behind them, which is
noticed afterwards. -/
def readDelimited {α : Type} (step : α → Bytes → Except WireFault (α × Bytes)) (value : α)
    (bs : Bytes) :
    Except WireFault (α × Bytes) := do
  let (length, rest) ← readVarint bs
  if rest.length < length then broken .underflow
  else
    let limit := rest.length - length
    let (value, rest) ← readWhile step limit rest.length value rest
    if rest.length = limit then .ok (value, rest) else broken .lengthExceeded

/-! ### Unknown fields -/

/-- Passes over bytes. -/
def skipBytes (length : Nat) (bs : Bytes) : Except WireFault Bytes :=
  if bs.length < length then broken .underflow else .ok (bs.drop length)

mutual

/-- Passes over a value of any form; `depth` bounds the groups around each other. -/
def skipField : Nat → Nat → WireType → Nat → Bytes → Except WireFault Bytes
  | 0, _, _, _, rest => .ok rest
  | fuel + 1, depth, form, number, bs =>
    if depth = 0 then broken .tooDeep
    else match form with
      | .varint => do
        let (_, rest) ← readVarint bs
        .ok rest
      | .thirtyTwoBit => skipBytes 4 bs
      | .sixtyFourBit => skipBytes 8 bs
      | .lengthDelimited => do
        let (length, rest) ← readVarint bs
        skipBytes length rest
      | .startGroup => skipGroup fuel depth number bs
      | .endGroup => broken .strayEndGroup

/-- Passes over the fields of a group up to its end. -/
def skipGroup : Nat → Nat → Nat → Bytes → Except WireFault Bytes
  | 0, _, _, rest => .ok rest
  | fuel + 1, depth, number, bs => do
    let ((inner, form), rest) ← readKey bs
    if form = .endGroup then
      if inner = number then .ok rest else broken .strayEndGroup
    else do
      let rest ← skipField fuel (depth - 1) form inner rest
      skipGroup fuel depth number rest

end

/-- Steps that are enough to pass over any value. -/
def skipFuel (bs : Bytes) : Nat := 2 * bs.length + 2

/-- Passes over the value of an unknown field. -/
def skipUnknown (depth : Nat) (form : WireType) (number : Nat) (bs : Bytes) :
    Except WireFault Bytes :=
  skipField (skipFuel bs) depth form number bs

end RestorePlugins.Wire
