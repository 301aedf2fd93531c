import RestorePlugins.Json.Fault

namespace RestorePlugins.Json

/-!
# Reading the tokens of a JSON text

Each reader takes the unread bytes and gives back a value with the bytes after it, or a fault.

* `skipBlanks` — drops blanks, tabs and line ends.
* `readWord` — the rest of `null`, `true` or `false`.
* `readEscaped`, `readText` — a text after its opening quote, as bytes and as a `String`.
* `readNumber` — a number.  Up to sixty-four bits of digits count exactly, further digits only
  by their place, and the power of ten is applied by one rounded operation for each 308 places.
-/

/-- Blank, tab, line feed and carriage return. -/
def isBlank (b : UInt8) : Bool := b == 0x20 || b == 0x09 || b == 0x0a || b == 0x0d

/-- Drops blanks. -/
def skipBlanks (bs : Bytes) : Bytes := bs.dropWhile isBlank

/-- Reads the given bytes, each of which has to be there. -/
def readWord : Bytes → Bytes → Except Fault Bytes
  | [], rest => .ok rest
  | _ :: _, [] => .error (faultAt .endInValue [])
  | w :: word, b :: rest =>
    if b = w then readWord word rest else .error (faultAt .noIdent rest)

/-! ### Texts -/

/-- The value of a hexadecimal digit byte. -/
def hexByteValue? (b : UInt8) : Option Nat := hexValue? (Char.ofNat b.toNat)

/-- The number that four digit bytes spell. -/
def fourHex? (a b c d : UInt8) : Option Nat := do
  let a ← hexByteValue? a
  let b ← hexByteValue? b
  let c ← hexByteValue? c
  let d ← hexByteValue? d
  return ((a * 16 + b) * 16 + c) * 16 + d

/-- Reads four hexadecimal digits. -/
def readFourHex : Bytes → Except Fault (Nat × Bytes)
  | a :: b :: c :: d :: rest =>
    match fourHex? a b c d with
    | some n => .ok (n, rest)
    | none => .error (faultAt .badEscape rest)
  | _ => .error (faultAt .endInString [])

/-- The byte that a one-letter escape stands for. -/
def shortEscape? (b : UInt8) : Option UInt8 :=
  if b = 0x22 then some 0x22
  else if b = 0x5c then some 0x5c
  else if b = 0x2f then some 0x2f
  else if b = 0x62 then some 0x08
  else if b = 0x66 then some 0x0c
  else if b = 0x6e then some 0x0a
  else if b = 0x72 then some 0x0d
  else if b = 0x74 then some 0x09
  else none

/-- Whether a code unit is the second of a pair. -/
def isLowSurrogate (n : Nat) : Bool := 0xdc00 ≤ n && n ≤ 0xdfff

/-- Whether a code unit is the first of a pair. -/
def isHighSurrogate (n : Nat) : Bool := 0xd800 ≤ n && n ≤ 0xdbff

/-- The bytes of a code point. -/
def codePointBytes (n : Nat) : Bytes := String.utf8EncodeChar (Char.ofNat n)

/-- The second half of a pair, after the first half. -/
def readLowSurrogate (high : Nat) : Bytes → Except Fault (Bytes × Bytes)
  | [] => .error (faultAt .endInString [])
  | 0x5c :: [] => .error (faultAt .endInString [])
  | 0x5c :: 0x75 :: rest => do
    let (low, rest) ← readFourHex rest
    if isLowSurrogate low then
      .ok (codePointBytes (0x10000 + (high - 0xd800) * 0x400 + (low - 0xdc00)), rest)
    else .error (faultAt .loneSurrogate rest)
  | 0x5c :: _ :: rest => .error (faultAt .openSurrogate rest)
  | _ :: rest => .error (faultAt .openSurrogate rest)

/-- An escape by code units, after its letter. -/
def readUnicodeEscape (bs : Bytes) : Except Fault (Bytes × Bytes) := do
  let (unit, rest) ← readFourHex bs
  if isLowSurrogate unit then .error (faultAt .loneSurrogate rest)
  else if isHighSurrogate unit then readLowSurrogate unit rest
  else .ok (codePointBytes unit, rest)

/-- An escape, after its backslash. -/
def readEscape : Bytes → Except Fault (Bytes × Bytes)
  | [] => .error (faultAt .endInString [])
  | 0x75 :: rest => readUnicodeEscape rest
  | b :: rest =>
    match shortEscape? b with
    | some e => .ok ([e], rest)
    | none => .error (faultAt .badEscape rest)

/-- The bytes of a text, after its opening quote.  `fuel` bounds the count of escapes and plain
bytes; the count of unread bytes is always enough. -/
def readEscapedWith : Nat → Bytes → Except Fault (Bytes × Bytes)
  | 0, rest => .error (faultAt .endInString rest)
  | _ + 1, [] => .error (faultAt .endInString [])
  | fuel + 1, b :: rest =>
    if b = 0x22 then .ok ([], rest)
    else if b = 0x5c then do
      let (bytes, rest) ← readEscape rest
      let (tail, rest) ← readEscapedWith fuel rest
      .ok (bytes ++ tail, rest)
    else if b < 0x20 then .error (faultAt .controlCharacter rest)
    else do
      let (tail, rest) ← readEscapedWith fuel rest
      .ok (b :: tail, rest)

/-- The bytes of a text, after its opening quote. -/
def readEscaped (bs : Bytes) : Except Fault (Bytes × Bytes) := readEscapedWith (bs.length + 1) bs

/-- A text, after its opening quote; its bytes have to be well-formed.  Escapes are of ASCII, so
the first byte that is not stands at the same place in the text as it is written. -/
def readText (bs : Bytes) : Except Fault (String × Bytes) := do
  let (bytes, rest) ← readEscaped bs
  match utf8Text? bytes with
  | some s => .ok (s, rest)
  | none => .error (faultAt .badCodePoint ((illFormedPart bs).drop 1))

/-! ### Numbers -/

/-- A number as it is read: exact if it is an integer of at most sixty-four bits. -/
inductive Number where
  | int (value : Int)
  | float (value : Binary64)
  deriving DecidableEq, Repr

/-- The largest count of sixty-four bits. -/
def maxSignificand : Nat := 0xffffffffffffffff

/-- Whether the next byte is a digit. -/
def startsWithDigit : Bytes → Bool
  | b :: _ => isDigit b
  | [] => false

/-- Appends digits to a significand for as long as it stays within sixty-four bits; gives the
significand, the count of digits taken and the unread bytes. -/
def takeDigits (significand taken : Nat) : Bytes → Nat × Nat × Bytes
  | [] => (significand, taken, [])
  | b :: rest =>
    if isDigit b && significand * 10 + digitValue b ≤ maxSignificand then
      takeDigits (significand * 10 + digitValue b) (taken + 1) rest
    else (significand, taken, b :: rest)

/-- Divides by `10 ^ 308` until the power of ten lies within the table. -/
def lowerPower (x : Binary64) (power : Int) : Binary64 :=
  if power < -308 then
    if x.isZero then x else lowerPower (x.div (Binary64.powerOfTen 308)) (power + 308)
  else x.div (Binary64.powerOfTen power.natAbs)
termination_by (-power).toNat

/-- `significand · 10 ^ power` as a number of the given sign, if it is finite. -/
def assemble? (positive : Bool) (significand : Nat) (power : Int) : Option Binary64 :=
  let x := Binary64.ofNat significand
  let signed (x : Binary64) := if positive then x else x.neg
  if power < 0 then some (signed (lowerPower x power))
  else if power ≤ 308 then
    let y := x.mul (Binary64.powerOfTen power.toNat)
    if y.isInfinite then none else some (signed y)
  else if x.isZero then some (signed x)
  else none

/-- The number that its parts make, before the unread bytes. -/
def finish (positive : Bool) (significand : Nat) (power : Int) (rest : Bytes) :
    Except Fault (Number × Bytes) :=
  match assemble? positive significand power with
  | some x => .ok (.float x, rest)
  | none => .error (faultAt .numberOutOfRange rest)

/-- The largest exponent that is told apart from still larger ones. -/
def maxPower : Nat := 0x7fffffff

/-- The digits of an exponent as a number, or the bytes after the digit at which it exceeds
`maxPower`. -/
def readPower (power : Nat) : Bytes → Except Bytes (Nat × Bytes)
  | [] => .ok (power, [])
  | b :: rest =>
    if isDigit b then
      if power * 10 + digitValue b ≤ maxPower then readPower (power * 10 + digitValue b) rest
      else .error rest
    else .ok (power, b :: rest)

/-- Whether the next byte marks an exponent. -/
def startsExponent : Bytes → Bool
  | b :: _ => b == 0x65 || b == 0x45
  | [] => false

/-- An exponent, after its mark. -/
def readExponent (positive : Bool) (significand : Nat) (start : Int) (bs : Bytes) :
    Except Fault (Number × Bytes) :=
  let (up, bs) := match bs with
    | 0x2b :: rest => (true, rest)
    | 0x2d :: rest => (false, rest)
    | _ => (true, bs)
  match bs with
  | [] => .error (faultAt .endInValue [])
  | b :: rest =>
    if !isDigit b then .error (faultAt .badNumber rest)
    else match readPower (digitValue b) rest with
      | .ok (power, rest) =>
        finish positive significand (if up then start + power else start - power) rest
      | .error rest =>
        if significand ≠ 0 ∧ up then .error (faultAt .numberOutOfRange rest)
        else finish positive 0 0 (rest.dropWhile isDigit)

/-- A fraction, after its point. -/
def readFraction (positive : Bool) (significand : Nat) (start : Int) (bs : Bytes) :
    Except Fault (Number × Bytes) :=
  let (significand', taken, rest) := takeDigits significand 0 bs
  let power := start - taken
  let full := startsWithDigit rest
  let rest := rest.dropWhile isDigit
  if taken = 0 ∧ !full then
    .error (faultAtNext (if rest.isEmpty then .endInValue else .badNumber) rest)
  else if startsExponent rest then readExponent positive significand' power (rest.drop 1)
  else finish positive significand' power rest

/-- What follows the whole part: a fraction, an exponent, or nothing. -/
def readTail (positive : Bool) (significand : Nat) (power : Nat) (rest : Bytes) :
    Except Fault (Number × Bytes) :=
  match rest with
  | 0x2e :: tail => readFraction positive significand power tail
  | _ =>
    if startsExponent rest then readExponent positive significand power (rest.drop 1)
    else if power ≠ 0 then finish positive significand power rest
    else if positive then .ok (.int significand, rest)
    else if significand = 0 ∨ 0x8000000000000000 < significand then finish false significand 0 rest
    else .ok (.int (-significand), rest)

/-- A number, after its sign. -/
def readNumber (positive : Bool) : Bytes → Except Fault (Number × Bytes)
  | [] => .error (faultAt .endInValue [])
  | b :: rest =>
    if b = 0x30 then
      if startsWithDigit rest then .error (faultAtNext .badNumber rest)
      else readTail positive 0 0 rest
    else if isDigit b then
      let (significand, _, rest) := takeDigits (digitValue b) 1 rest
      let further := rest.takeWhile isDigit
      readTail positive significand further.length (rest.dropWhile isDigit)
    else .error (faultAt .badNumber rest)

end RestorePlugins.Json
