import RestorePlugins.Json.Parser

namespace RestorePlugins.Json

/-!
# Passing over values

A reader of records passes over the values of fields it does not know.  They have to be JSON,
but their texts need no well-formed characters, their numbers have no range and their nesting
has no limit.

* `skipValue` — the unread bytes after one value.
-/

/-- Passes over an escape, after its backslash. -/
def skipEscape : Bytes → Except Fault Bytes
  | [] => .error (faultAt .endInString [])
  | 0x75 :: rest => do
    let (_, rest) ← readFourHex rest
    .ok rest
  | b :: rest =>
    match shortEscape? b with
    | some _ => .ok rest
    | none => .error (faultAt .badEscape rest)

/-- Passes over a text, after its opening quote. -/
def skipText : Nat → Bytes → Except Fault Bytes
  | 0, rest => .error (faultAt .endInString rest)
  | _ + 1, [] => .error (faultAt .endInString [])
  | fuel + 1, b :: rest =>
    if b = 0x22 then .ok rest
    else if b = 0x5c then do
      let rest ← skipEscape rest
      skipText fuel rest
    else if b < 0x20 then .error (faultAt .controlCharacter (b :: rest))
    else skipText fuel rest

/-- Passes over an exponent, after its mark. -/
def skipExponent (bs : Bytes) : Except Fault Bytes :=
  let bs := match bs with
    | 0x2b :: rest => rest
    | 0x2d :: rest => rest
    | _ => bs
  match bs with
  | [] => .error (faultAt .badNumber [])
  | b :: rest =>
    if isDigit b then .ok (rest.dropWhile isDigit) else .error (faultAt .badNumber rest)

/-- Passes over a fraction, after its point. -/
def skipFraction (bs : Bytes) : Except Fault Bytes :=
  let rest := bs.dropWhile isDigit
  if !startsWithDigit bs then .error (faultAtNext .badNumber bs)
  else if startsExponent rest then skipExponent (rest.drop 1)
  else .ok rest

/-- Passes over a number, after its sign. -/
def skipNumber : Bytes → Except Fault Bytes
  | [] => .error (faultAt .badNumber [])
  | b :: rest =>
    if b = 0x30 ∧ startsWithDigit rest then .error (faultAtNext .badNumber rest)
    else if !isDigit b then .error (faultAt .badNumber rest)
    else
      let rest := rest.dropWhile isDigit
      match rest with
      | 0x2e :: tail => skipFraction tail
      | _ => if startsExponent rest then skipExponent (rest.drop 1) else .ok rest

mutual

/-- Passes over one value. -/
def skipValue : Nat → Bytes → Except Fault Bytes
  | 0, rest => .error (faultAt .endInValue rest)
  | fuel + 1, bs =>
    match skipBlanks bs with
    | [] => .error (faultAt .endInValue [])
    | b :: rest =>
      if b = 0x6e then readWord (utf8 "ull") rest
      else if b = 0x74 then readWord (utf8 "rue") rest
      else if b = 0x66 then readWord (utf8 "alse") rest
      else if b = 0x2d then skipNumber rest
      else if isDigit b then skipNumber (b :: rest)
      else if b = 0x22 then skipText (rest.length + 1) rest
      else if b = 0x5b then skipItems fuel rest
      else if b = 0x7b then skipFields fuel rest
      else .error (faultAtNext .noValue (b :: rest))

/-- Passes over the items of an array, after its bracket. -/
def skipItems : Nat → Bytes → Except Fault Bytes
  | 0, rest => .error (faultAt .endInList rest)
  | fuel + 1, bs =>
    match skipBlanks bs with
    | [] => .error (faultAt .endInList [])
    | 0x5d :: rest => .ok rest
    | rest => do
      let rest ← skipValue fuel rest
      skipMoreItems fuel rest

/-- Passes over further items. -/
def skipMoreItems : Nat → Bytes → Except Fault Bytes
  | 0, rest => .error (faultAt .endInList rest)
  | fuel + 1, bs =>
    match skipBlanks bs with
    | [] => .error (faultAt .endInList [])
    | 0x5d :: rest => .ok rest
    | 0x2c :: rest => do
      let rest ← skipValue fuel rest
      skipMoreItems fuel rest
    | _ :: rest => .error (faultAt .noListEnd rest)

/-- Passes over the fields of an object, after its brace. -/
def skipFields : Nat → Bytes → Except Fault Bytes
  | 0, rest => .error (faultAt .endInObject rest)
  | fuel + 1, bs =>
    match skipBlanks bs with
    | [] => .error (faultAt .endInObject [])
    | 0x7d :: rest => .ok rest
    | rest => do
      let rest ← skipField fuel rest
      skipMoreFields fuel rest

/-- Passes over further fields. -/
def skipMoreFields : Nat → Bytes → Except Fault Bytes
  | 0, rest => .error (faultAt .endInObject rest)
  | fuel + 1, bs =>
    match skipBlanks bs with
    | [] => .error (faultAt .endInObject [])
    | 0x7d :: rest => .ok rest
    | 0x2c :: rest => do
      let rest ← skipField fuel rest
      skipMoreFields fuel rest
    | _ :: rest => .error (faultAt .noObjectEnd rest)

/-- Passes over one field. -/
def skipField : Nat → Bytes → Except Fault Bytes
  | 0, rest => .error (faultAt .endInObject rest)
  | fuel + 1, bs =>
    match skipBlanks bs with
    | [] => .error (faultAt .endInObject [])
    | 0x22 :: rest => do
      let rest ← skipText (rest.length + 1) rest
      let rest ← readColon rest
      skipValue fuel rest
    | _ :: rest => .error (faultAt .keyNotString rest)

end

end RestorePlugins.Json
