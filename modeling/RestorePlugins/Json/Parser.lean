import RestorePlugins.Json.Basic
import RestorePlugins.Json.Scan

namespace RestorePlugins.Json

/-!
# Reading documents

* `readValue` — one value from the front of the unread bytes, with at most `depth - 1` arrays
  and objects around each other.
* `parse text` — the document that the whole text spells, or the first error in reading order.

Of two fields with one key the later stays.
-/

/-- One less than this many arrays and objects may stand around each other. -/
def maxDepth : Nat := 128

/-- A number as a document. -/
def Number.toJson : Number → Json
  | .int i => .int i
  | .float x => .float x

/-- What follows the first letter of `null`, `true` or `false`. -/
def readLiteral (word : Bytes) (value : Json) (rest : Bytes) : Except Fault (Json × Bytes) := do
  let rest ← readWord word rest
  .ok (value, rest)

/-- The colon after a key. -/
def readColon (bs : Bytes) : Except Fault Bytes :=
  match skipBlanks bs with
  | 0x3a :: rest => .ok rest
  | [] => .error (faultAt .endInObject [])
  | rest => .error (faultAtNext .noColon rest)

/-- A number as a document, after its sign. -/
def readNumberValue (positive : Bool) (bs : Bytes) : Except Fault (Json × Bytes) := do
  let (number, rest) ← readNumber positive bs
  .ok (number.toJson, rest)

mutual

/-- One value.  `fuel` bounds the count of steps; twice the count of unread bytes and two more
are always enough. -/
def readValue : Nat → Nat → Bytes → Except Fault (Json × Bytes)
  | 0, _, rest => .error (faultAt .endInValue rest)
  | fuel + 1, depth, bs =>
    match skipBlanks bs with
    | [] => .error (faultAt .endInValue [])
    | b :: rest =>
      if b = 0x6e then readLiteral (utf8 "ull") .null rest
      else if b = 0x74 then readLiteral (utf8 "rue") (.bool true) rest
      else if b = 0x66 then readLiteral (utf8 "alse") (.bool false) rest
      else if b = 0x2d then readNumberValue false rest
      else if isDigit b then readNumberValue true (b :: rest)
      else if b = 0x22 then do
        let (s, rest) ← readText rest
        .ok (.str s, rest)
      else if b = 0x5b then
        if depth ≤ 1 then .error (faultAtNext .tooDeep (b :: rest))
        else do
          let (items, rest) ← readItems fuel (depth - 1) rest
          .ok (.arr items, rest)
      else if b = 0x7b then
        if depth ≤ 1 then .error (faultAtNext .tooDeep (b :: rest))
        else do
          let (fields, rest) ← readFields fuel (depth - 1) rest
          .ok (.obj fields, rest)
      else .error (faultAtNext .noValue (b :: rest))

/-- The items of an array up to its bracket, after the opening one. -/
def readItems : Nat → Nat → Bytes → Except Fault (List Json × Bytes)
  | 0, _, rest => .error (faultAt .endInList rest)
  | fuel + 1, depth, bs =>
    match skipBlanks bs with
    | [] => .error (faultAt .endInList [])
    | 0x5d :: rest => .ok ([], rest)
    | rest => do
      let (item, rest) ← readValue fuel depth rest
      let (items, rest) ← readMoreItems fuel depth rest
      .ok (item :: items, rest)

/-- Further items up to the bracket. -/
def readMoreItems : Nat → Nat → Bytes → Except Fault (List Json × Bytes)
  | 0, _, rest => .error (faultAt .endInList rest)
  | fuel + 1, depth, bs =>
    match skipBlanks bs with
    | [] => .error (faultAt .endInList [])
    | 0x5d :: rest => .ok ([], rest)
    | 0x2c :: rest =>
      match skipBlanks rest with
      | [] => .error (faultAt .endInValue [])
      | 0x5d :: rest => .error (faultAt .trailingComma rest)
      | rest => do
        let (item, rest) ← readValue fuel depth rest
        let (items, rest) ← readMoreItems fuel depth rest
        .ok (item :: items, rest)
    | _ :: rest => .error (faultAt .noListEnd rest)

/-- The fields of an object up to its brace, after the opening one. -/
def readFields : Nat → Nat → Bytes → Except Fault (List (String × Json) × Bytes)
  | 0, _, rest => .error (faultAt .endInObject rest)
  | fuel + 1, depth, bs =>
    match skipBlanks bs with
    | [] => .error (faultAt .endInObject [])
    | 0x7d :: rest => .ok ([], rest)
    | 0x22 :: rest => do
      let (key, rest) ← readText rest
      let rest ← readColon rest
      let (value, rest) ← readValue fuel depth rest
      readMoreFields fuel depth (Entries.insert key value []) rest
    | _ :: rest => .error (faultAt .keyNotString rest)

/-- Further fields up to the brace, put in with those before them. -/
def readMoreFields : Nat → Nat → List (String × Json) → Bytes →
    Except Fault (List (String × Json) × Bytes)
  | 0, _, _, rest => .error (faultAt .endInObject rest)
  | fuel + 1, depth, fields, bs =>
    match skipBlanks bs with
    | [] => .error (faultAt .endInObject [])
    | 0x7d :: rest => .ok (fields, rest)
    | 0x2c :: rest =>
      match skipBlanks rest with
      | [] => .error (faultAt .endInValue [])
      | 0x22 :: rest => do
        let (key, rest) ← readText rest
        let rest ← readColon rest
        let (value, rest) ← readValue fuel depth rest
        readMoreFields fuel depth (Entries.insert key value fields) rest
      | 0x7d :: rest => .error (faultAt .trailingComma rest)
      | _ :: rest => .error (faultAt .keyNotString rest)
    | _ :: rest => .error (faultAt .noObjectEnd rest)

end

/-- Steps that are always enough for a text. -/
def enoughFuel (bs : Bytes) : Nat := 2 * bs.length + 2

/-- Only blanks may follow the value of a text. -/
def readEnd (bs : Bytes) : Except Fault Unit :=
  match skipBlanks bs with
  | [] => .ok ()
  | _ :: rest => .error (faultAt .trailingCharacters rest)

/-- The value that a whole text spells, given a reader for values of its kind. -/
def readAll {α : Type} (read : Bytes → Except Fault (α × Bytes)) (text : Bytes) :
    Except Error α :=
  let answer := do
    let (value, rest) ← read text
    readEnd rest
    .ok value
  answer.mapError (Fault.locate text)

/-- The document that a text spells. -/
def parse (text : Bytes) : Except Error Json :=
  readAll (readValue (enoughFuel text) maxDepth) text

end RestorePlugins.Json
