import RestorePlugins.Toml.Document
import RestorePlugins.Toml.Scan

namespace RestorePlugins.Toml

/-!
# Reading documents

* `readKey` — a key with dots.
* `readValue` — a value, with a bound on the arrays and tables around each other.
* `parse` — the fields of a whole document; nothing if the text breaks any rule.
-/

/-- This many arrays and inline tables are too many around each other, and this many parts are
too many in a key. -/
def depthLimit : Nat := 80

/-! ### Keys -/

/-- One part of a key. -/
def readKeyPart (cs : Chars) : Option (String × Chars) :=
  match cs with
  | '"' :: _ => (readLineText cs).map fun (text, rest) => (String.ofList text, rest)
  | '\'' :: _ => (readLineText cs).map fun (text, rest) => (String.ofList text, rest)
  | _ =>
    let name := cs.takeWhile isBareKey
    if name.isEmpty then none else some (String.ofList name, cs.dropWhile isBareKey)

/-- The parts of a key, with blanks around each; `fuel` bounds their count. -/
def readKeyParts : Nat → Chars → Option (List String × Chars)
  | 0, _ => none
  | fuel + 1, cs => do
    let (part, rest) ← readKeyPart (skipBlanks cs)
    match skipBlanks rest with
    | '.' :: rest =>
      let (parts, rest) ← readKeyParts fuel rest
      some (part :: parts, rest)
    | rest => some ([part], rest)

/-- A key: the parts before the last one, and the last one. -/
def readKey (cs : Chars) : Option (List String × String × Chars) := do
  let (parts, rest) ← readKeyParts (depthLimit - 1) cs
  let last ← parts.getLast?
  some (parts.dropLast, last, rest)

/-! ### Values -/

/-- A word and what it stands for. -/
def readWord (word : String) (value : Value) (cs : Chars) : Option (Value × Chars) :=
  if word.toList.isPrefixOf cs then some (value, cs.drop word.length) else none

/-- A number, a date or a time. -/
def readNumber (cs : Chars) : Option (Value × Chars) :=
  match readMoment cs with
  | some rest => some (.moment, rest)
  | none =>
    match readReal cs with
    | some rest => some (.real, rest)
    | none => (readInteger cs).map fun (i, rest) => (.integer i, rest)

/-- A value without inner values. -/
def readScalar (cs : Chars) : Option (Value × Chars) :=
  match cs with
  | '"' :: _ => (readAnyText cs).map fun (text, rest) => (.text (String.ofList text), rest)
  | '\'' :: _ => (readAnyText cs).map fun (text, rest) => (.text (String.ofList text), rest)
  | 't' :: _ => readWord "true" (.truth true) cs
  | 'f' :: _ => readWord "false" (.truth false) cs
  | _ => readNumber cs

mutual

/-- A value; `fuel` bounds the count of steps and `depth` the arrays and tables around each
other. -/
def readValue : Nat → Nat → Chars → Option (Value × Chars)
  | 0, _, _ => none
  | fuel + 1, depth, '[' :: rest =>
    match depth with
    | 0 => none
    | depth + 1 => (readItems fuel depth rest).map fun (items, rest) => (.array items, rest)
  | fuel + 1, depth, '{' :: rest =>
    match depth with
    | 0 => none
    | depth + 1 =>
      match skipBlanks rest with
      | '}' :: rest => some (.table .inline [], rest)
      | rest =>
        (readFields fuel depth [] rest).map fun (fields, rest) => (.table .inline fields, rest)
  | _ + 1, _, cs => readScalar cs

/-- The items of an array up to its bracket; line breaks and comments may stand around them. -/
def readItems : Nat → Nat → Chars → Option (List Value × Chars)
  | 0, _, _ => none
  | fuel + 1, depth, cs => do
    match ← skipLines cs.length cs with
    | ']' :: rest => some ([], rest)
    | rest =>
      let (item, rest) ← readValue fuel depth rest
      match ← skipLines rest.length rest with
      | ']' :: rest => some ([item], rest)
      | ',' :: rest =>
        let (items, rest) ← readItems fuel depth rest
        some (item :: items, rest)
      | _ => none

/-- The fields of an inline table up to its brace, added to those that were read. -/
def readFields : Nat → Nat → Table → Chars → Option (Table × Chars)
  | 0, _, _, _ => none
  | fuel + 1, depth, fields, cs => do
    let (path, key, rest) ← readKey cs
    let rest ← readChar '=' rest
    let (value, rest) ← readValue fuel depth (skipBlanks rest)
    let fields ← Table.assign path key value .header fields
    match skipBlanks rest with
    | '}' :: rest => some (fields, rest)
    | ',' :: rest => readFields fuel depth fields rest
    | _ => none

end

/-! ### Documents -/

/-- A document while it is read: its fields, and the path of the table that is open. -/
structure Reading where
  fields : Table := []
  openPath : List String := []

/-- A line that gives a key its value. -/
def readAssignment (r : Reading) (cs : Chars) : Option (Reading × Chars) := do
  let (path, key, rest) ← readKey cs
  let rest ← readChar '=' rest
  let (value, rest) ← readValue (rest.length + 1) (depthLimit - 1) (skipBlanks rest)
  let rest ← skipLine rest
  let fields ← Table.inside r.openPath (Table.assign path key value) .header r.fields
  some ({ r with fields := fields }, rest)

/-- A line that opens a table. -/
def readHeader (r : Reading) (cs : Chars) : Option (Reading × Chars) :=
  match cs with
  | '[' :: '[' :: rest => do
    let (path, key, rest) ← readKey rest
    let rest ← readChar ']' rest
    let rest ← readChar ']' rest
    let rest ← skipLine rest
    let fields ← Table.arrayHeader path key .header r.fields
    some (⟨fields, path ++ [key]⟩, rest)
  | '[' :: rest => do
    let (path, key, rest) ← readKey rest
    let rest ← readChar ']' rest
    let rest ← skipLine rest
    let fields ← Table.header path key .header r.fields
    some (⟨fields, path ++ [key]⟩, rest)
  | _ => none

/-- The lines of a document. -/
def readDocument : Nat → Reading → Chars → Option Reading
  | 0, _, _ => none
  | fuel + 1, r, cs =>
    match skipBlanks cs with
    | [] => some r
    | '#' :: rest => (skipLine ('#' :: rest)).bind (readDocument fuel r)
    | '[' :: rest => do
      let (r, rest) ← readHeader r ('[' :: rest)
      readDocument fuel r rest
    | rest =>
      match readBreak rest with
      | some rest => readDocument fuel r rest
      | none => do
        let (r, rest) ← readAssignment r rest
        readDocument fuel r rest

/-- The characters after a byte order mark. -/
def skipMark : Chars → Chars
  | '\uFEFF' :: rest => rest
  | cs => cs

/-- The fields of the document that a text spells. -/
def parse (text : String) : Option Table :=
  let cs := skipMark text.toList
  (readDocument (cs.length + 1) {} cs).map Reading.fields

end RestorePlugins.Toml
