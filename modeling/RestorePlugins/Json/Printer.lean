import RestorePlugins.Json.Basic
import RestorePlugins.Json.Number

namespace RestorePlugins

/-!
# Writing documents

* `Json.compact` — no blanks at all, the form that is stored and sent.
* `Json.pretty` — one item or field a line, two blanks for each level.
* `quote` — a text between quotes: quotes, backslashes and control characters are escaped and
  every other character stands for itself.
-/

/-- The escape of one byte of a text. -/
def escapeByte (b : UInt8) : Bytes :=
  if b = 0x22 then [0x5c, 0x22]
  else if b = 0x5c then [0x5c, 0x5c]
  else if b = 0x08 then [0x5c, 0x62]
  else if b = 0x09 then [0x5c, 0x74]
  else if b = 0x0a then [0x5c, 0x6e]
  else if b = 0x0c then [0x5c, 0x66]
  else if b = 0x0d then [0x5c, 0x72]
  else if b < 0x20 then
    [0x5c, 0x75, 0x30, 0x30, if b < 0x10 then 0x30 else 0x31,
      UInt8.ofNat (hexDigit (b.toNat % 16)).toNat]
  else [b]

/-- The body of a quoted text. -/
def escapeBytes (bs : Bytes) : Bytes := bs.flatMap escapeByte

/-- A text between quotes. -/
def quote (s : String) : Bytes := 0x22 :: (escapeBytes (utf8 s) ++ [0x22])

namespace Json

/-! ### Compact form -/

mutual

/-- The document without blanks. -/
def compact : Json → Bytes
  | .null => utf8 "null"
  | .bool true => utf8 "true"
  | .bool false => utf8 "false"
  | .int i => decimalInt i
  | .float x => x.jsonText
  | .str s => quote s
  | .arr items => 0x5b :: (compactItems items ++ [0x5d])
  | .obj fields => 0x7b :: (compactFields fields ++ [0x7d])

/-- The items with commas between them. -/
def compactItems : List Json → Bytes
  | [] => []
  | [item] => compact item
  | item :: rest => compact item ++ 0x2c :: compactItems rest

/-- The fields with commas between them. -/
def compactFields : List (String × Json) → Bytes
  | [] => []
  | [(key, value)] => quote key ++ 0x3a :: compact value
  | (key, value) :: rest => quote key ++ 0x3a :: (compact value ++ 0x2c :: compactFields rest)

end

/-! ### Indented form -/

/-- A line break and the blanks of a level. -/
def lineBreak (level : Nat) : Bytes := 0x0a :: List.replicate (2 * level) 0x20

mutual

/-- The document from a level on. -/
def prettyAt (level : Nat) : Json → Bytes
  | .arr [] => utf8 "[]"
  | .arr (item :: rest) =>
    0x5b :: (lineBreak (level + 1) ++ prettyAt (level + 1) item ++ prettyItems (level + 1) rest
      ++ lineBreak level ++ [0x5d])
  | .obj [] => utf8 "\x7b\x7d"
  | .obj ((key, value) :: rest) =>
    0x7b :: (lineBreak (level + 1) ++ quote key ++ utf8 ": " ++ prettyAt (level + 1) value
      ++ prettyFields (level + 1) rest ++ lineBreak level ++ [0x7d])
  | v => compact v

/-- Further items, each after a comma on a line of its own. -/
def prettyItems (level : Nat) : List Json → Bytes
  | [] => []
  | item :: rest => 0x2c :: (lineBreak level ++ prettyAt level item ++ prettyItems level rest)

/-- Further fields, each after a comma on a line of its own. -/
def prettyFields (level : Nat) : List (String × Json) → Bytes
  | [] => []
  | (key, value) :: rest =>
    0x2c :: (lineBreak level ++ quote key ++ utf8 ": " ++ prettyAt level value
      ++ prettyFields level rest)

end

/-- The document over several lines. -/
def pretty (doc : Json) : Bytes := prettyAt 0 doc

end Json

end RestorePlugins
