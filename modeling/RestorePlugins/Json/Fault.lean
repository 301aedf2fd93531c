import RestorePlugins.Json.Number
import RestorePlugins.Text.Quoted

namespace RestorePlugins.Json

/-!
# What is wrong with a JSON text

* `Cause` — the rule that a text breaks.
* `Fault` — a cause with the count of bytes that are left unread where it shows.
* `Error` — a cause with its line and column; `Error.message` is its wording.

Lines count from one, and a column is the count of bytes since the line began.
-/

/-- What stands in a text where something else was expected. -/
inductive Found where
  | null
  | bool (value : Bool)
  | int (value : Int)
  | float (value : Binary64)
  | str (value : String)
  | sequence
  | map
  deriving DecidableEq, Repr

/-- The rule that a JSON text breaks. -/
inductive Cause where
  | endInList
  | endInObject
  | endInString
  | endInValue
  | noColon
  | noListEnd
  | noObjectEnd
  | noIdent
  | noValue
  | badEscape
  | badNumber
  | numberOutOfRange
  | badCodePoint
  | controlCharacter
  | keyNotString
  | loneSurrogate
  | openSurrogate
  | trailingComma
  | trailingCharacters
  | tooDeep
  | wrongType (found : Found) (expected : String)
  | wrongValue (found : Found) (expected : String)
  | wrongLength (count : Nat) (expected : String)
  | missingField (name : String)
  | duplicateField (name : String)
  | unknownVariant (name : String) (known : List String)
  deriving DecidableEq, Repr

/-- A cause, and how many bytes of the text are still unread where it shows. -/
structure Fault where
  cause : Cause
  left : Nat
  deriving DecidableEq, Repr

/-- A cause and its place in the text. -/
structure Error where
  cause : Cause
  line : Nat
  column : Nat
  deriving DecidableEq, Repr

/-! ### Wording -/

/-- A number as a message shows it. -/
def numberText (bytes : Bytes) : String := (utf8Text? bytes).getD ""

/-- How a message names what it found. -/
def Found.message : Found → String
  | .null => "null"
  | .bool true => "boolean `true`"
  | .bool false => "boolean `false`"
  | .int i => "integer `" ++ numberText (decimalInt i) ++ "`"
  | .float x => "floating point `" ++ numberText x.jsonText ++ "`"
  | .str s => "string " ++ quoted s
  | .sequence => "sequence"
  | .map => "map"

/-- The names that were possible, in back quotes. -/
def choices : List String → String
  | [] => "there are no variants"
  | [a] => "expected `" ++ a ++ "`"
  | [a, b] => "expected `" ++ a ++ "` or `" ++ b ++ "`"
  | many => "expected one of " ++ ", ".intercalate (many.map fun a => "`" ++ a ++ "`")

/-- The wording of a cause. -/
def Cause.message : Cause → String
  | .endInList => "EOF while parsing a list"
  | .endInObject => "EOF while parsing an object"
  | .endInString => "EOF while parsing a string"
  | .endInValue => "EOF while parsing a value"
  | .noColon => "expected `:`"
  | .noListEnd => "expected `,` or `]`"
  | .noObjectEnd => "expected `,` or `\x7d`"
  | .noIdent => "expected ident"
  | .noValue => "expected value"
  | .badEscape => "invalid escape"
  | .badNumber => "invalid number"
  | .numberOutOfRange => "number out of range"
  | .badCodePoint => "invalid unicode code point"
  | .controlCharacter => "control character (\\u0000-\\u001F) found while parsing a string"
  | .keyNotString => "key must be a string"
  | .loneSurrogate => "lone leading surrogate in hex escape"
  | .openSurrogate => "unexpected end of hex escape"
  | .trailingComma => "trailing comma"
  | .trailingCharacters => "trailing characters"
  | .tooDeep => "recursion limit exceeded"
  | .wrongType found expected => "invalid type: " ++ found.message ++ ", expected " ++ expected
  | .wrongValue found expected => "invalid value: " ++ found.message ++ ", expected " ++ expected
  | .wrongLength count expected =>
    "invalid length " ++ toString count ++ ", expected " ++ expected
  | .missingField name => "missing field `" ++ name ++ "`"
  | .duplicateField name => "duplicate field `" ++ name ++ "`"
  | .unknownVariant name known => "unknown variant `" ++ name ++ "`, " ++ choices known

/-- The wording of an error, with its place. -/
def Error.message (e : Error) : String :=
  e.cause.message ++ " at line " ++ toString e.line ++ " column " ++ toString e.column

/-! ### Places -/

/-- Line and column after reading some bytes from a given place on. -/
def advance : Nat × Nat → Bytes → Nat × Nat
  | place, [] => place
  | (line, column), b :: rest =>
    advance (if b = 0x0a then (line + 1, 0) else (line, column + 1)) rest

/-- The error that a fault is in a given text. -/
def Fault.locate (text : Bytes) (fault : Fault) : Error :=
  let place := advance (1, 0) (text.take (text.length - fault.left))
  ⟨fault.cause, place.1, place.2⟩

/-- A fault that shows before the unread bytes. -/
def faultAt (cause : Cause) (rest : Bytes) : Fault := ⟨cause, rest.length⟩

/-- A fault that shows at the next byte, if there is one. -/
def faultAtNext (cause : Cause) (rest : Bytes) : Fault := ⟨cause, rest.length - 1⟩

end RestorePlugins.Json
