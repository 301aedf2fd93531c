namespace RestorePlugins.CommandLine

/-!
# Arguments

* `UsageError` — why a command line stands for no call.
* `Kind`, `Value` — the sorts of values, and a value that was read.
* `Kind.read` — reads the text of a value.
* `Argument`, `Given` — an argument that a command has, and those that were given to it.
-/

/-- Why a command line stands for no call. -/
inductive UsageError where
  /-- The help was asked for. -/
  | help
  /-- The version was asked for. -/
  | version
  /-- Nothing was given where a command is needed. -/
  | nothingGiven
  | missingCommand
  | unknownCommand
  | unknownArgument
  | missingArgument
  /-- An argument was given twice. -/
  | repeatedArgument
  /-- A value is missing, empty, or none of the possible ones. -/
  | wrongValue
  /-- A value cannot be read. -/
  | unreadableValue
  /-- A value was given to an argument that takes none. -/
  | needlessValue
  deriving DecidableEq, Repr

/-! ### Values -/

/-- The sorts of values. -/
inductive Kind where
  | text
  /-- A text that is not empty. -/
  | path
  | integer (least greatest : Int)
  /-- One of some words. -/
  | choice (words : List String)
  /-- A key and a value with an equals sign between them. -/
  | pair
  deriving DecidableEq, Repr

/-- A value that was read. -/
inductive Value where
  | text (s : String)
  | integer (i : Int)
  | pair (key value : String)
  deriving DecidableEq, Repr

/-- The number that decimal digits spell, of which there is at least one. -/
def decimalDigits? (chars : List Char) : Option Nat :=
  if chars.isEmpty || !chars.all Char.isDigit then none
  else some (chars.foldl (fun n c => 10 * n + (c.toNat - 48)) 0)

/-- The integer that a text spells: a sign, if there is one, and digits.  There is no negative
sign where all integers are natural. -/
def integer? (least greatest : Int) (s : String) : Option Int := do
  let value ← match s.toList with
    | '+' :: digits => (decimalDigits? digits).map Int.ofNat
    | '-' :: digits => if least < 0 then (decimalDigits? digits).map (- Int.ofNat ·) else none
    | digits => (decimalDigits? digits).map Int.ofNat
  if least ≤ value ∧ value ≤ greatest then some value else none

/-- The text before the first equals sign and the text after it. -/
def keyAndValue? (s : String) : Option (String × String) :=
  match s.toList.span (· ≠ '=') with
  | (key, _ :: value) => some (String.ofList key, String.ofList value)
  | (_, []) => none

/-- What is said of a text without an equals sign. -/
def noPairMessage : String := "invalid input parameter"

/-- Reads a value of a sort. -/
def Kind.read : Kind → String → Except UsageError Value
  | text, s => .ok (.text s)
  | path, s => if s = "" then .error .wrongValue else .ok (.text s)
  | integer least greatest, s =>
    match integer? least greatest s with
    | some i => .ok (.integer i)
    | none => .error .unreadableValue
  | choice words, s => if s ∈ words then .ok (.text s) else .error .wrongValue
  | pair, s =>
    match keyAndValue? s with
    | some (key, value) => .ok (.pair key value)
    | none => .error .unreadableValue

/-! ### Arguments -/

/-- An argument that a command has. -/
structure Argument where
  name : String
  kind : Kind := .text
  /-- The letter of its short form. -/
  short : Option Char := none
  /-- Whether it is given by its place and not by its name. -/
  byPlace : Bool := false
  required : Bool := false
  /-- Whether it may be given more than once, with values between commas. -/
  many : Bool := false
  deriving DecidableEq, Repr

namespace Argument

/-- The values that a text holds for an argument. -/
def parts (a : Argument) (s : String) : List String :=
  if a.many then (s.toList.splitOn ',').map String.ofList else [s]

/-- Reads the values of an argument. -/
def read (a : Argument) (s : String) : Except UsageError (List Value) :=
  (a.parts s).mapM a.kind.read

end Argument

/-- The arguments that were given, each with its values. -/
abbrev Given := List (String × List Value)

namespace Given

/-- The values of an argument that was given. -/
def values? (given : Given) (name : String) : Option (List Value) := given.lookup name

/-- The given arguments with further values of one of them. -/
def add (name : String) (values : List Value) : Given → Given
  | [] => [(name, values)]
  | entry :: rest =>
    if entry.1 = name then (name, entry.2 ++ values) :: rest else entry :: add name values rest

/-- The text that was given for an argument. -/
def text? (given : Given) (name : String) : Option String :=
  match given.values? name with
  | some [.text s] => some s
  | _ => none

/-- The integer that was given for an argument. -/
def integer? (given : Given) (name : String) : Option Int :=
  match given.values? name with
  | some [.integer i] => some i
  | _ => none

/-- The key and value of a value. -/
def pairOf? : Value → Option (String × String)
  | .pair key value => some (key, value)
  | _ => none

/-- The pairs that were given for an argument. -/
def pairs? (given : Given) (name : String) : Option (List (String × String)) :=
  (given.values? name).map (·.filterMap pairOf?)

end Given

end RestorePlugins.CommandLine
