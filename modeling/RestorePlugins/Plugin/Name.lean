import RestorePlugins.Plugin.Error

namespace RestorePlugins

/-!
# Plugin names

A plugin name is a DNS subdomain, a slash and a non-empty rest without a slash.

* `isSubdomain` — reads a prefix once, character by character, with the place inside a label
  as its only state.
* `checkPluginName` — accepts a name, or gives the first rule that it breaks: the count of
  slashes, the prefix, the empty rest.
-/

/-- The place of a reader inside a label. -/
inductive LabelPlace where
  /-- Before the label's first character. -/
  | start
  /-- After a letter or digit, where a label may end. -/
  | letter
  /-- After a hyphen, where a label may not end. -/
  | hyphen
  deriving DecidableEq, Repr

/-- A lower-case ASCII letter or a digit. -/
def isLabelLetter (c : Char) : Bool := ('a' ≤ c && c ≤ 'z') || ('0' ≤ c && c ≤ '9')

/-- The place after one more character, if the character is allowed there. -/
def LabelPlace.step (place : LabelPlace) (c : Char) : Option LabelPlace :=
  if isLabelLetter c then some .letter
  else match place with
    | .start => none
    | .letter => if c = '-' then some .hyphen else if c = '.' then some .start else none
    | .hyphen => if c = '-' then some .hyphen else none

/-- Reads on from a place; a name may end after a letter or digit only. -/
def readLabels : LabelPlace → List Char → Bool
  | place, [] => place == .letter
  | place, c :: rest =>
    match place.step c with
    | some next => readLabels next rest
    | none => false

/-- The most bytes that a DNS subdomain has. -/
def maxSubdomainBytes : Nat := 253

/-- Whether a text is a DNS subdomain. -/
def isSubdomain (chars : List Char) : Bool :=
  decide ((String.ofList chars).utf8ByteSize ≤ maxSubdomainBytes) && readLabels .start chars

/-- The rule for the count of slashes. -/
def slashRule : String :=
  "expected exactly two parts separated by a `/` (<DNS subdomain>/<non-empty name>)"

/-- The rule for the prefix. -/
def prefixRule : String := "prefix must be a DNS subdomain"

/-- The rule for the rest. -/
def restRule : String := "name after the `/` must be non-empty"

/-- The first rule that a name breaks. -/
def brokenNameRule? (name : String) : Option String :=
  match name.toList.span (· ≠ '/') with
  | (front, _ :: back) =>
    if '/' ∈ back then some slashRule
    else if !isSubdomain front then some prefixRule
    else if back.isEmpty then some restRule
    else none
  | (_, []) => some slashRule

/-- Accepts a plugin name or says which rule it breaks first. -/
def checkPluginName (name : String) : Except PluginError Unit :=
  match brokenNameRule? name with
  | none => .ok ()
  | some rule => .error (.invalidName name rule)

end RestorePlugins
