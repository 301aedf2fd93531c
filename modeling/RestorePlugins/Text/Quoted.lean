import RestorePlugins.Text.Printable
import RestorePlugins.Text.Utf8

namespace RestorePlugins

/-!
# Texts in messages

* `quoted s` — a text between double quotes as a message shows it: quotes, backslashes and
  white space get short escapes, and what cannot be shown is spelled out by its code point.
* `quotedPath s` — the same for a path, where apostrophes are escaped as well.
-/

/-- A number in lower-case hexadecimal digits without leading zeros. -/
def hexNumber (n : Nat) : List Char := (Nat.toDigits 16 n)

/-- How one character is shown between quotes. -/
def showChar (c : Char) : List Char :=
  if c = '\x00' then ['\\', '0']
  else if c = '\t' then ['\\', 't']
  else if c = '\r' then ['\\', 'r']
  else if c = '\n' then ['\\', 'n']
  else if c = '"' ∨ c = '\\' then ['\\', c]
  else if isPrintable c then [c]
  else ['\\', 'u', '\x7b'] ++ hexNumber c.toNat ++ ['\x7d']

/-- A text between double quotes. -/
def quoted (s : String) : String :=
  String.ofList ('"' :: (s.toList.flatMap showChar ++ ['"']))

/-- A path between double quotes. -/
def quotedPath (path : String) : String :=
  let shown := path.toList.flatMap fun c => if c = '\'' then ['\\', '\''] else showChar c
  String.ofList ('"' :: (shown ++ ['"']))

end RestorePlugins
