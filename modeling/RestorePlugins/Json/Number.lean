import RestorePlugins.Decimal.Shortest
import RestorePlugins.Text.Utf8

namespace RestorePlugins

/-!
# Number texts

* `decimal n`, `decimalInt i` — an integer in decimal digits.
* `Binary64.jsonText x` — the shortest digits that read back, always with a fraction or an
  exponent, so that a number never looks like an integer.
-/

/-- The byte of a digit below ten. -/
def digitByte (n : Nat) : UInt8 := UInt8.ofNat (48 + n)

/-- Whether a byte is a decimal digit. -/
def isDigit (b : UInt8) : Bool := 48 ≤ b && b ≤ 57

/-- The number a digit byte stands for. -/
def digitValue (b : UInt8) : Nat := b.toNat - 48

/-- A natural number in decimal digits. -/
def decimal (n : Nat) : Bytes :=
  if n < 10 then [digitByte n] else decimal (n / 10) ++ [digitByte (n % 10)]

/-- An integer in decimal digits, with a minus sign below zero. -/
def decimalInt (i : Int) : Bytes :=
  if i < 0 then 0x2d :: decimal i.natAbs else decimal i.natAbs

namespace Binary64

/-- Writes a number of magnitude from `10⁻⁵` up to `10¹⁶` positionally and every other with an
exponent.  A positional number without a fraction gets `.0`; an exponent has its sign. -/
def jsonText (x : Binary64) : Bytes :=
  let d := x.shortest
  let digits := decimal d.digits
  let count := digits.length
  let point := d.exponent + count
  let zeros (n : Nat) : Bytes := List.replicate n 0x30
  let body :=
    if x.isZero then utf8 "0.0"
    else if 0 ≤ d.exponent ∧ point ≤ 16 then digits ++ zeros d.exponent.toNat ++ utf8 ".0"
    else if 0 < point ∧ point ≤ 16 then
      digits.take point.toNat ++ utf8 "." ++ digits.drop point.toNat
    else if -5 < point ∧ point ≤ 0 then utf8 "0." ++ zeros (-point).toNat ++ digits
    else
      let power := point - 1
      let mantissa := digits.take 1 ++ if count = 1 then [] else utf8 "." ++ digits.drop 1
      mantissa ++ utf8 (if power < 0 then "e-" else "e+") ++ decimal power.natAbs
  if x.negative then 0x2d :: body else body

end Binary64

end RestorePlugins
