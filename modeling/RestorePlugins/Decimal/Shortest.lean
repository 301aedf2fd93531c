import RestorePlugins.Decimal.Binary64

namespace RestorePlugins

/-!
# The shortest decimal that reads back

A finite binary64 number is written with the fewest significant digits whose decimal rounds to
it again.  Of the two neighbours of the value on a decimal grid the nearer is taken, and on an
exact tie the even one.

* `Decimal` — `digits · 10 ^ exponent`.
* `Binary64.shortest x` — the shortest decimal of `|x|`.
-/

/-- The decimal `digits · 10 ^ exponent`. -/
structure Decimal where
  /-- The significant digits as one number. -/
  digits : Nat
  /-- The power of ten of the last digit. -/
  exponent : Int
  deriving DecidableEq, Repr

namespace Decimal

/-- The binary64 number nearest to a decimal. -/
def toBinary64 (d : Decimal) : Binary64 :=
  Binary64.ofRatio (d.digits * Nat.pow 10 d.exponent.toNat) (Nat.pow 10 (-d.exponent).toNat)

/-- The count of decimal digits of a number; one for zero. -/
def digitCount (n : Nat) : Nat := (Nat.toDigits 10 n).length

end Decimal

namespace Binary64

/-- `|x|` as a fraction. -/
def fraction (x : Binary64) : Nat × Nat :=
  (x.significand * Nat.pow 2 x.exponent.toNat, Nat.pow 2 (-x.exponent).toNat)

/-- The power of ten of the leading digit of a positive `|x|`. -/
def leadingPower (x : Binary64) : Int :=
  let (n, d) := x.fraction
  (Decimal.digitCount (n * Nat.pow 10 400 / d) : Int) - 401

/-- The decimal with `count` digits that reads back as `|x|` and is nearest to it, if any.  The
upper neighbour on the grid may be the next power of ten, which has one digit more there. -/
def shortestOf (x : Binary64) (count : Nat) : Option Decimal :=
  let k := x.leadingPower + 1 - count
  let (n, d) := x.fraction
  let num := n * Nat.pow 10 (-k).toNat
  let den := d * Nat.pow 10 k.toNat
  let low : Decimal := ⟨num / den, k⟩
  let high : Decimal :=
    if num / den + 1 = Nat.pow 10 count then ⟨Nat.pow 10 (count - 1), k + 1⟩
    else ⟨num / den + 1, k⟩
  let magnitude := x.magnitude
  let lowHit := low.toBinary64.magnitude == magnitude
  let highHit := high.toBinary64.magnitude == magnitude
  let nearerIsHigh := den < 2 * (num % den) || (2 * (num % den) == den && low.digits % 2 == 1)
  match lowHit, highHit with
  | true, true => some (if nearerIsHigh then high else low)
  | true, false => some low
  | false, true => some high
  | false, false => none

/-- The shortest decimal that reads back as `|x|`; seventeen digits always do. -/
def shortest (x : Binary64) : Decimal :=
  if x.isZero then ⟨0, 0⟩
  else ((List.range 17).findSome? fun i => x.shortestOf (i + 1)).getD ⟨0, 0⟩

end Binary64

end RestorePlugins
