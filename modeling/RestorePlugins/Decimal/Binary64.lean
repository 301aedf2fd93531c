namespace RestorePlugins

/-!
# Binary64 numbers in exact arithmetic

A binary64 number is its 64-bit word.  Every operation is exact on natural numbers and rounds
once, to the nearest word and on a tie to the even one.

* `Binary64.ofRatio num den` — the word nearest to `num / den`.
* `Binary64.significand`, `Binary64.exponent` — `|x| = significand · 2 ^ exponent`.
* `Binary64.mul`, `Binary64.div` — product and quotient of magnitudes.
* `Binary64.beq` — equality as numbers, for which `0.0` and `-0.0` are one number.
-/

/-- A binary64 number, given by its word. -/
structure Binary64 where
  /-- Sign bit, eleven exponent bits, fifty-two fraction bits. -/
  bits : UInt64
  deriving DecidableEq, Repr

namespace Binary64

/-! ### Fields of a word -/

/-- The sign bit. -/
def signBit : Nat := 0x8000000000000000

/-- The lowest exponent bit, which is also the leading bit a normal significand leaves out. -/
def hiddenBit : Nat := 0x10000000000000

/-- Whether the sign bit is set. -/
def negative (x : Binary64) : Bool := decide (signBit ≤ x.bits.toNat)

/-- The word without its sign bit, which orders magnitudes. -/
def magnitude (x : Binary64) : Nat := x.bits.toNat % signBit

/-- The magnitude word of infinity; every finite magnitude lies below it. -/
def infinity : Nat := 2047 * hiddenBit

/-- Whether the number is plus or minus infinity. -/
def isInfinite (x : Binary64) : Bool := x.magnitude == infinity

/-- Whether the number is `0.0` or `-0.0`. -/
def isZero (x : Binary64) : Bool := x.magnitude == 0

/-- The integer that counts units of `2 ^ exponent`. -/
def significand (x : Binary64) : Nat :=
  if x.magnitude < hiddenBit then x.magnitude else hiddenBit + x.magnitude % hiddenBit

/-- The exponent of the last place. -/
def exponent (x : Binary64) : Int :=
  if x.magnitude < hiddenBit then -1074 else (x.magnitude / hiddenBit : Nat) - 1075

/-- The word with the given sign and magnitude. -/
def ofMagnitude (negative : Bool) (magnitude : Nat) : Binary64 :=
  ⟨UInt64.ofNat (magnitude + if negative then signBit else 0)⟩

/-- The same magnitude with the other sign. -/
def neg (x : Binary64) : Binary64 := ofMagnitude (!x.negative) x.magnitude

/-- Equality as numbers. -/
def beq (x y : Binary64) : Bool := x.bits == y.bits || (x.isZero && y.isZero)

instance : BEq Binary64 := ⟨beq⟩

/-! ### Rounding -/

/-- The integer nearest to `num / den`, the even one on a tie. -/
def roundHalfEven (num den : Nat) : Nat :=
  let q := num / den
  let r := num % den
  if den < 2 * r ∨ (2 * r = den ∧ q % 2 = 1) then q + 1 else q

/-- `num / den` scaled by `2 ^ (-e)`, as a numerator and a denominator. -/
def scale (num den : Nat) (e : Int) : Nat × Nat :=
  (num * Nat.pow 2 (-e).toNat, den * Nat.pow 2 e.toNat)

/-- The exponent of the last place of `num / den`: fifty-three significant bits, but never
below the smallest subnormal. -/
def placeExponent (num den : Nat) : Int :=
  let guess : Int := num.log2 - den.log2 - 52
  let (n, d) := scale num den guess
  max (if n / d < hiddenBit then guess - 1 else guess) (-1074)

/-- The magnitude word nearest to `num / den`; beyond the largest finite number, infinity. -/
def ratioMagnitude (num den : Nat) : Nat :=
  if num = 0 then 0 else
    let e := placeExponent num den
    let (n, d) := scale num den e
    min ((e + 1074).toNat * hiddenBit + roundHalfEven n d) infinity

/-- The non-negative number nearest to `num / den`. -/
def ofRatio (num den : Nat) : Binary64 := ofMagnitude false (ratioMagnitude num den)

/-- The number nearest to a natural number. -/
def ofNat (n : Nat) : Binary64 := ofRatio n 1

/-- The power of ten nearest to `10 ^ k`. -/
def powerOfTen (k : Nat) : Binary64 := ofRatio (Nat.pow 10 k) 1

/-- The product of two finite magnitudes, rounded once. -/
def mul (x y : Binary64) : Binary64 :=
  let e := x.exponent + y.exponent
  ofRatio (x.significand * y.significand * Nat.pow 2 e.toNat) (Nat.pow 2 (-e).toNat)

/-- The quotient of two finite magnitudes, rounded once. -/
def div (x y : Binary64) : Binary64 :=
  let e := x.exponent - y.exponent
  ofRatio (x.significand * Nat.pow 2 e.toNat) (y.significand * Nat.pow 2 (-e).toNat)

end Binary64

end RestorePlugins
