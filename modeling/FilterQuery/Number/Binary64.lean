import FilterQuery.Number.Rounding

/-! # Binary64 numbers

A double-precision number is its 64 bits. Every finite one is a whole number of
`units`, the least positive number being one unit; so arithmetic on magnitudes is
exact arithmetic on naturals, rounded once at the end (`ofRatio`).
-/

namespace FilterQuery

open Rounding

/-- An IEEE 754 double-precision number, by its bits. -/
structure Binary64 where
  bits : UInt64
  deriving Repr, DecidableEq

namespace Binary64

/-- The number of units in one: the least positive number is `1 / unitsPerOne`. -/
def unitsPerOne : Nat := Nat.pow 2 1074

/-- The bits of positive infinity; those of every finite magnitude are smaller. -/
def infinityBits : Nat := 0x7FF0000000000000

def isNegative (x : Binary64) : Bool :=
  Nat.pow 2 63 ≤ x.bits.toNat

def exponentField (x : Binary64) : Nat :=
  x.bits.toNat / Nat.pow 2 52 % Nat.pow 2 11

def fractionField (x : Binary64) : Nat :=
  x.bits.toNat % Nat.pow 2 52

def isNaN (x : Binary64) : Bool :=
  x.exponentField = 2047 ∧ x.fractionField ≠ 0

def isFinite (x : Binary64) : Bool :=
  x.exponentField < 2047

def isZero (x : Binary64) : Bool :=
  x.bits.toNat % Nat.pow 2 63 = 0

/-- The significand with its hidden bit; a subnormal number has none. -/
def significand (x : Binary64) : Nat :=
  if x.exponentField = 0 then x.fractionField else Nat.pow 2 52 + x.fractionField

/-- The spacing of the numbers in this binade is `2 ^ spacing` units. -/
def spacing (x : Binary64) : Nat :=
  x.exponentField - 1

/-- The magnitude of a finite number, counted in units. -/
def units (x : Binary64) : Nat :=
  x.significand * Nat.pow 2 x.spacing

/-- Equality of numbers: NaN equals nothing, and the two zeros are equal. -/
def equals (x y : Binary64) : Bool :=
  !x.isNaN && !y.isNaN && (x.bits == y.bits || (x.isZero && y.isZero))

def neg (x : Binary64) : Binary64 :=
  ⟨x.bits ^^^ 0x8000000000000000⟩

/-- The number nearest to `num / den`, a tie going to the even significand and an
    overflow to infinity. Adjacent magnitudes have adjacent bits, so a significand that
    rounds up to the next power of two carries into the exponent by itself. -/
def ofRatio (num den : Nat) : Binary64 :=
  let scaled := num * unitsPerOne
  let spacing := Nat.log2 (scaled / den) - 52
  let significand := halfEven scaled (den * Nat.pow 2 spacing)
  ⟨UInt64.ofNat (min (spacing * Nat.pow 2 52 + significand) infinityBits)⟩

def ofNat (n : Nat) : Binary64 :=
  ofRatio n 1

def ofInt (n : Int) : Binary64 :=
  if n < 0 then (ofNat n.natAbs).neg else ofNat n.natAbs

/-- The sum of two finite magnitudes, rounded. -/
def addMagnitude (x y : Binary64) : Binary64 :=
  ofRatio (x.units + y.units) unitsPerOne

/-- The product of two finite magnitudes, rounded. -/
def mulMagnitude (x y : Binary64) : Binary64 :=
  ofRatio (x.units * y.units) (unitsPerOne * unitsPerOne)

/-- The quotient of a finite magnitude by a finite non-zero one, rounded. -/
def divMagnitude (x y : Binary64) : Binary64 :=
  ofRatio x.units y.units

/-- The integer nearest to a finite magnitude, a half going away from zero. -/
def roundMagnitude (x : Binary64) : Nat :=
  halfAway x.units unitsPerOne

/-- The nearest 64-bit integer: a half goes away from zero, what lies outside the
    range (the infinities too) goes to its nearer end, and NaN goes to zero. -/
def toInt64 (x : Binary64) : Int64 :=
  if x.isNaN then 0
  else
    let rounded := signed x.isNegative x.roundMagnitude
    Int64.ofInt (max Int64.minValue.toInt (min Int64.maxValue.toInt rounded))

/-- The double that denotes the same number as the single-precision number with these
    bits. It always exists; NaN stays NaN and the infinities stay infinite. -/
def ofBinary32Bits (bits : UInt32) : Binary64 :=
  let exponent := bits.toNat / Nat.pow 2 23 % Nat.pow 2 8
  let fraction := bits.toNat % Nat.pow 2 23
  let magnitude : Binary64 :=
    if exponent = 255 then ⟨UInt64.ofNat (infinityBits + fraction * Nat.pow 2 29)⟩
    else if exponent = 0 then ofRatio fraction (Nat.pow 2 149)
    else ofRatio ((Nat.pow 2 23 + fraction) * Nat.pow 2 (exponent - 1)) (Nat.pow 2 149)
  if bits.toNat < Nat.pow 2 31 then magnitude else magnitude.neg

end Binary64

end FilterQuery
