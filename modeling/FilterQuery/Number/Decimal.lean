import FilterQuery.Number.Binary64

/-! # Exact decimals

A decimal is a sign, a mantissa below `2 ^ 96` and a number of decimal places up to 28.
Trailing zeros are part of it: `1.5` and `1.50` are different decimals of equal value.
-/

namespace FilterQuery

open Rounding

/-- The number `± mantissa / 10 ^ scale`. -/
structure Decimal where
  negative : Bool
  mantissa : Nat
  scale : Nat
  mantissa_lt : mantissa < 0x1000000000000000000000000 := by omega
  scale_le : scale ≤ 28 := by omega
  deriving Repr, DecidableEq

namespace Decimal

/-- Equality of value: places and the sign of zero do not matter. -/
def equals (x y : Decimal) : Bool :=
  x.mantissa * Nat.pow 10 y.scale = y.mantissa * Nat.pow 10 x.scale
    ∧ (x.negative = y.negative ∨ x.mantissa = 0)

/-- The text of a decimal, with exactly `scale` places. A negative zero keeps its sign. -/
def toText (x : Decimal) : String :=
  let digits := (toString x.mantissa).toList
  let padded := List.replicate (x.scale + 1 - digits.length) '0' ++ digits
  let whole := padded.take (padded.length - x.scale)
  let places := padded.drop (padded.length - x.scale)
  let sign := if x.negative then "-" else ""
  let point := if x.scale = 0 then "" else "."
  sign ++ String.ofList whole ++ point ++ String.ofList places

/-- The nearest integer, a half going to the even neighbour. -/
def round (x : Decimal) : Int :=
  signed x.negative (halfEven x.mantissa (Nat.pow 10 x.scale))

/-- The nearest integer, if it is a 64-bit one. -/
def toInt64? (x : Decimal) : Option Int64 :=
  if Int64.minValue.toInt ≤ x.round ∧ x.round ≤ Int64.maxValue.toInt then
    some (Int64.ofInt x.round)
  else none

/-- The magnitude as a double. Whole and fractional part are converted apart and added;
    the sum is then rounded to `scale` places, as far as doubles go. -/
def magnitude64 (x : Decimal) : Binary64 :=
  let power := Binary64.ofNat (Nat.pow 10 x.scale)
  let whole := Binary64.ofNat (x.mantissa / Nat.pow 10 x.scale)
  let fraction := (Binary64.ofNat (x.mantissa % Nat.pow 10 x.scale)).divMagnitude power
  if fraction.isZero then whole
  else
    let scaled := (whole.addMagnitude fraction).mulMagnitude power
    (Binary64.ofNat scaled.roundMagnitude).divMagnitude power

/-- The decimal as a double. Without places it is the double nearest to the integer, so
    that a negative zero loses its sign; with places the sign is kept. -/
def toBinary64 (x : Decimal) : Binary64 :=
  if x.scale = 0 then Binary64.ofInt (signed x.negative x.mantissa)
  else if x.negative then x.magnitude64.neg
  else x.magnitude64

end Decimal

end FilterQuery
