import FilterQuery.Number.Binary64

/-! # The shortest decimal text of a double

A finite double is written with the fewest significant digits that read back to it;
of several such decimals the one closest to it is taken. The digits come first
(`Binary64.shortest`), their layout second (`Digits.layout`).
-/

namespace FilterQuery

/-- The positive decimal `coefficient * 10 ^ exponent`. -/
structure Digits where
  coefficient : Nat
  exponent : Int
  deriving Repr, DecidableEq

namespace Digits

/-- Compares `coefficient * 10 ^ exponent` with `num / den`, exactly. -/
def compareRatio (d : Digits) (num den : Nat) : Ordering :=
  compare (d.coefficient * Nat.pow 10 d.exponent.toNat * den) (num * Nat.pow 10 (-d.exponent).toNat)

/-- Moves up to `count` trailing zeros of the coefficient into the exponent. -/
def strip (d : Digits) : Nat → Digits
  | 0 => d
  | count + 1 =>
      if d.coefficient ≠ 0 ∧ d.coefficient % 10 = 0 then
        strip ⟨d.coefficient / 10, d.exponent + 1⟩ count
      else d

def zeros (n : Nat) : String :=
  String.ofList (List.replicate n '0')

/-- The layout of a positive number. With `e` the power of ten of the leading digit, it
    is positional, and always with a fraction, for `-5 ≤ e ≤ 15`; outside it has one digit
    before the point, no point after a lone digit, and an exponent with its sign. -/
def layout (d : Digits) : String :=
  let digits := (toString d.coefficient).toList
  let count := digits.length
  let e := d.exponent + count - 1
  if -5 ≤ e ∧ e ≤ 15 then
    if e < 0 then
      "0." ++ zeros (-e - 1).toNat ++ String.ofList digits
    else
      let whole := (e + 1).toNat
      if count ≤ whole then
        String.ofList digits ++ zeros (whole - count) ++ ".0"
      else
        String.ofList (digits.take whole) ++ "." ++ String.ofList (digits.drop whole)
  else
    let fraction := digits.drop 1
    let point := if fraction.isEmpty then "" else "."
    let sign := if e < 0 then "-" else "+"
    String.ofList (digits.take 1) ++ point ++ String.ofList fraction
      ++ "e" ++ sign ++ toString e.natAbs

end Digits

namespace Binary64

/-- Whether the magnitude nearest to `d` is that of `x`. The numbers that round to `x`
    reach halfway to its two neighbours; the lower one is at half the distance when the
    significand is a power of two. The ends belong to `x` when its significand is even. -/
def readsBack (x : Binary64) (d : Digits) : Bool :=
  let gap := Nat.pow 2 x.spacing
  let below := if x.fractionField = 0 ∧ 1 < x.exponentField then gap else 2 * gap
  let low := d.compareRatio (4 * x.units - below) (4 * unitsPerOne)
  let high := d.compareRatio (4 * x.units + 2 * gap) (4 * unitsPerOne)
  let even := x.significand % 2 = 0
  (low = .gt ∨ (even ∧ low = .eq)) ∧ (high = .lt ∨ (even ∧ high = .eq))

/-- The power of ten of the leading digit of a finite non-zero magnitude: estimated from
    the power of two, at 1233 powers of ten to 4096 of two, and set right by a comparison. -/
def leadingPower (x : Binary64) : Int :=
  let estimate := ((Nat.log2 x.units : Int) - 1074) * 1233 / 4096
  if Digits.compareRatio ⟨1, estimate + 1⟩ x.units unitsPerOne ≠ .gt then estimate + 1
  else if Digits.compareRatio ⟨1, estimate⟩ x.units unitsPerOne = .gt then estimate - 1
  else estimate

/-- The neighbour of the magnitude among the multiples of `10 ^ exponent` that reads back:
    the closer one if both do, and the even one if both are equally close. -/
def onGrid? (x : Binary64) (exponent : Int) : Option Digits :=
  let num := x.units * Nat.pow 10 (-exponent).toNat
  let den := unitsPerOne * Nat.pow 10 exponent.toNat
  let down : Digits := ⟨num / den, exponent⟩
  let up : Digits := ⟨num / den + 1, exponent⟩
  let upward : Bool :=
    match compare (2 * (num % den)) den with
    | .lt => false
    | .gt => true
    | .eq => down.coefficient % 2 = 1
  if x.readsBack down && !(x.readsBack up && upward) then some down
  else if x.readsBack up then some up
  else none

/-- The shortest decimal that reads back to a finite non-zero magnitude: the coarsest grid
    that has one decides. Seventeen digits always suffice. -/
def shortest (x : Binary64) : Digits :=
  let power := x.leadingPower
  let found := (List.range 17).findSome? fun (i : Nat) => x.onGrid? (power - i)
  (found.getD ⟨x.units * Nat.pow 10 1074 / unitsPerOne, -1074⟩).strip 17

/-- The text of a finite number. -/
def toText (x : Binary64) : String :=
  let sign := if x.isNegative then "-" else ""
  sign ++ (if x.isZero then "0.0" else x.shortest.layout)

end Binary64

-- The digits: the fewest, then the closest, and the even ones on a tie.
example : (Binary64.mk 0x3FD3333333333334).toText = "0.30000000000000004" := by decide +kernel

example : (Binary64.mk 0x0000000000000001).toText = "5e-324" := by decide +kernel

example : (Binary64.mk 0x3E60000000000000).toText = "2.9802322387695312e-8" := by decide +kernel

-- The layout: where positional notation begins and ends, and the sign of zero.
example : (Binary64.mk 0x3EE4F8B588E368F1).toText = "0.00001" := by decide +kernel

example : (Binary64.mk 0x430C6BF526340000).toText = "1000000000000000.0" := by decide +kernel

example : (Binary64.mk 0x4341C37937E08000).toText = "1e+16" := by decide +kernel

example : (Binary64.mk 0x8000000000000000).toText = "-0.0" := by decide +kernel

end FilterQuery
