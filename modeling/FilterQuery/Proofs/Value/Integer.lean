import FilterQuery.Proofs.Number.Nearest
import FilterQuery.Value

/-! # Numbers as integers

A decimal and a float that denote one number are not rounded to one integer by the same rule: a
half goes to the even neighbour of a decimal, and away from zero for a float. Outside the range of
64 bits a decimal has no integer, and a float has the end of the range that is nearer.
-/

namespace FilterQuery

open Rounding

/-- The number that a decimal denotes. -/
def Decimal.toRat (d : Decimal) : ℚ :=
  (signed d.negative d.mantissa : ℚ) / (10 ^ d.scale : Nat)

namespace Binary64

/-- The number that a finite float denotes. -/
def toRat (x : Binary64) : ℚ :=
  (signed x.isNegative x.units : ℚ) / unitsPerOne

theorem exists_unitsPerOne_eq : ∃ p : Nat, unitsPerOne = 2 ^ p := by
  unfold unitsPerOne
  generalize 1074 = p
  exact ⟨p, Nat.pow_eq⟩

theorem unitsPerOne_pos : 0 < unitsPerOne := by
  obtain ⟨p, power⟩ := exists_unitsPerOne_eq
  rw [power]
  exact Nat.two_pow_pos p

theorem significand_lt (x : Binary64) : x.significand < 2 ^ 53 := by
  have fraction : x.fractionField < 2 ^ 52 := Nat.mod_lt _ (Nat.pow_pos two_pos)
  unfold significand
  split
  · omega
  · change 2 ^ 52 + x.fractionField < 2 ^ 53
    omega

end Binary64

/-- A multiple of a power of two that lies halfway between integers is no larger than its factor. -/
theorem half_le_of_multiple {s g p k : Nat} (half : 2 * (s * 2 ^ g) = (2 * k + 1) * 2 ^ p) :
    2 * k + 1 ≤ s := by
  by_cases coarse : p ≤ g
  · obtain ⟨more, rfl⟩ := Nat.exists_eq_add_of_le coarse
    have odd : 2 * (s * 2 ^ more) = 2 * k + 1 := by
      refine Nat.eq_of_mul_eq_mul_right (Nat.two_pow_pos p) ?_
      rw [← half, pow_add]
      ring
    omega
  · obtain ⟨more, rfl⟩ := Nat.exists_eq_add_of_lt (Nat.lt_of_not_le coarse)
    have factor : s = (2 * k + 1) * 2 ^ more := by
      refine Nat.eq_of_mul_eq_mul_right (Nat.two_pow_pos (g + 1)) ?_
      calc
        s * 2 ^ (g + 1) = 2 * (s * 2 ^ g) := by ring
        _ = (2 * k + 1) * 2 ^ more * 2 ^ (g + 1) := by
          rw [half]
          ring
    rw [factor]
    exact Nat.le_mul_of_pos_right _ (Nat.two_pow_pos more)

namespace Binary64

variable {x : Binary64}

theorem abs_toRat (x : Binary64) : |x.toRat| = (x.units : ℚ) / unitsPerOne :=
  abs_signed x.isNegative x.units unitsPerOne

theorem toRat_pos_iff (nonzero : x.toRat ≠ 0) : 0 < x.toRat ↔ x.isNegative = false := by
  have magnitude := x.abs_toRat
  have size : 0 < |x.toRat| := abs_pos.2 nonzero
  cases negative : x.isNegative with
  | false =>
      have value : x.toRat = |x.toRat| := by
        rw [magnitude]
        simp only [toRat, negative, signed, Bool.false_eq_true, if_false, Int.cast_natCast]
      simpa using value ▸ size
  | true =>
      have value : x.toRat = -|x.toRat| := by
        rw [magnitude]
        simp only [toRat, negative, signed, if_true, Int.cast_neg, Int.cast_natCast, neg_div]
      simp only [Bool.true_eq_false, iff_false, not_lt]
      linarith

/-- A float that lies halfway between integers is small, for large ones are integers. -/
theorem lt_of_half {k : Nat} (half : |x.toRat| = k + 1 / 2) : k < 2 ^ 52 := by
  have pos : (0 : ℚ) < unitsPerOne := by exact_mod_cast unitsPerOne_pos
  have units : 2 * x.units = (2 * k + 1) * unitsPerOne := by
    rw [abs_toRat, div_eq_iff pos.ne'] at half
    have cast : (2 * x.units : ℚ) = (2 * k + 1) * unitsPerOne := by
      rw [half]
      ring
    exact_mod_cast cast
  obtain ⟨p, power⟩ := exists_unitsPerOne_eq
  rw [power, Binary64.units, Nat.pow_eq] at units
  have small := half_le_of_multiple units
  have := x.significand_lt
  omega

/-- The integer nearest to a float, a half going to the even neighbour. -/
def nearest (x : Binary64) : ℤ :=
  signed x.isNegative (halfEven x.units unitsPerOne)

theorem nearestEven_iff_nearest (x : Binary64) (j : ℤ) : NearestEven x.toRat j ↔ j = x.nearest :=
  nearestEven_signed_iff unitsPerOne_pos x.isNegative j

theorem nearest_bounds (tied : TiesAtEven x.toRat) : -2 ^ 53 < x.nearest ∧ x.nearest < 2 ^ 53 := by
  obtain ⟨k, -, half⟩ := tied
  have small : ((k : Nat) : ℚ) + 1 ≤ (2 ^ 52 : Nat) := by exact_mod_cast lt_of_half half
  have bound := ((x.nearestEven_iff_nearest _).2 rfl).abs_le
  rw [half] at bound
  have bound' : |(x.nearest : ℚ)| < (2 ^ 53 : ℤ) := by
    push_cast at small ⊢
    linarith
  exact abs_lt.1 (by exact_mod_cast bound')

theorem toInt_toInt64 (finite : x.isFinite = true) :
    x.toInt64.toInt = max Int64.minValue.toInt
      (min Int64.maxValue.toInt (signed x.isNegative x.roundMagnitude)) := by
  have number : x.isNaN = false := by
    simp only [isFinite, decide_eq_true_eq] at finite
    simp [isNaN, finite.ne]
  simp only [toInt64, number, Bool.false_eq_true, if_false]
  refine Int64.toInt_ofInt_of_le ?_ ?_ <;>
    rw [Int64.toInt_minValue, Int64.toInt_maxValue] <;> omega

theorem signed_roundMagnitude (x : Binary64) :
    (¬TiesAtEven x.toRat → signed x.isNegative x.roundMagnitude = x.nearest) ∧
    (TiesAtEven x.toRat → signed x.isNegative x.roundMagnitude =
      if 0 < x.toRat then x.nearest + 1 else x.nearest - 1) := by
  have ties : TiesAtEven x.toRat ↔ TiesAtEven ((x.units : ℚ) / unitsPerOne) := by
    have nonneg : (0 : ℚ) ≤ (x.units : ℚ) / unitsPerOne := by positivity
    simp only [TiesAtEven, abs_toRat, abs_of_nonneg nonneg]
  obtain ⟨same, further⟩ := @halfAway_cases x.units unitsPerOne unitsPerOne_pos
  refine ⟨fun untied => ?_, fun tied => ?_⟩
  · rw [roundMagnitude, same (ties.not.1 untied), nearest]
  · have magnitude := further (ties.1 tied)
    have sign : 0 < x.toRat ↔ x.isNegative = false := by
      obtain ⟨k, -, half⟩ := tied
      refine toRat_pos_iff fun zero => ?_
      rw [zero, abs_zero] at half
      linarith [(Nat.cast_nonneg k : (0 : ℚ) ≤ k)]
    cases negative : x.isNegative with
    | false =>
        rw [if_pos (sign.2 negative), roundMagnitude, magnitude, nearest, negative]
        simp only [signed, Bool.false_eq_true, if_false, Nat.cast_add, Nat.cast_one]
    | true =>
        have below : ¬ 0 < x.toRat := fun pos => by simp [sign.1 pos] at negative
        rw [if_neg below, roundMagnitude, magnitude, nearest, negative]
        simp only [signed, if_true, Nat.cast_add, Nat.cast_one]
        ring

end Binary64

theorem Decimal.map_toInt64? {d : Decimal}
    (range : Int64.minValue.toInt ≤ d.round ∧ d.round ≤ Int64.maxValue.toInt) :
    d.toInt64?.map Int64.toInt = some d.round := by
  rw [Decimal.toInt64?, if_pos range, Option.map_some, Int64.toInt_ofInt_of_le range.1]
  exact Int.lt_of_le_sub_one range.2

theorem Decimal.nearestEven_iff_round (d : Decimal) (j : ℤ) :
    NearestEven d.toRat j ↔ j = d.round := by
  have pos : 0 < 10 ^ d.scale := Nat.pow_pos (by decide)
  have nearest := @nearestEven_signed_iff d.mantissa _ pos d.negative j
  rwa [← Nat.pow_eq] at nearest

/-- The integers of a decimal and of a float that denote the same number. The nearest one, the
    even one of two, is that of the decimal if it has 64 bits. It is that of the float too, unless
    the number lies halfway behind an even one: then the float goes one further from zero. An
    integer of more bits is none of the decimal's, and the float takes the end of the range. -/
theorem asInteger_decimal_float {d : Decimal} {x : Binary64} (finite : x.isFinite = true)
    (same : x.toRat = d.toRat) :
    ∃ i : ℤ, (∀ j, NearestEven d.toRat j ↔ j = i) ∧
      (Int64.minValue.toInt ≤ i ∧ i ≤ Int64.maxValue.toInt →
        (Value.decimal d).asInteger?.map Int64.toInt = some i ∧
        (¬TiesAtEven d.toRat → (Value.float x).asInteger?.map Int64.toInt = some i) ∧
        (TiesAtEven d.toRat → (Value.float x).asInteger?.map Int64.toInt =
          some (if 0 < d.toRat then i + 1 else i - 1))) ∧
      (¬(Int64.minValue.toInt ≤ i ∧ i ≤ Int64.maxValue.toInt) →
        (Value.decimal d).asInteger? = none ∧
        (Value.float x).asInteger? =
          some (if 0 < d.toRat then Int64.maxValue else Int64.minValue)) := by
  have nearest := d.nearestEven_iff_round
  have rounded : x.nearest = d.round := by
    rw [← nearest, ← same, x.nearestEven_iff_nearest]
  have value := Binary64.toInt_toInt64 finite
  obtain ⟨untied, tied⟩ := x.signed_roundMagnitude
  rw [same, rounded] at untied tied
  have denoted := (nearest d.round).2 rfl
  simp only [Value.asInteger?, Option.map_some, Option.some.injEq, ← Int64.toInt_inj, value]
  refine ⟨d.round, nearest,
    fun range => ⟨Decimal.map_toInt64? range, fun free => ?_, fun half => ?_⟩,
    fun outside => ⟨if_neg outside, ?_⟩⟩
  · rw [untied free]
    omega
  · have small := Binary64.nearest_bounds (same ▸ half)
    rw [rounded] at small
    rw [tied half, Int64.toInt_minValue, Int64.toInt_maxValue]
    split <;> omega
  · have free : ¬TiesAtEven d.toRat := by
      intro half
      have small := Binary64.nearest_bounds (same ▸ half)
      rw [rounded] at small
      rw [Int64.toInt_minValue, Int64.toInt_maxValue] at outside
      omega
    rw [untied free]
    obtain ⟨above, below⟩ := denoted.pos
    rw [Int64.toInt_minValue, Int64.toInt_maxValue] at outside ⊢
    by_cases large : 0 < d.round
    · rw [if_pos (above large), Int64.toInt_maxValue]
      omega
    · rw [if_neg (not_lt_of_gt (below (by omega))), Int64.toInt_minValue]
      omega

/-- Two and a half, which lies behind an even number, below zero. -/
theorem asInteger_decimal_float_tie :
    ∃ (d : Decimal) (x : Binary64), x.isFinite = true ∧ x.toRat = d.toRat ∧ d.toRat = -5 / 2 ∧
      TiesAtEven d.toRat ∧ (Value.decimal d).asInteger?.map Int64.toInt = some (-2) ∧
      (Value.float x).asInteger?.map Int64.toInt = some (-3) := by
  let d : Decimal := { negative := true, mantissa := 2500, scale := 3 }
  let x : Binary64 := ⟨0xC004000000000000⟩
  have number : d.toRat = -5 / 2 := by
    simp [Decimal.toRat, d, signed]
    norm_num
  have half : TiesAtEven d.toRat := ⟨2, by decide, by rw [number]; norm_num [abs_of_neg]⟩
  have same : x.toRat = d.toRat := by
    have pos : (Binary64.unitsPerOne : ℚ) ≠ 0 := by exact_mod_cast Binary64.unitsPerOne_pos.ne'
    have units : 2 * x.units = 5 * Binary64.unitsPerOne := by decide +kernel
    have units' : (2 * x.units : ℚ) = 5 * Binary64.unitsPerOne := by exact_mod_cast units
    have negative : x.isNegative = true := by decide
    rw [number, Binary64.toRat, negative, div_eq_iff pos]
    simp only [signed, if_true, Int.cast_neg, Int.cast_natCast]
    linarith
  obtain ⟨i, nearest, inside, -⟩ := asInteger_decimal_float (x := x) (by decide) same
  have two : i = -2 := by
    rw [← (nearest d.round).1 ((d.nearestEven_iff_round _).2 rfl)]
    decide
  obtain ⟨even, -, away⟩ := inside (by rw [two]; decide)
  refine ⟨d, x, by decide, same, number, half, two ▸ even, ?_⟩
  rw [away half, two, number]
  norm_num

end FilterQuery
