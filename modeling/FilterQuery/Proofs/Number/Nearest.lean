import FilterQuery.Number.Rounding
import Mathlib.Algebra.Order.Field.Basic
import Mathlib.Algebra.Order.Field.Rat
import Mathlib.Algebra.Ring.Parity
import Mathlib.Tactic.FieldSimp
import Mathlib.Tactic.Linarith
import Mathlib.Tactic.Positivity
import Mathlib.Tactic.Ring

/-! # Nearest integers

What rounding a quotient comes to, told of the number and not of the division: rounding halves to
even gives the nearest integer, and of two the even one. Rounding them away from zero differs from
that at the halves behind an even number, and there by one.
-/

namespace FilterQuery.Rounding

/-- No integer is nearer to the number, and one of two that are equally near is even. -/
structure NearestEven (v : ℚ) (i : ℤ) : Prop where
  nearest (j : ℤ) : |v - i| ≤ |v - j|
  even (j : ℤ) : j ≠ i → |v - j| = |v - i| → Even i

theorem one_le_abs_sub_add {i j : ℤ} (ne : j ≠ i) (v : ℚ) : 1 ≤ |v - i| + |v - j| := by
  have apart : (1 : ℤ) ≤ |i - j| := Int.one_le_abs (sub_ne_zero.2 ne.symm)
  have apart' : (1 : ℚ) ≤ |(i : ℚ) - j| := by exact_mod_cast apart
  calc
    (1 : ℚ) ≤ |(i : ℚ) - v + (v - j)| := by simpa using apart'
    _ ≤ |(i : ℚ) - v| + |v - j| := abs_add_le _ _
    _ = |v - i| + |v - j| := by rw [abs_sub_comm]

/-- An integer no further away than a half, and even if it is a half away, is the only one. -/
theorem nearestEven_iff {v : ℚ} {i : ℤ} (near : |v - i| ≤ 1 / 2) (tie : |v - i| = 1 / 2 → Even i)
    (j : ℤ) : NearestEven v j ↔ j = i := by
  constructor
  · intro h
    by_contra ne
    have apart := one_le_abs_sub_add ne v
    have le := h.nearest i
    have here : |v - i| = 1 / 2 := by linarith
    have there : |v - j| = 1 / 2 := by linarith
    obtain ⟨a, rfl⟩ := tie here
    obtain ⟨b, rfl⟩ := h.even _ (Ne.symm ne) (by rw [here, there])
    -- both a half away, they are no more than one apart, and even
    have close : |((a + a : ℤ) : ℚ) - ((b + b : ℤ) : ℚ)| ≤ 1 := by
      have := abs_sub_le ((a + a : ℤ) : ℚ) v ((b + b : ℤ) : ℚ)
      rw [abs_sub_comm _ v] at this
      linarith
    have close' : |a + a - (b + b)| ≤ 1 := by exact_mod_cast close
    have := abs_le.1 close'
    omega
  · rintro rfl
    refine ⟨fun k => ?_, fun k ne equal => ?_⟩
    · by_cases same : k = j
      · rw [same]
      · have := one_le_abs_sub_add same v
        linarith
    · have := one_le_abs_sub_add ne v
      exact tie (by linarith)

theorem NearestEven.pos {v : ℚ} {i : ℤ} (h : NearestEven v i) :
    (0 < i → 0 < v) ∧ (i < 0 → v < 0) := by
  have near := h.nearest 0
  rw [Int.cast_zero, sub_zero] at near
  refine ⟨fun pos => ?_, fun neg => ?_⟩
  · have pos' : (0 : ℚ) < i := by exact_mod_cast pos
    by_contra le
    rw [abs_of_nonpos (by linarith : v ≤ 0), abs_of_neg (by linarith : v - i < 0)] at near
    linarith
  · have neg' : (i : ℚ) < 0 := by exact_mod_cast neg
    by_contra le
    rw [abs_of_nonneg (by linarith : 0 ≤ v), abs_of_pos (by linarith : 0 < v - i)] at near
    linarith

theorem NearestEven.abs_le {v : ℚ} {i : ℤ} (h : NearestEven v i) : |(i : ℚ)| ≤ 2 * |v| := by
  have near := h.nearest 0
  have tri := abs_sub_le (i : ℚ) v 0
  rw [abs_sub_comm _ v] at tri
  simp only [Int.cast_zero, sub_zero] at near tri
  linarith

/-! ## Quotients -/

theorem halfAway_eq {num den n : Nat} (low : n * (2 * den) ≤ 2 * num + den)
    (high : 2 * num + den < (n + 1) * (2 * den)) : halfAway num den = n :=
  Nat.div_eq_of_lt_le low high

theorem remainder_cases (num : Nat) {den : Nat} (pos : 0 < den) :
    (2 * (num % den) < den ∧ halfEven num den = num / den ∧ halfAway num den = num / den) ∨
    (den < 2 * (num % den) ∧ halfEven num den = num / den + 1 ∧
      halfAway num den = num / den + 1) ∨
    (2 * (num % den) = den ∧ halfEven num den = num / den + num / den % 2 ∧
      halfAway num den = num / den + 1) := by
  have parts := Nat.div_add_mod' num den
  have rest := Nat.mod_lt num pos
  have away := @halfAway_eq num den
  simp only [halfEven]
  generalize num / den = below at *
  generalize num % den = r at *
  have double (n : Nat) : n * (2 * den) = 2 * (n * den) := by ring
  obtain less | half | more := lt_trichotomy (2 * r) den
  · refine .inl ⟨less, if_pos less, away ?_ ?_⟩ <;> (simp only [double, Nat.add_mul]; omega)
  · refine .inr (.inr ⟨half, ?_, away ?_ ?_⟩)
    · rw [if_neg (by omega), if_neg (by omega)]
    all_goals (simp only [double, Nat.add_mul]; omega)
  · refine .inr (.inl ⟨more, ?_, away ?_ ?_⟩)
    · rw [if_neg (by omega), if_pos more]
    all_goals (simp only [double, Nat.add_mul]; omega)

/-- A quotient is an integer and a fraction, and the fraction decides about rounding. -/
theorem quotient_cases (num : Nat) {den : Nat} (pos : 0 < den) :
    ∃ (below : Nat) (fraction : ℚ), (num : ℚ) / den = below + fraction ∧ 0 ≤ fraction ∧
      fraction < 1 ∧
      (fraction < 1 / 2 ∧ halfEven num den = below ∧ halfAway num den = below ∨
        1 / 2 < fraction ∧ halfEven num den = below + 1 ∧ halfAway num den = below + 1 ∨
        fraction = 1 / 2 ∧ halfEven num den = below + below % 2 ∧
          halfAway num den = below + 1) := by
  have pos' : (0 : ℚ) < den := by exact_mod_cast pos
  have parts : ((num / den : Nat) : ℚ) * den + (num % den : Nat) = num := by
    exact_mod_cast Nat.div_add_mod' num den
  have rest : ((num % den : Nat) : ℚ) < den := by exact_mod_cast Nat.mod_lt num pos
  refine ⟨num / den, (num % den : Nat) / den, ?_, by positivity, (div_lt_one pos').2 rest, ?_⟩
  · field_simp
    linarith
  · have less : ((num % den : Nat) : ℚ) / den < 1 / 2 ↔ 2 * (num % den) < den := by
      rw [div_lt_div_iff₀ pos' two_pos, one_mul, mul_comm]
      exact_mod_cast Iff.rfl
    have more : 1 / 2 < ((num % den : Nat) : ℚ) / den ↔ den < 2 * (num % den) := by
      rw [div_lt_div_iff₀ two_pos pos', one_mul, mul_comm]
      exact_mod_cast Iff.rfl
    have half : ((num % den : Nat) : ℚ) / den = 1 / 2 ↔ 2 * (num % den) = den := by
      rw [div_eq_div_iff pos'.ne' two_ne_zero, one_mul, mul_comm]
      exact_mod_cast Iff.rfl
    rw [less, more, half]
    exact remainder_cases num pos

theorem abs_sub_halfEven {num den : Nat} (pos : 0 < den) :
    |(num : ℚ) / den - halfEven num den| ≤ 1 / 2 ∧
      (|(num : ℚ) / den - halfEven num den| = 1 / 2 → Even (halfEven num den)) := by
  obtain ⟨below, f, whole, nonneg, lt, ⟨less, even, -⟩ | ⟨more, even, -⟩ | ⟨half, even, -⟩⟩ :=
    quotient_cases num pos
  · have inside : |(num : ℚ) / den - halfEven num den| < 1 / 2 := by
      rw [whole, even, abs_lt]
      constructor <;> linarith
    exact ⟨inside.le, fun tie => absurd tie inside.ne⟩
  · have inside : |(num : ℚ) / den - halfEven num den| < 1 / 2 := by
      rw [whole, even, abs_lt]
      push_cast
      constructor <;> linarith
    exact ⟨inside.le, fun tie => absurd tie inside.ne⟩
  · refine ⟨?_, fun _ => ?_⟩
    · have low : (0 : ℚ) ≤ (below % 2 : Nat) := by positivity
      have high : ((below % 2 : Nat) : ℚ) ≤ 1 := by
        exact_mod_cast Nat.le_of_lt_succ (Nat.mod_lt below two_pos)
      rw [whole, even, half, abs_le]
      push_cast at low high ⊢
      constructor <;> linarith
    · rw [even, Nat.even_iff]
      omega

/-- The number lies halfway behind an even natural number, above zero or below. -/
def TiesAtEven (v : ℚ) : Prop :=
  ∃ k : Nat, Even k ∧ |v| = k + 1 / 2

theorem tiesAtEven_iff {below : Nat} {fraction : ℚ} (nonneg : 0 ≤ fraction) (lt : fraction < 1) :
    TiesAtEven (below + fraction) ↔ fraction = 1 / 2 ∧ Even below := by
  have magnitude : |(below : ℚ) + fraction| = below + fraction := abs_of_nonneg (by positivity)
  constructor
  · rintro ⟨k, even, equal⟩
    rw [magnitude] at equal
    have low : (below : ℚ) < (k + 1 : Nat) := by
      push_cast
      linarith
    have high : (k : ℚ) < (below + 1 : Nat) := by
      push_cast
      linarith
    have same : k = below := by
      have := Nat.cast_lt.1 low
      have := Nat.cast_lt.1 high
      omega
    exact ⟨by rw [same] at equal; linarith, same ▸ even⟩
  · rintro ⟨half, even⟩
    exact ⟨below, even, by rw [magnitude, half]⟩

/-- Away from zero, a half behind an even number goes one further. -/
theorem halfAway_cases {num den : Nat} (pos : 0 < den) :
    (¬TiesAtEven ((num : ℚ) / den) → halfAway num den = halfEven num den) ∧
      (TiesAtEven ((num : ℚ) / den) → halfAway num den = halfEven num den + 1) := by
  obtain ⟨below, f, whole, nonneg, lt, cases⟩ := quotient_cases num pos
  rw [whole, tiesAtEven_iff nonneg lt, Nat.even_iff]
  obtain ⟨less, even, away⟩ | ⟨more, even, away⟩ | ⟨half, even, away⟩ := cases
  · exact ⟨fun _ => by rw [even, away], fun tie => absurd tie.1 less.ne⟩
  · exact ⟨fun _ => by rw [even, away], fun tie => absurd tie.1 more.ne'⟩
  · exact ⟨fun odd => by simp [half] at odd; omega, fun tie => by omega⟩

/-! ## Signs -/

theorem abs_signed (negative : Bool) (magnitude den : Nat) :
    |(signed negative magnitude : ℚ) / den| = (magnitude : ℚ) / den := by
  cases negative <;> simp [signed, abs_div]

theorem nearestEven_signed_iff {num den : Nat} (pos : 0 < den) (negative : Bool) (j : ℤ) :
    NearestEven ((signed negative num : ℚ) / den) j ↔ j = signed negative (halfEven num den) := by
  obtain ⟨near, tie⟩ := @abs_sub_halfEven num den pos
  have distance : |(signed negative num : ℚ) / den - (signed negative (halfEven num den) : ℤ)| =
      |(num : ℚ) / den - halfEven num den| := by
    cases negative with
    | false => simp [signed]
    | true =>
        rw [← abs_neg]
        congr 1
        simp [signed]
        ring
  refine nearestEven_iff (distance ▸ near) (fun half => ?_) j
  have even := tie (distance ▸ half)
  cases negative <;> simpa [signed] using even

end FilterQuery.Rounding
