import FilterQuery.Number.Decimal
import FilterQuery.Number.Shortest
import FilterQuery.Proofs.Fragment.Renumbered
import FilterQuery.Proofs.Json.Grammar
import Mathlib.Algebra.Order.Field.Rat

/-! # Numbers as they are written

The texts of integers, decimals and finite floats are numerals of the grammar. Those of integers
and decimals denote them exactly.
-/

namespace FilterQuery

open Json Rounding Text

namespace Json

namespace Numeral

/-- The power of ten that the digits are multiplied with. -/
def power (n : Numeral) : ℤ :=
  let written : ℤ := match n.exponent with
    | none => 0
    | some (negative, digits) => signed negative (decimalValue digits)
  written - n.fraction.length

/-- The number that a numeral denotes. -/
def toRat (n : Numeral) : ℚ :=
  (signed n.negative (decimalValue (n.whole ++ n.fraction)) : ℚ) * 10 ^ n.power

end Numeral

/-- A run of digits that can stand in front of the point. -/
def WholePart (digits : List Char) : Prop :=
  DigitRun digits ∧ (digits.head? = some '0' → digits = ['0'])

/-- A text that a sign can stand in front of. -/
def Unsigned (s : List Char) : Prop :=
  ∃ whole fraction exponent f e, WholePart whole ∧ FractionText fraction f ∧
    ExponentText exponent e ∧ s = whole ++ (f ++ e)

theorem Unsigned.exists_numeral {s : List Char} (h : Unsigned s) (negative : Bool) :
    ∃ n, NumeralText n ((if negative then ['-'] else []) ++ s) := by
  obtain ⟨whole, fraction, exponent, f, e, ⟨digits, alone⟩, point, power, rfl⟩ := h
  exact ⟨_, .parts digits alone point power⟩

theorem Unsigned.positional {s whole places : List Char} (front : WholePart whole)
    (behind : DigitRun places) (text : s = whole ++ '.' :: places) : Unsigned s := by
  subst text
  exact ⟨whole, places, none, '.' :: places, [], front, .present behind, .absent, by simp⟩

/-! ## Runs of digits -/

theorem digits_toDigits (n : Nat) : DigitRun (Nat.toDigits 10 n) :=
  ⟨Nat.toDigits_ne_nil, Lexer.isDigit_toDigits n⟩

theorem eq_zero_of_head_toDigits {n : Nat} (h : (Nat.toDigits 10 n).head? = some '0') : n = 0 := by
  induction n using Nat.strongRecOn with
  | ind n ih =>
      by_cases small : n < 10
      · have all : ∀ d < 10, Nat.digitChar d = '0' → d = 0 := by decide
        rw [Nat.toDigits_of_lt_base small] at h
        exact all n small (Option.some.inj h)
      · have split := Nat.toDigits_of_base_le (b := 10) (by decide) (Nat.le_of_not_lt small)
        rw [split, List.head?_append] at h
        obtain ⟨c, rest, front⟩ := List.exists_cons_of_ne_nil (digits_toDigits (n / 10)).1
        have := ih (n / 10) (by omega) (by rw [front] at h ⊢; exact h)
        omega

theorem wholePart_toDigits (n : Nat) : WholePart (Nat.toDigits 10 n) := by
  refine ⟨digits_toDigits n, fun zero => ?_⟩
  rw [eq_zero_of_head_toDigits zero]
  rfl

theorem isDigit_zeros (count : Nat) : ∀ c ∈ List.replicate count '0', c.isDigit = true := by
  intro c member
  rw [List.eq_of_mem_replicate member]
  rfl

end Json

/-! ## Integers -/

theorem toList_toString_int (n : ℤ) :
    (toString n).toList = (if n < 0 then ['-'] else []) ++ Nat.toDigits 10 n.natAbs := by
  cases n with
  | ofNat m =>
      have nonneg : ¬ (Int.ofNat m < 0) := Int.not_lt.2 (Int.natCast_nonneg m)
      rw [if_neg nonneg]
      exact Nat.toList_repr
  | negSucc m =>
      rw [if_pos (Int.negSucc_lt_zero m)]
      exact String.toList_append.trans (congrArg _ Nat.toList_repr)

theorem exists_numeral_int (n : ℤ) : ∃ m, NumeralText m (toString n).toList ∧ m.toRat = n := by
  obtain ⟨digits, alone⟩ := wholePart_toDigits n.natAbs
  let m : Numeral := { negative := decide (n < 0), whole := Nat.toDigits 10 n.natAbs }
  have text : NumeralText m (toString n).toList := by
    rw [toList_toString_int]
    have text : NumeralText m _ := .parts digits alone .absent .absent
    simpa [m] using text
  have value : signed (decide (n < 0)) n.natAbs = n := by
    by_cases neg : n < 0
    · rw [decide_eq_true neg, signed, if_pos rfl]
      omega
    · rw [decide_eq_false neg, signed, if_neg Bool.false_ne_true]
      omega
  exact ⟨m, text, by simp [m, Numeral.toRat, Numeral.power, Lexer.decimalValue_toDigits, value]⟩

/-! ## Decimals -/

/-- The digits of `n`, with as many zeros in front as a whole part and `places` digits need. -/
def filled (places n : Nat) : List Char :=
  List.replicate (places + 1 - (Nat.toDigits 10 n).length) '0' ++ Nat.toDigits 10 n

theorem length_filled (places n : Nat) :
    (filled places n).length = max (places + 1) (Nat.toDigits 10 n).length := by
  simp only [filled, List.length_append, List.length_replicate]
  omega

theorem isDigit_filled (places n : Nat) : ∀ c ∈ filled places n, c.isDigit = true :=
  List.forall_mem_append.2 ⟨isDigit_zeros _, (digits_toDigits n).2⟩

theorem wholePart_take_filled (places n : Nat) :
    WholePart ((filled places n).take ((filled places n).length - places)) := by
  have size := length_filled places n
  refine ⟨⟨fun none => ?_, fun c member => isDigit_filled places n c (List.mem_of_mem_take member)⟩,
    fun zero => ?_⟩
  · have := congrArg List.length none
    simp only [List.length_take, List.length_nil] at this
    omega
  · by_cases short : (Nat.toDigits 10 n).length ≤ places
    · -- one zero is left in front of the places
      have one : (filled places n).length - places = 1 := by omega
      have due : 1 ≤ places + 1 - (Nat.toDigits 10 n).length := by omega
      obtain ⟨more, enough⟩ := Nat.exists_eq_add_of_le' due
      rw [one, filled, enough, List.replicate_succ]
      rfl
    · have same : filled places n = Nat.toDigits 10 n := by
        rw [filled, Nat.sub_eq_zero_of_le (Nat.lt_of_not_le short)]
        rfl
      rw [List.head?_take, if_neg (by omega), same] at zero
      obtain rfl := eq_zero_of_head_toDigits zero
      obtain rfl : places = 0 := Nat.lt_one_iff.1 (Nat.lt_of_not_le short)
      rfl

namespace Decimal

/-- The digits in front of the point. -/
def whole (d : Decimal) : List Char :=
  let digits := filled d.scale d.mantissa
  digits.take (digits.length - d.scale)

/-- The digits behind the point. -/
def places (d : Decimal) : List Char :=
  let digits := filled d.scale d.mantissa
  digits.drop (digits.length - d.scale)

theorem toList_toText (d : Decimal) :
    d.toText.toList = (if d.negative then ['-'] else []) ++
      (d.whole ++ ((if d.scale = 0 then [] else ['.']) ++ d.places)) := by
  simp only [toText, String.toList_append, String.toList_ofList, List.append_assoc]
  refine congrArg₂ _ ?_ (congrArg₂ _ ?_ (congrArg₂ _ ?_ ?_))
  · cases d.negative <;> rfl
  · simp [whole, filled]
  · split <;> rfl
  · simp [places, filled]

theorem length_places (d : Decimal) : d.places.length = d.scale := by
  have size := length_filled d.scale d.mantissa
  simp only [places, List.length_drop]
  omega

theorem fractionText_places (d : Decimal) :
    FractionText d.places ((if d.scale = 0 then [] else ['.']) ++ d.places) := by
  have size := d.length_places
  by_cases integral : d.scale = 0
  · rw [if_pos integral, List.length_eq_zero_iff.1 (size.trans integral)]
    exact .absent
  · rw [if_neg integral]
    exact .present ⟨List.length_pos_iff.1 (by omega), fun c member =>
      isDigit_filled d.scale d.mantissa c (List.mem_of_mem_drop member)⟩

/-- A numeral that denotes the decimal, with all of its places. -/
structure WrittenAs (d : Decimal) (n : Numeral) : Prop where
  negative : n.negative = d.negative
  places : n.fraction.length = d.scale
  mantissa : decimalValue (n.whole ++ n.fraction) = d.mantissa
  exponent : n.exponent = none

theorem exists_numeral (d : Decimal) : ∃ n, NumeralText n d.toText.toList ∧ d.WrittenAs n := by
  obtain ⟨digits, alone⟩ := wholePart_take_filled d.scale d.mantissa
  let n : Numeral := { negative := d.negative, whole := d.whole, fraction := d.places }
  have text : NumeralText n _ := .parts digits alone d.fractionText_places .absent
  refine ⟨n, ?_, rfl, d.length_places, ?_, rfl⟩
  · rw [toList_toText]
    simpa [n] using text
  · calc
      decimalValue (d.whole ++ d.places) = decimalValue (filled d.scale d.mantissa) :=
        congrArg _ (List.take_append_drop _ _)
      _ = d.mantissa := by rw [filled, Lexer.decimalValue_zeros, Lexer.decimalValue_toDigits]

end Decimal

/-! ## Floats -/

namespace Digits

theorem toList_zeros (n : Nat) : (zeros n).toList = List.replicate n '0' :=
  String.toList_ofList

theorem exponentText (e : ℤ) :
    ∃ exponent, ExponentText exponent
      ('e' :: ((if e < 0 then "-" else "+").toList ++ (toString e.natAbs).toList)) := by
  have digits : (toString e.natAbs).toList = Nat.toDigits 10 e.natAbs := Nat.toList_repr
  have signed : (decide (e < 0), (if e < 0 then "-" else "+").toList) ∈ exponentSigns := by
    by_cases neg : e < 0 <;> simp [neg, exponentSigns]
  rw [digits]
  exact ⟨_, .present List.mem_cons_self signed (digits_toDigits e.natAbs)⟩

variable {d : Digits}

theorem exists_digits (nonzero : d.coefficient ≠ 0) :
    ∃ c rest, (toString d.coefficient).toList = c :: rest ∧ c ≠ '0' ∧ c.isDigit = true ∧
      ∀ c ∈ rest, c.isDigit = true := by
  have same : (toString d.coefficient).toList = Nat.toDigits 10 d.coefficient := Nat.toList_repr
  obtain ⟨some, all⟩ := digits_toDigits d.coefficient
  obtain ⟨c, rest, front⟩ := List.exists_cons_of_ne_nil some
  rw [front] at all
  refine ⟨c, rest, same.trans front, ?_, List.forall_mem_cons.1 all⟩
  rintro rfl
  exact nonzero (eq_zero_of_head_toDigits (by rw [front]; rfl))

/-- The shortest digits are laid out as a numeral, whatever the size of the number. -/
theorem unsigned_layout (nonzero : d.coefficient ≠ 0) : Unsigned d.layout.toList := by
  obtain ⟨c, rest, front, leading, digit, all⟩ := exists_digits nonzero
  have only : ∀ x ∈ c :: rest, x.isDigit = true := List.forall_mem_cons.2 ⟨digit, all⟩
  have wholePart {more : List Char} (h : ∀ x ∈ more, x.isDigit = true) : WholePart (c :: more) :=
    ⟨⟨List.cons_ne_nil c more, List.forall_mem_cons.2 ⟨digit, h⟩⟩,
      fun zero => absurd (Option.some.inj zero) leading⟩
  simp only [layout, front]
  generalize d.exponent + ((c :: rest).length : ℤ) - 1 = e
  split
  · split
    · -- zeros stand between the point and the digits
      have behind : DigitRun (List.replicate (-e - 1).toNat '0' ++ c :: rest) :=
        ⟨by simp, List.forall_mem_append.2 ⟨isDigit_zeros _, only⟩⟩
      exact .positional (wholePart_toDigits 0) behind (by simp [toList_zeros])
    · obtain ⟨k, rfl⟩ := Int.eq_ofNat_of_zero_le (Int.not_lt.1 ‹¬e < 0›)
      split
      · -- zeros stand between the digits and the point
        have filled := isDigit_zeros (k + 1 - (c :: rest).length)
        have front := wholePart (List.forall_mem_append.2 ⟨all, filled⟩)
        exact .positional front (digits_toDigits 0) (by simp [toList_zeros])
      · rename_i fits
        have size : k + 1 < (c :: rest).length := by omega
        have front := wholePart (fun x member => all x (List.mem_of_mem_take (i := k) member))
        have behind : DigitRun (rest.drop k) :=
          ⟨List.drop_eq_nil_iff.not.2 (by simp at size; omega),
            fun x member => all x (List.mem_of_mem_drop member)⟩
        exact .positional front behind (by simp)
  · obtain ⟨exponent, power⟩ := exponentText e
    have lone : WholePart [c] := wholePart (by simp)
    cases rest with
    | nil => exact ⟨_, _, _, _, _, lone, .absent, power, by simp⟩
    | cons x rest =>
        exact ⟨_, _, _, _, _, lone, .present ⟨List.cons_ne_nil x rest, all⟩, power, by simp⟩

end Digits

namespace Binary64

variable {x : Binary64}

theorem significand_pos (nonzero : x.isZero = false) : 0 < x.significand := by
  have bits : ¬ x.bits.toNat % 2 ^ 63 = 0 := by simpa [isZero] using nonzero
  unfold significand
  split
  · have exponent : x.bits.toNat / 2 ^ 52 % 2 ^ 11 = 0 := ‹x.exponentField = 0›
    change 0 < x.bits.toNat % 2 ^ 52
    omega
  · exact Nat.add_pos_left (Nat.two_pow_pos 52) _

theorem readsBack_zero (nonzero : x.isZero = false) (e : ℤ) : x.readsBack ⟨0, e⟩ = false := by
  have low : Digits.compareRatio ⟨0, e⟩
      (4 * x.units - if x.fractionField = 0 ∧ 1 < x.exponentField then Nat.pow 2 x.spacing
        else 2 * Nat.pow 2 x.spacing) (4 * unitsPerOne) = .lt := by
    have some := significand_pos nonzero
    have gap : 0 < Nat.pow 2 x.spacing := Nat.two_pow_pos _
    have units : Nat.pow 2 x.spacing ≤ x.units := Nat.le_mul_of_pos_left _ some
    simp only [Digits.compareRatio, Nat.zero_mul, Nat.compare_eq_lt]
    refine Nat.mul_pos ?_ (Nat.pow_pos (by decide))
    split <;> omega
  simp only [readsBack, low]
  simp

theorem readsBack_of_onGrid? {e : ℤ} {d : Digits} (found : x.onGrid? e = some d) :
    x.readsBack d = true := by
  unfold onGrid? at found
  extract_lets num den down up upward at found
  split at found
  · rename_i back
    rw [← Option.some.inj found]
    exact (Bool.and_eq_true_iff.1 back).1
  · obtain ⟨back, same⟩ := Option.ite_none_right_eq_some.1 found
    rw [← Option.some.inj same]
    exact back

theorem strip_ne_zero (d : Digits) (count : Nat) (nonzero : d.coefficient ≠ 0) :
    (d.strip count).coefficient ≠ 0 := by
  induction count generalizing d with
  | zero => exact nonzero
  | succ count ih =>
      rw [Digits.strip]
      split
      · exact ih _ (by simp only; omega)
      · exact nonzero

theorem unitsPerOne_bounds : 0 < unitsPerOne ∧ unitsPerOne ≤ Nat.pow 10 1074 := by
  unfold unitsPerOne
  generalize 1074 = p
  exact ⟨Nat.two_pow_pos p, Nat.pow_le_pow_left (by decide) p⟩

theorem shortest_ne_zero (nonzero : x.isZero = false) : x.shortest.coefficient ≠ 0 := by
  refine strip_ne_zero _ _ ?_
  cases found : (List.range 17).findSome? fun (i : Nat) => x.onGrid? (x.leadingPower - i) with
  | some d =>
      obtain ⟨_, _, _, _, grid, _⟩ := List.findSome?_eq_some_iff.1 found
      intro zero
      have back := readsBack_of_onGrid? grid
      obtain ⟨c, e⟩ := d
      obtain rfl : c = 0 := zero
      rw [readsBack_zero nonzero] at back
      cases back
  | none =>
      have some := significand_pos nonzero
      have units : 0 < x.units := Nat.mul_pos some (Nat.two_pow_pos _)
      obtain ⟨pos, le⟩ := unitsPerOne_bounds
      exact (Nat.div_pos (le.trans (Nat.le_mul_of_pos_left _ units)) pos).ne'

theorem exists_numeral (x : Binary64) : ∃ n, NumeralText n x.toText.toList := by
  have unsigned : Unsigned (if x.isZero then "0.0" else x.shortest.layout).toList := by
    split
    · exact .positional (wholePart_toDigits 0) (digits_toDigits 0) rfl
    · rename_i nonzero
      exact Digits.unsigned_layout (shortest_ne_zero (Bool.eq_false_iff.2 nonzero))
  obtain ⟨n, text⟩ := unsigned.exists_numeral x.isNegative
  refine ⟨n, ?_⟩
  rw [toText, String.toList_append]
  cases negative : x.isNegative <;> rw [negative] at text <;> exact text

end Binary64

end FilterQuery
