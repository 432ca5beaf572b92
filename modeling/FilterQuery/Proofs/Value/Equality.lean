import FilterQuery.Proofs.Value.Integer

/-! # Equality of values

Two values are equal if they have the same key, and a NaN has none. So equality is symmetric and
transitive, and a NaN alone is not equal to itself.
-/

namespace FilterQuery

/-- The relation holds of two things that have the same key. What has no key is related to
    nothing. -/
def ComparesBy {α κ : Type} (r : α → α → Bool) (key? : α → Option κ) : Prop :=
  ∀ x y, r x y = true ↔ ∃ k, key? x = some k ∧ key? y = some k

namespace ComparesBy

variable {α κ : Type} {r : α → α → Bool} {key? : α → Option κ} {x y z : α}

theorem symm (h : ComparesBy r key?) (xy : r x y = true) : r y x = true := by
  obtain ⟨k, left, right⟩ := (h x y).1 xy
  exact (h y x).2 ⟨k, right, left⟩

theorem trans (h : ComparesBy r key?) (xy : r x y = true) (yz : r y z = true) : r x z = true := by
  obtain ⟨k, left, middle⟩ := (h x y).1 xy
  obtain ⟨l, middle', right⟩ := (h y z).1 yz
  cases middle.symm.trans middle'
  exact (h x z).2 ⟨k, left, right⟩

theorem self_iff (h : ComparesBy r key?) : r x x = true ↔ (key? x).isSome = true := by
  rw [h x x, Option.isSome_iff_exists]
  simp

end ComparesBy

namespace Binary64

/-- The bits of a number, the same for both zeros. A NaN is no number. -/
def key? (x : Binary64) : Option UInt64 :=
  if x.isNaN then none else if x.isZero then some 0 else some x.bits

theorem bits_ne_zero {x : Binary64} (h : x.isZero = false) : x.bits ≠ 0 := by
  intro zero
  simp [isZero, zero] at h

theorem isZero_congr {x y : Binary64} (h : x.bits = y.bits) : x.isZero = y.isZero := by
  simp only [isZero, h]

theorem equals_comparesBy : ComparesBy equals key? := by
  intro x y
  cases hx : x.isNaN with
  | true => simp [equals, key?, hx]
  | false =>
      cases hy : y.isNaN with
      | true => simp [equals, key?, hy]
      | false =>
          cases zx : x.isZero <;> cases zy : y.isZero <;> simp [equals, key?, hx, hy, zx, zy]
          case false.false => exact eq_comm
          case false.true =>
              have differ : x.bits ≠ y.bits := fun same => by simp [isZero_congr same, zy] at zx
              simp [differ, (bits_ne_zero zx).symm]
          case true.false =>
              have differ : x.bits ≠ y.bits := fun same => by simp [isZero_congr same, zy] at zx
              simp [differ, bits_ne_zero zy]

end Binary64

namespace Rounding

theorem signed_eq_signed_iff {s t : Bool} {a b : Nat} :
    signed s a = signed t b ↔ a = b ∧ (s = t ∨ a = 0) := by
  cases s <;> cases t <;> simp [signed] <;> omega

theorem signed_mul (s : Bool) (a b : Nat) : signed s a * b = signed s (a * b) := by
  cases s <;> simp [signed]

end Rounding

open Rounding

theorem Decimal.equals_iff {x y : Decimal} : x.equals y = true ↔ x.toRat = y.toRat := by
  have left : ((10 ^ x.scale : Nat) : ℚ) ≠ 0 := by positivity
  have right : ((10 ^ y.scale : Nat) : ℚ) ≠ 0 := by positivity
  rw [toRat, toRat, div_eq_div_iff left right]
  norm_cast
  rw [signed_mul, signed_mul, signed_eq_signed_iff]
  simp [equals]

namespace Value

/-- What equality looks at in a value. -/
inductive Key where
  | null
  | boolean (b : Bool)
  | integer (n : Int64)
  | float (bits : UInt64)
  | decimal (number : ℚ)
  | string (s : String)
  | timestamp (t : Timestamp)
  deriving DecidableEq

def key? : Value → Option Key
  | null => some .null
  | boolean b => some (.boolean b)
  | integer n => some (.integer n)
  | float x => x.key?.map .float
  | decimal d => some (.decimal d.toRat)
  | string s => some (.string s)
  | timestamp t => some (.timestamp t)

theorem equals_comparesBy : ComparesBy equals key? := by
  intro x y
  cases x <;> cases y <;> simp [equals, key?]
  case float.float x y => exact Binary64.equals_comparesBy x y
  case decimal.decimal a b => rw [Decimal.equals_iff, eq_comm]
  all_goals exact eq_comm

/-- The floats that are no numbers. -/
def isNaN : Value → Bool
  | float x => x.isNaN
  | _ => false

theorem isSome_key? (v : Value) : v.key?.isSome = !v.isNaN := by
  cases v with
  | float x =>
      cases nan : x.isNaN <;> cases zero : x.isZero <;>
        simp [key?, Binary64.key?, isNaN, nan, zero]
  | _ => rfl

theorem equals_self_iff {v : Value} : v.equals v = true ↔ v.isNaN = false := by
  rw [equals_comparesBy.self_iff, isSome_key?, Bool.not_eq_true']

theorem kindName_eq_of_equals {x y : Value} (h : x.equals y = true) : x.kindName = y.kindName := by
  cases x <;> cases y <;> first | rfl | cases h

/-! ## Lists of values -/

variable {xs ys zs : List Value}

theorem listEquals_iff :
    listEquals xs ys = true ↔ List.Forall₂ (fun x y => x.equals y = true) xs ys := by
  fun_induction listEquals xs ys with
  | case1 => simp
  | case2 x xs y ys ih => simp [ih]
  | case3 xs ys both one =>
      cases xs <;> cases ys
      case nil.nil => exact absurd rfl (both rfl)
      case cons.cons => exact absurd rfl (one _ _ _ _ rfl)
      all_goals simp

theorem listEquals_symm (h : listEquals xs ys = true) : listEquals ys xs = true :=
  listEquals_iff.2 ((listEquals_iff.1 h).imp fun _ _ => equals_comparesBy.symm).flip

theorem listEquals_trans (xy : listEquals xs ys = true) (yz : listEquals ys zs = true) :
    listEquals xs zs = true := by
  rw [listEquals_iff] at xy yz ⊢
  induction xy generalizing zs with
  | nil => exact yz
  | cons first _ ih =>
      cases yz with
      | cons second rest => exact .cons (equals_comparesBy.trans first second) (ih rest)

theorem listEquals_self_iff : listEquals xs xs = true ↔ ∀ v ∈ xs, v.isNaN = false := by
  rw [listEquals_iff, List.forall₂_same]
  simp only [equals_self_iff]

end Value

end FilterQuery
