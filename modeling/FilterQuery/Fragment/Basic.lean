/-! # Fragments of predicate text

A fragment is predicate text with numbered placeholders. It numbers its placeholders from
zero; where it ends up in a predicate, they are shifted by the number of values in front.
-/

namespace FilterQuery

/-- A segment of a fragment: text as it stands, or a reference to the value with this
    local number. -/
inductive Token where
  | text (s : String)
  | placeholder (n : UInt64)
  deriving Repr, DecidableEq

namespace Token

/-- The largest placeholder number. -/
def maxIndex : Nat := UInt64.size - 1

/-- A placeholder number shifted up; past the largest number it stays there. -/
def shiftIndex (n : UInt64) (offset : Nat) : UInt64 :=
  UInt64.ofNat (min (n.toNat + offset) maxIndex)

def shift (offset : Nat) : Token → Token
  | text s => text s
  | placeholder n => placeholder (shiftIndex n offset)

/-- How many values a token asks for: one more than its number. -/
def span : Token → Nat
  | text _ => 0
  | placeholder n => (shiftIndex n 1).toNat

def toText : Token → String
  | text s => s
  | placeholder n => "$" ++ toString n.toNat

theorem toNat_le_maxIndex (n : UInt64) : n.toNat ≤ maxIndex :=
  Nat.le_pred_of_lt n.toNat_lt

theorem toNat_shiftIndex (n : UInt64) (offset : Nat) :
    (shiftIndex n offset).toNat = min (n.toNat + offset) maxIndex := by
  rw [shiftIndex, UInt64.toNat_ofNat']
  exact Nat.mod_eq_of_lt (by simp only [maxIndex, UInt64.size]; omega)

@[simp] theorem shift_zero (t : Token) : t.shift 0 = t := by
  cases t with
  | text s => rfl
  | placeholder n =>
      refine congrArg placeholder (UInt64.toNat_inj.1 ?_)
      rw [toNat_shiftIndex]
      exact Nat.min_eq_left (toNat_le_maxIndex n)

/-- Two shifts come to one, also where the largest number stops them. -/
theorem shift_shift (first second : Nat) (t : Token) :
    (t.shift first).shift second = t.shift (first + second) := by
  cases t with
  | text s => rfl
  | placeholder n =>
      refine congrArg placeholder (UInt64.toNat_inj.1 ?_)
      simp only [toNat_shiftIndex]
      omega

end Token

structure Fragment where
  tokens : List Token
  deriving Repr, DecidableEq

namespace Fragment

/-- The fragment with every placeholder shifted up by `offset`. -/
def shift (f : Fragment) (offset : Nat) : Fragment :=
  ⟨f.tokens.map (·.shift offset)⟩

/-- One more than the highest placeholder number, or zero without placeholders. -/
def span (f : Fragment) : Nat :=
  f.tokens.foldr (fun t rest => max t.span rest) 0

def toText (f : Fragment) : String :=
  String.join (f.tokens.map Token.toText)

@[simp] theorem shift_zero (f : Fragment) : f.shift 0 = f := by
  simp [shift]

theorem shift_shift (f : Fragment) (first second : Nat) :
    (f.shift first).shift second = f.shift (first + second) := by
  simp [shift, Token.shift_shift]

end Fragment

end FilterQuery
