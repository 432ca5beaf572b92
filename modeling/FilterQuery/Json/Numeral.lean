import FilterQuery.Json.Problem
import FilterQuery.Number.Binary64
import FilterQuery.Text.Digits

/-! # JSON numbers

A numeral is read by its grammar first (`Numeral.read`); its value comes second. Integers of
64 bits keep their value. Other numbers become doubles by a short computation that is not
always correctly rounded: as many leading digits as fit 64 bits, scaled by a power of ten.
-/

namespace FilterQuery.Json

/-- The parts of a number as it is written. -/
structure Numeral where
  negative : Bool
  whole : List Char
  /-- The digits after the point, none if there is no point. -/
  fraction : List Char := []
  /-- Whether the exponent is negative, and its digits. -/
  exponent : Option (Bool × List Char) := none
  deriving Repr, DecidableEq

/-- The value of a number: an integer, or a double. -/
inductive Number where
  | integer (n : Int)
  | float (x : Binary64)
  deriving Repr, DecidableEq

namespace Numeral

open Text

/-- Reads at least one digit. The problem at the end of the text is the caller's to name. -/
def readDigits (atEnd : Problem) (s : List Char) : Except Problem (List Char × List Char) :=
  match s with
  | [] => .error atEnd
  | c :: rest =>
      if c.isDigit then .ok (c :: rest.takeWhile Char.isDigit, rest.dropWhile Char.isDigit)
      else .error .invalidNumber

/-- Whether a minus stands in front, and what follows an optional sign. -/
def splitSign : List Char → Bool × List Char
  | '+' :: rest => (false, rest)
  | '-' :: rest => (true, rest)
  | s => (false, s)

/-- Reads the exponent, if there is one. -/
def readExponent (atEnd : Problem) (s : List Char) :
    Except Problem (Option (Bool × List Char) × List Char) :=
  match s with
  | c :: rest =>
      if c = 'e' ∨ c = 'E' then
        match readDigits atEnd (splitSign rest).2 with
        | .error p => .error p
        | .ok (digits, after) => .ok (some ((splitSign rest).1, digits), after)
      else .ok (none, s)
  | [] => .ok (none, s)

/-- Reads point and fraction, if there are any. -/
def readFraction (atEnd : Problem) (s : List Char) : Except Problem (List Char × List Char) :=
  match s with
  | '.' :: rest => readDigits atEnd rest
  | _ => .ok ([], s)

/-- Reads a number. A zero may not be followed by another digit. -/
def read (atEnd : Problem) (s : List Char) : Except Problem (Numeral × List Char) :=
  let (negative, unsigned) :=
    match s with
    | '-' :: rest => (true, rest)
    | _ => (false, s)
  match readDigits atEnd unsigned with
  | .error p => .error p
  | .ok (whole, rest) =>
      if whole.head? = some '0' ∧ whole ≠ ['0'] then .error .invalidNumber
      else
        match readFraction atEnd rest with
        | .error p => .error p
        | .ok (fraction, rest) =>
            match readExponent atEnd rest with
            | .error p => .error p
            | .ok (exponent, rest) => .ok ({ negative, whole, fraction, exponent }, rest)

theorem length_readDigits_lt {atEnd : Problem} {s digits rest : List Char}
    (h : readDigits atEnd s = .ok (digits, rest)) : rest.length < s.length := by
  unfold readDigits at h
  split at h
  · simp at h
  · split at h
    · simp only [Except.ok.injEq, Prod.mk.injEq] at h
      have := (List.dropWhile_suffix (l := ‹List Char›) Char.isDigit).length_le
      rw [← h.2]
      simp; omega
    · simp at h

theorem length_splitSign_le (s : List Char) : (splitSign s).2.length ≤ s.length := by
  unfold splitSign
  split <;> simp

theorem length_readFraction_le {atEnd : Problem} {s digits rest : List Char}
    (h : readFraction atEnd s = .ok (digits, rest)) : rest.length ≤ s.length := by
  unfold readFraction at h
  split at h
  · have := length_readDigits_lt h
    simp; omega
  · simp_all

theorem length_readExponent_le {atEnd : Problem} {s rest : List Char}
    {e : Option (Bool × List Char)} (h : readExponent atEnd s = .ok (e, rest)) :
    rest.length ≤ s.length := by
  unfold readExponent at h
  split at h
  · split at h
    · split at h
      · simp at h
      · rename_i hd
        simp only [Except.ok.injEq, Prod.mk.injEq] at h
        have hlt := length_readDigits_lt hd
        rename_i rest _ _ _ _
        have hle := length_splitSign_le rest
        rw [← h.2]
        simp only [List.length_cons]
        omega
    · simp_all
  · simp_all

theorem length_read_lt {atEnd : Problem} {s rest : List Char} {n : Numeral}
    (h : read atEnd s = .ok (n, rest)) : rest.length < s.length := by
  simp only [read] at h
  split at h
  · simp at h
  · rename_i hw
    split at h
    · simp at h
    · split at h
      · simp at h
      · rename_i hf
        split at h
        · simp at h
        · rename_i he
          simp only [Except.ok.injEq, Prod.mk.injEq] at h
          have h1 := length_readDigits_lt hw
          have h2 := length_readFraction_le hf
          have h3 := length_readExponent_le he
          rw [h.2] at h3
          split at h1 <;> simp at h1 ⊢ <;> omega

/-- The largest integer of 64 bits. -/
def maxSignificand : Nat := Nat.pow 2 64 - 1

/-- Collects the digits of the whole part: the leading ones that fit 64 bits, and the
    number of those that do not. -/
def collectWhole (digits : List Char) : Nat × Nat :=
  digits.foldl (fun (significand, dropped) c =>
    if dropped = 0 ∧ significand * 10 + digitValue c ≤ maxSignificand then
      (significand * 10 + digitValue c, 0)
    else (significand, dropped + 1)) (0, 0)

/-- Collects the digits of the fraction, up to the first that does not fit: the new
    significand, and the number of digits taken. -/
def collectFraction (significand : Nat) : List Char → Nat × Nat
  | [] => (significand, 0)
  | c :: rest =>
      if significand * 10 + digitValue c ≤ maxSignificand then
        let (total, taken) := collectFraction (significand * 10 + digitValue c) rest
        (total, taken + 1)
      else (significand, 0)

/-- Scales a double by a power of ten, in steps that a power of ten can express. There is
    no result above the largest double. -/
def scale? (x : Binary64) (e : Int) : Option Binary64 :=
  if 0 ≤ e then
    if e ≤ 308 then
      let y := x.mulMagnitude (.ofNat (Nat.pow 10 e.toNat))
      if y.isFinite then some y else none
    else if x.isZero then some x
    else none
  else if -308 ≤ e then some (x.divMagnitude (.ofNat (Nat.pow 10 (-e).toNat)))
  else if x.isZero then some x
  else scale? (x.divMagnitude (.ofNat (Nat.pow 10 308))) (e + 308)
termination_by e.natAbs

/-- The largest exponent that is counted; beyond it a number is zero or out of range. -/
def maxExponent : Nat := Nat.pow 2 31 - 1

/-- The magnitude of the number as a double. -/
def magnitude64? (n : Numeral) : Option Binary64 :=
  let (whole, dropped) := collectWhole n.whole
  let (significand, taken) := collectFraction whole n.fraction
  let start : Int := dropped - taken
  match n.exponent with
  | none => scale? (.ofNat significand) start
  | some (negative, digits) =>
      if maxExponent < decimalValue digits then
        if significand ≠ 0 ∧ !negative then none else some (.ofNat 0)
      else
        let shift := Rounding.signed negative (decimalValue digits)
        scale? (.ofNat significand) (start + shift)

/-- The value of the number. Without fraction and exponent it is an integer as long as it
    fits 64 bits, with or without sign; minus zero is a double. -/
def value? (n : Numeral) : Option Number :=
  let (whole, dropped) := collectWhole n.whole
  if n.fraction = [] ∧ n.exponent = none ∧ dropped = 0
      ∧ (!n.negative ∨ (whole ≠ 0 ∧ whole ≤ Nat.pow 2 63)) then
    some (.integer (Rounding.signed n.negative whole))
  else n.magnitude64?.map fun x => .float (if n.negative then x.neg else x)

end Numeral

end FilterQuery.Json
