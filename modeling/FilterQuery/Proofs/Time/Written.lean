import FilterQuery.Proofs.Json.Numerals
import FilterQuery.Proofs.Time.Calendar
import FilterQuery.Time.Timestamp

/-! # Timestamps as they are written

A timestamp is written as RFC 3339 has it, at offset zero. The date is one of the calendar, date and
time of day together denote the second, and the places behind it denote the nanoseconds.
-/

namespace FilterQuery

open Json Rounding Text

/-- The number in exactly as many digits. -/
structure DigitsOf (width n : ℕ) (digits : List Char) : Prop where
  length_eq : digits.length = width
  isDigit : ∀ c ∈ digits, c.isDigit = true
  value : decimalValue digits = n

/-- The number in at least four digits, and in no more than it needs. -/
def FourOrMore (n : ℕ) (digits : List Char) : Prop :=
  ∃ more, DigitsOf (4 + more) n digits ∧ (more = 0 ∨ 10 ^ (3 + more) ≤ n)

/-- A year of four digits. A year that does not fit in them has a sign. -/
inductive YearText : ℤ → List Char → Prop where
  | plain {n digits} : DigitsOf 4 n digits → YearText n digits
  | later {n digits} : 9999 < n → FourOrMore n digits → YearText n ('+' :: digits)
  | earlier {n digits} : 0 < n → FourOrMore n digits → YearText (-n) ('-' :: digits)

inductive DateText : Date → List Char → Prop where
  | parts {date : Date} {year month day} : date.Valid → YearText date.year year →
      DigitsOf 2 date.month month → DigitsOf 2 date.day day →
      DateText date (year ++ '-' :: (month ++ '-' :: day))

/-- The second of a day. A leap second has the number of the second that it follows and one more,
    so at the end of a minute 60. -/
inductive ClockText (leap : Bool) : ℕ → List Char → Prop where
  | parts {hour minute second h m s} : hour < 24 → minute < 60 → second < 60 →
      DigitsOf 2 hour h → DigitsOf 2 minute m →
      DigitsOf 2 (if leap then second + 1 else second) s →
      ClockText leap ((hour * 60 + minute) * 60 + second) (h ++ ':' :: (m ++ ':' :: s))

/-- The fraction of a second: none, or the fewest of three, six and nine places that are exact. -/
inductive PlacesText (nanoseconds : ℕ) : List Char → Prop where
  | absent : nanoseconds = 0 → PlacesText nanoseconds []
  | present {width n digits} : width ∈ [3, 6, 9] → DigitsOf width n digits →
      n * 10 ^ (9 - width) = nanoseconds →
      (∀ fewer ∈ [0, 3, 6], fewer < width → ¬10 ^ (9 - fewer) ∣ nanoseconds) →
      PlacesText nanoseconds ('.' :: digits)

/-- The texts of RFC 3339 that denote a timestamp. -/
inductive Timestamp.WrittenAs (t : Timestamp) : List Char → Prop where
  | parts {date ofDay d c places} : DateText date d →
      ClockText (decide (10 ^ 9 ≤ t.nanoseconds)) ofDay c →
      t.seconds = 86400 * date.dayNumber + ofDay →
      PlacesText (t.nanoseconds % 10 ^ 9) places →
      t.WrittenAs (d ++ 'T' :: (c ++ (places ++ ['+', '0', '0', ':', '0', '0'])))

/-! ## Digits -/

namespace Text

theorem toList_padded (width n : ℕ) :
    (padded width n).toList =
      List.replicate (width - (Nat.toDigits 10 n).length) '0' ++ Nat.toDigits 10 n := by
  have digits : (toString n).toList = Nat.toDigits 10 n := Nat.toList_repr
  rw [padded, digits, String.toList_ofList]

theorem digitsOf_padded_max (width n : ℕ) :
    DigitsOf (max width (Nat.toDigits 10 n).length) n (padded width n).toList := by
  rw [toList_padded]
  constructor
  · rw [List.length_append, List.length_replicate]
    omega
  · exact List.forall_mem_append.2 ⟨isDigit_zeros _, (digits_toDigits n).2⟩
  · rw [Lexer.decimalValue_zeros, Lexer.decimalValue_toDigits]

theorem digitsOf_padded {width n : ℕ} (some : 0 < width) (fits : n < 10 ^ width) :
    DigitsOf width n (padded width n).toList := by
  have short := (Nat.length_toDigits_le_iff (by decide : 1 < 10) some).2 fits
  have digits := digitsOf_padded_max width n
  rwa [max_eq_left short] at digits

end Text

open Timestamp

theorem FourOrMore.written (n : ℕ) : FourOrMore n (padded 4 n).toList := by
  have digits := digitsOf_padded_max 4 n
  refine ⟨(Nat.toDigits 10 n).length - 4, by rwa [add_tsub_eq_max], ?_⟩
  by_cases short : (Nat.toDigits 10 n).length ≤ 4
  · exact .inl (Nat.sub_eq_zero_of_le short)
  · right
    refine Nat.not_lt.1 fun small => ?_
    have fits := (Nat.length_toDigits_le_iff (by decide : 1 < 10) (by omega)).2 small
    omega

theorem YearText.written (year : ℤ) : YearText year (yearText year).toList := by
  unfold yearText
  split
  · rename_i plain
    obtain ⟨n, rfl⟩ := Int.eq_ofNat_of_zero_le plain.1
    exact .plain (digitsOf_padded (by decide) (by omega))
  · rename_i outside
    rw [String.toList_append]
    obtain ⟨n, rfl | rfl⟩ := year.eq_nat_or_neg
    · rw [if_neg (by omega), Int.natAbs_natCast]
      exact .later (by omega) (.written n)
    · rw [if_pos (by omega), Int.natAbs_neg, Int.natAbs_natCast]
      exact .earlier (by omega) (.written n)

theorem PlacesText.written {nanoseconds : ℕ} (h : nanoseconds < 10 ^ 9) :
    PlacesText nanoseconds (fractionText nanoseconds).toList := by
  have some : ∀ width ∈ [3, 6, 9], 0 < width := by decide
  have places {width n : ℕ} (three : width ∈ [3, 6, 9]) (fits : n < 10 ^ width)
      (exact : n * 10 ^ (9 - width) = nanoseconds)
      (fewest : ∀ fewer ∈ [0, 3, 6], fewer < width → ¬10 ^ (9 - fewer) ∣ nanoseconds) :
      PlacesText nanoseconds ("." ++ padded width n).toList := by
    rw [String.toList_append]
    exact .present three (digitsOf_padded (some width three) fits) exact fewest
  unfold fractionText
  split
  · rename_i none
    exact .absent none
  · split
    · exact places (by decide) (by omega) (by omega) (by simp; omega)
    · split
      · exact places (by decide) (by omega) (by omega) (by simp; omega)
      · exact places (by decide) h (by omega) (by simp; omega)

theorem ClockText.written (leap : Bool) {ofDay : ℕ} (h : ofDay < 86400) :
    ClockText leap ofDay
      ((padded 2 (ofDay / 3600)).toList ++ ':' :: ((padded 2 (ofDay / 60 % 60)).toList ++
        ':' :: (padded 2 (if leap then ofDay % 60 + 1 else ofDay % 60)).toList)) := by
  have split : ofDay = (ofDay / 3600 * 60 + ofDay / 60 % 60) * 60 + ofDay % 60 := by omega
  have text : ClockText leap ((ofDay / 3600 * 60 + ofDay / 60 % 60) * 60 + ofDay % 60) _ :=
    .parts (by omega) (by omega) (by omega) (digitsOf_padded Nat.two_pos (by omega))
      (digitsOf_padded Nat.two_pos (by omega))
      (digitsOf_padded Nat.two_pos (by split <;> omega))
  rwa [← split] at text

theorem Date.daysOfMonth_le (year : ℤ) (month : ℕ) : daysOfMonth year month ≤ 31 := by
  unfold daysOfMonth
  split
  · split <;> decide
  all_goals decide

theorem DateText.written {date : Date} (h : date.Valid) :
    DateText date ((yearText date.year).toList ++ '-' :: ((padded 2 date.month).toList ++
      '-' :: (padded 2 date.day).toList)) := by
  have month := h.month_le
  have day := h.day_le.trans (Date.daysOfMonth_le _ _)
  exact .parts h (.written _) (digitsOf_padded Nat.two_pos (by omega))
    (digitsOf_padded Nat.two_pos (by omega))

theorem Timestamp.writtenAs_toText (t : Timestamp) : t.WrittenAs t.toText.toList := by
  have nonneg := Int.fmod_nonneg_of_pos t.seconds (b := 86400) (by decide)
  have small := Int.fmod_lt_of_pos t.seconds (b := 86400) (by decide)
  have whole := Int.mul_fdiv_add_fmod t.seconds 86400
  obtain ⟨ofDay, same⟩ := Int.eq_ofNat_of_zero_le nonneg
  rw [same] at small whole
  have date := DateText.written (Date.valid_ofDayNumber (t.seconds.fdiv 86400))
  have clock := ClockText.written (decide (10 ^ 9 ≤ t.nanoseconds)) (Int.ofNat_lt.1 small)
  have places := PlacesText.written (Nat.mod_lt t.nanoseconds (by decide : 0 < 10 ^ 9))
  have count : t.seconds = 86400 * (Date.ofDayNumber (t.seconds.fdiv 86400)).dayNumber + ofDay := by
    rw [Date.dayNumber_ofDayNumber]
    exact whole.symm
  have text := WrittenAs.parts date clock count places
  have second : (if decide (10 ^ 9 ≤ t.nanoseconds) then ofDay % 60 + 1 else ofDay % 60) =
      ofDay % 60 + t.nanoseconds / 1000000000 := by
    have := t.nanoseconds_lt
    simp only [decide_eq_true_eq]
    split <;> omega
  rw [second] at text
  simpa [toText, same] using text

end FilterQuery
