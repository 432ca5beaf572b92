import FilterQuery.Time.Date
import Mathlib.Algebra.BigOperators.Intervals
import Mathlib.Tactic.IntervalCases

/-! # The calendar

The rules of the calendar, as a count of days: every month has its length, and every fourth year a
leap day, but of the full centuries only every fourth. The date of a day number is a date of the
calendar, and as many days stand between it and 1 January 1970.
-/

namespace FilterQuery.Date

/-- Every fourth year, but of the full centuries only every fourth. -/
def IsLeapYear (year : ℤ) : Prop :=
  4 ∣ year ∧ (100 ∣ year → 400 ∣ year)

instance (year : ℤ) : Decidable (IsLeapYear year) :=
  inferInstanceAs (Decidable (_ ∧ (_ → _)))

def daysOfMonth (year : ℤ) : ℕ → ℕ
  | 2 => if IsLeapYear year then 29 else 28
  | 4 | 6 | 9 | 11 => 30
  | _ => 31

def daysOfYear (year : ℤ) : ℤ :=
  ∑ month ∈ Finset.Icc 1 12, (daysOfMonth year month : ℤ)

/-- The day number of 1 January. -/
def newYear (year : ℤ) : ℤ :=
  ∑ k ∈ Finset.range (year - 1970).toNat, daysOfYear (1970 + k) -
    ∑ k ∈ Finset.range (1970 - year).toNat, daysOfYear (1969 - k)

structure Valid (d : Date) : Prop where
  month_pos : 1 ≤ d.month
  month_le : d.month ≤ 12
  day_pos : 1 ≤ d.day
  day_le : d.day ≤ daysOfMonth d.year d.month

/-- The days from 1 January 1970 to a date. -/
def dayNumber (d : Date) : ℤ :=
  newYear d.year + ∑ month ∈ Finset.Ico 1 d.month, (daysOfMonth d.year month : ℤ) + d.day - 1

/-! ## Leap days -/

/-- The leap days of the years from 1 on up to a year. -/
def leapDays (year : ℤ) : ℤ :=
  year / 4 - year / 100 + year / 400

theorem leapDays_add_era (era year : ℤ) :
    leapDays (era * 400 + year) = 97 * era + leapDays year := by
  unfold leapDays
  omega

theorem leapDays_cases (year : ℤ) :
    IsLeapYear year ∧ leapDays year = leapDays (year - 1) + 1 ∨
    ¬IsLeapYear year ∧ leapDays year = leapDays (year - 1) := by
  unfold IsLeapYear leapDays
  omega

/-! ## Months -/

/-- The days in front of a month, in a year that begins with March as month zero. -/
def monthStart (month : ℕ) : ℕ :=
  (153 * month + 2) / 5

theorem daysOfMonth_february (year : ℤ) :
    (daysOfMonth year 2 : ℤ) = 28 + leapDays year - leapDays (year - 1) := by
  obtain ⟨leap, days⟩ | ⟨common, days⟩ := leapDays_cases year
  · simp only [daysOfMonth, leap, if_true, days]
    omega
  · simp only [daysOfMonth, common, if_false, days]
    omega

theorem daysOfMonth_add_three (year : ℤ) {month : ℕ} (h : month < 10) :
    daysOfMonth year (month + 3) = monthStart (month + 1) - monthStart month := by
  interval_cases month <;> rfl

theorem sum_months (year : ℤ) {month : ℕ} (h : month ≤ 10) :
    ∑ k ∈ Finset.Ico 1 (month + 3), (daysOfMonth year k : ℤ) =
      59 + leapDays year - leapDays (year - 1) + monthStart month := by
  induction month with
  | zero =>
      have january : daysOfMonth year 1 = 31 := rfl
      rw [Finset.sum_Ico_succ_top (by decide), Finset.sum_Ico_succ_top (by decide), Finset.Ico_self,
        Finset.sum_empty, january, daysOfMonth_february]
      unfold monthStart
      omega
  | succ month ih =>
      have next := daysOfMonth_add_three year h
      unfold monthStart at next ih ⊢
      rw [show month + 1 + 3 = month + 3 + 1 by omega, Finset.sum_Ico_succ_top (by omega),
        ih (Nat.le_of_succ_le h), next]
      omega

/-! ## Years -/

theorem daysOfYear_eq (year : ℤ) :
    daysOfYear year = 365 + leapDays year - leapDays (year - 1) := by
  have months := sum_months year (Nat.le_refl 10)
  have whole : Finset.Icc 1 12 = Finset.Ico 1 13 := rfl
  unfold monthStart at months
  rw [daysOfYear, whole, months]
  omega

theorem sum_years_from (k : ℕ) :
    ∑ i ∈ Finset.range k, daysOfYear (1970 + i) =
      365 * k + leapDays (1970 + k - 1) - 477 := by
  induction k with
  | zero => rfl
  | succ k ih =>
      rw [Finset.sum_range_succ, ih, daysOfYear_eq]
      unfold leapDays
      omega

theorem sum_years_before (k : ℕ) :
    ∑ i ∈ Finset.range k, daysOfYear (1969 - i) =
      365 * k - leapDays (1970 - k - 1) + 477 := by
  induction k with
  | zero => rfl
  | succ k ih =>
      rw [Finset.sum_range_succ, ih, daysOfYear_eq]
      unfold leapDays
      omega

theorem newYear_eq (year : ℤ) :
    newYear year = 365 * (year - 1970) + leapDays (year - 1) - 477 := by
  rw [newYear, sum_years_from, sum_years_before]
  unfold leapDays
  omega

/-! ## The date of a day number -/

/-- The parts of a day number within an era: centuries, blocks of four years, years, days. Only the
    last of the years of a block can have a leap day, and of a century only the last of all. -/
theorem yearOfEra_eq {century block year day : ℕ} (centuries : century < 4) (blocks : block < 25)
    (years : year < 4)
    (days : day < 365 ∨ day = 365 ∧ year = 3 ∧ (block < 24 ∨ century = 3)) :
    let number := 36524 * century + 1461 * block + 365 * year + day
    (number - number / 1460 + number / 36524 - number / 146096) / 365 =
      100 * century + 4 * block + year := by
  intro number
  have last : number / 36524 = century ∨ number / 36524 = 4 ∧ number = 146096 := by omega
  have blocks : number / 1460 = 25 * century + block ∨
      number / 1460 = 25 * century + block + 1 := by omega
  omega

theorem exists_parts {number : ℕ} (h : number < 146097) :
    ∃ century block year day, century < 4 ∧ block < 25 ∧ year < 4 ∧
      (day < 365 ∨ day = 365 ∧ year = 3 ∧ (block < 24 ∨ century = 3)) ∧
      number = 36524 * century + 1461 * block + 365 * year + day := by
  let century := min 3 (number / 36524)
  let block := (number - 36524 * century) / 1461
  let year := min 3 ((number - 36524 * century - 1461 * block) / 365)
  refine ⟨century, block, year, number - 36524 * century - 1461 * block - 365 * year, ?_⟩
  omega

theorem yearOfEra_bounds {number : ℕ} (h : number < 146097) :
    let year := (number - number / 1460 + number / 36524 - number / 146096) / 365
    ∃ day : ℕ, year < 400 ∧ number = 365 * year + year / 4 - year / 100 + day ∧
      day < 365 + leapDays (year + 1) - leapDays year := by
  obtain ⟨century, block, year, day, centuries, blocks, years, days, rfl⟩ := exists_parts h
  rw [yearOfEra_eq centuries blocks years days]
  have quarter : (100 * century + 4 * block + year) / 4 = 25 * century + block := by omega
  have hundredth : (100 * century + 4 * block + year) / 100 = century := by omega
  unfold leapDays
  exact ⟨day, by omega, by omega, by omega⟩

theorem monthOfYear_bounds {day : ℕ} (h : day < 366) :
    let month := (5 * day + 2) / 153
    month < 12 ∧ monthStart month ≤ day ∧ day < monthStart (month + 1) := by
  unfold monthStart
  omega

/-- A day number is split into years that begin in March, their months and days. -/
theorem ofDayNumber_cases (number : ℤ) :
    ∃ (year : ℤ) (month day : ℕ), month < 12 ∧
      number + 719468 = 365 * year + leapDays year + monthStart month + day ∧
      monthStart month + day < 365 + leapDays (year + 1) - leapDays year ∧
      monthStart month + day < monthStart (month + 1) ∧
      ofDayNumber number =
        { year := year + if month < 10 then 0 else 1
          month := if month < 10 then month + 3 else month - 9
          day := day + 1 } := by
  have nonneg := Int.fmod_nonneg_of_pos (number + 719468) (b := 146097) (by decide)
  have small := Int.fmod_lt_of_pos (number + 719468) (b := 146097) (by decide)
  have whole := Int.mul_fdiv_add_fmod (number + 719468) 146097
  obtain ⟨ofEra, same⟩ := Int.eq_ofNat_of_zero_le nonneg
  rw [same] at small whole
  obtain ⟨dayOfYear, years, split, days⟩ := yearOfEra_bounds (Int.ofNat_lt.1 small)
  unfold ofDayNumber
  simp only [same, Int.toNat_natCast]
  generalize (number + 719468).fdiv 146097 = era at whole
  generalize (ofEra - ofEra / 1460 + ofEra / 36524 - ofEra / 146096) / 365 = year at years split days
  have rest : ofEra - (365 * year + year / 4 - year / 100) = dayOfYear := by omega
  have leap : dayOfYear < 366 := by
    unfold leapDays at days
    omega
  rw [rest]
  obtain ⟨months, front, behind⟩ := monthOfYear_bounds leap
  generalize (5 * dayOfYear + 2) / 153 = month at months front behind
  refine ⟨era * 400 + year, month, dayOfYear - monthStart month, months, ?_, ?_, ?_, rfl⟩
  · rw [leapDays_add_era]
    unfold leapDays
    omega
  · rw [add_assoc, leapDays_add_era, leapDays_add_era]
    omega
  · omega

/-! ## The calendar of all day numbers -/

theorem valid_ofDayNumber (number : ℤ) : (ofDayNumber number).Valid := by
  obtain ⟨year, month, day, months, -, years, days, same⟩ := ofDayNumber_cases number
  rw [same]
  obtain march | rfl | rfl : month < 10 ∨ month = 10 ∨ month = 11 := by omega
  · have long := daysOfMonth_add_three year march
    simp only [march, if_true, add_zero]
    refine ⟨Nat.le_add_left _ _, Nat.add_le_add_right (Nat.le_of_lt_succ march) 3,
      Nat.le_add_left _ _, ?_⟩
    show day + 1 ≤ daysOfMonth year (month + 3)
    omega
  · unfold monthStart at days
    refine ⟨Nat.le_refl 1, Nat.le_add_left 1 11, Nat.le_add_left _ _, ?_⟩
    show day + 1 ≤ 31
    omega
  · -- the year that began in March ends with the February of the next
    have february := daysOfMonth_february (year + 1)
    rw [add_sub_cancel_right] at february
    unfold monthStart at years
    refine ⟨Nat.le_add_left 1 1, Nat.le_add_left 2 10, Nat.le_add_left _ _, ?_⟩
    show day + 1 ≤ daysOfMonth (year + 1) 2
    omega

theorem dayNumber_ofDayNumber (number : ℤ) : (ofDayNumber number).dayNumber = number := by
  obtain ⟨year, month, day, months, whole, -, -, same⟩ := ofDayNumber_cases number
  rw [same, dayNumber, newYear_eq]
  obtain march | rfl | rfl : month < 10 ∨ month = 10 ∨ month = 11 := by omega
  · simp only [march, if_true, add_zero, sum_months year (Nat.le_of_lt march)]
    omega
  · have front : ∑ k ∈ Finset.Ico 1 1, (daysOfMonth (year + 1) k : ℤ) = 0 := rfl
    unfold monthStart at whole
    simp only [Nat.lt_irrefl, if_false, add_sub_cancel_right, front]
    omega
  · have january : ∑ k ∈ Finset.Ico 1 2, (daysOfMonth (year + 1) k : ℤ) = 31 := rfl
    unfold monthStart at whole
    simp only [Nat.reduceLT, Nat.reduceSub, if_false, add_sub_cancel_right, january]
    omega

end FilterQuery.Date
