/-! # Calendar dates

Dates of the Gregorian calendar, extended to all years in both directions. Day zero is
1 January 1970.
-/

namespace FilterQuery

structure Date where
  year : Int
  month : Nat
  day : Nat
  deriving Repr, DecidableEq

namespace Date

/-- The date of a day counted from 1 January 1970. The count is taken from 1 March of
    year 0, so that a leap day ends its year, and split into eras of 400 years, each of
    146097 days. -/
def ofDayNumber (number : Int) : Date :=
  let shifted := number + 719468
  let era := shifted.fdiv 146097
  let day := (shifted.fmod 146097).toNat
  let year := (day - day / 1460 + day / 36524 - day / 146096) / 365
  let dayOfYear := day - (365 * year + year / 4 - year / 100)
  let month := (5 * dayOfYear + 2) / 153
  { year := era * 400 + year + (if month < 10 then 0 else 1)
    month := if month < 10 then month + 3 else month - 9
    day := dayOfYear - (153 * month + 2) / 5 + 1 }

end Date

end FilterQuery
