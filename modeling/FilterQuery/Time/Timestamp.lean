import FilterQuery.Text.Digits
import FilterQuery.Time.Date

/-! # Timestamps

A timestamp is a point of UTC with nanoseconds. Within a leap second the nanoseconds go on
counting past `10 ^ 9`. It belongs to the second that it follows.
-/

namespace FilterQuery

structure Timestamp where
  /-- Seconds since 1 January 1970, leap seconds not counted. -/
  seconds : Int
  nanoseconds : Nat
  nanoseconds_lt : nanoseconds < 2000000000 := by omega
  deriving Repr, DecidableEq

namespace Timestamp

open Text

/-- Four digits for the years 0 to 9999; others carry their sign. -/
def yearText (year : Int) : String :=
  if 0 ≤ year ∧ year ≤ 9999 then padded 4 year.toNat
  else (if year < 0 then "-" else "+") ++ padded 4 year.natAbs

/-- The fraction of a second: nothing, or the fewest of three, six and nine digits that
    are exact. -/
def fractionText (nanoseconds : Nat) : String :=
  if nanoseconds = 0 then ""
  else if nanoseconds % 1000000 = 0 then "." ++ padded 3 (nanoseconds / 1000000)
  else if nanoseconds % 1000 = 0 then "." ++ padded 6 (nanoseconds / 1000)
  else "." ++ padded 9 nanoseconds

/-- The text of RFC 3339 at offset zero. A leap second has the number behind that of the second it
    follows, so at the end of a minute 60. -/
def toText (t : Timestamp) : String :=
  let date := Date.ofDayNumber (t.seconds.fdiv 86400)
  let ofDay := (t.seconds.fmod 86400).toNat
  let second := ofDay % 60 + t.nanoseconds / 1000000000
  yearText date.year ++ "-" ++ padded 2 date.month ++ "-" ++ padded 2 date.day
    ++ "T" ++ padded 2 (ofDay / 3600) ++ ":" ++ padded 2 (ofDay / 60 % 60)
    ++ ":" ++ padded 2 second ++ fractionText (t.nanoseconds % 1000000000) ++ "+00:00"

end Timestamp

end FilterQuery
