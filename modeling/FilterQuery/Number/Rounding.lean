/-! # Quotients rounded to an integer

A quotient of naturals is rounded to the nearest integer. The two rules differ
only on an exact half.
-/

namespace FilterQuery.Rounding

/-- The integer nearest to `num / den`; an exact half goes to the even neighbour. -/
def halfEven (num den : Nat) : Nat :=
  let below := num / den
  let rest := num % den
  if 2 * rest < den then below
  else if den < 2 * rest then below + 1
  else below + below % 2

/-- The integer nearest to `num / den`; an exact half goes away from zero. -/
def halfAway (num den : Nat) : Nat :=
  (2 * num + den) / (2 * den)

/-- A magnitude with its sign put back. -/
def signed (negative : Bool) (magnitude : Nat) : Int :=
  if negative then -(magnitude : Int) else magnitude

end FilterQuery.Rounding
