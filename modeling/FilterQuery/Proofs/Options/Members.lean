import FilterQuery.Proofs.Json.Skipped
import FilterQuery.Proofs.Options.Variants

/-! # Options from the members of an object

Of the members of an object only two matter. Each gives its option, at most once, and the order of
the members makes no difference.
-/

namespace FilterQuery.Options

open Json

/-! ## Members in a row -/

/-- What a member adds to the options; none if it is faulty, or not the first of its name. -/
def Draft.add (d : Draft) (m : List Char × Tree) : Option Draft :=
  if String.ofList m.1 = "group_policy" then
    if d.groupPolicy.isSome then none
    else (variant? policyNames m.2).map fun policy => { d with groupPolicy := some policy }
  else if String.ofList m.1 = "spacing" then
    if d.spacing.isSome then none
    else (variant? spacingNames m.2).map fun spacing => { d with spacing := some spacing }
  else some d

variable {s s' r : List Char} {t : Tree}

section

variable {α : Type} {names : List (String × α)}

end

end FilterQuery.Options
