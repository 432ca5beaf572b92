/-! # Comparisons and connectives

The operators of a predicate. Equality and the string comparisons can ignore case, which
their text shows by `[c]`; the order comparisons have no such form.
-/

namespace FilterQuery

/-- A comparison by order. -/
inductive OrderTest where
  | greater
  | less
  | greaterOrEqual
  | lessOrEqual
  deriving Repr, DecidableEq

/-- A comparison that can ignore case. -/
inductive MatchTest where
  | equal
  | notEqual
  | contains
  | beginsWith
  | endsWith
  | like
  deriving Repr, DecidableEq

inductive Comparison where
  | order (test : OrderTest)
  | matching (test : MatchTest) (ignoreCase : Bool)
  deriving Repr, DecidableEq

namespace Comparison

/-- Sets whether case is ignored. An order comparison stays as it is. -/
def withIgnoreCase (flag : Bool) : Comparison → Comparison
  | order test => order test
  | matching test _ => matching test flag

def ignoresCase : Comparison → Bool
  | order _ => false
  | matching _ flag => flag

/-- The operator without its `[c]`. -/
def symbol : Comparison → String
  | order .greater => ">"
  | order .less => "<"
  | order .greaterOrEqual => ">="
  | order .lessOrEqual => "<="
  | matching .equal _ => "=="
  | matching .notEqual _ => "!="
  | matching .contains _ => "CONTAINS"
  | matching .beginsWith _ => "BEGINSWITH"
  | matching .endsWith _ => "ENDSWITH"
  | matching .like _ => "LIKE"

def toText (c : Comparison) : String :=
  if c.ignoresCase then c.symbol ++ "[c]" else c.symbol

end Comparison

/-- What joins a clause to the one before it. -/
inductive Connective where
  | and
  | or
  deriving Repr, DecidableEq

def Connective.toText : Connective → String
  | and => "AND"
  | or => "OR"

inductive SortOrder where
  | ascending
  | descending
  deriving Repr, DecidableEq

def SortOrder.isDescending : SortOrder → Bool
  | ascending => false
  | descending => true

end FilterQuery
