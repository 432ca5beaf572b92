import FilterQuery.Comparison
import FilterQuery.Fragment.Basic
import FilterQuery.Value

/-! # Clauses

A clause is one unit of a predicate: a condition, and the connective that joins it to the
clause before it. Every condition is written as a fragment that numbers its placeholders
from zero and brings its own values.
-/

namespace FilterQuery

inductive Condition where
  /-- A property compared with one value. -/
  | comparison (property : String) (test : Comparison) (value : Value)
  | constant (truth : Bool)
  /-- Predicate text with its own placeholders, as many values as its author bound. -/
  | raw (fragment : Fragment) (values : List Value)
  deriving Repr, DecidableEq

namespace Condition

def trueText : String := "TRUEPREDICATE"

def falseText : String := "FALSEPREDICATE"

/-- The values of a condition, in the order of its own placeholders. -/
def values : Condition → List Value
  | comparison _ _ value => [value]
  | constant _ => []
  | raw _ values => values

/-- The condition as predicate text with placeholders numbered from zero. -/
def fragment : Condition → Fragment
  | comparison property test _ =>
      ⟨[.text (property ++ " " ++ test.toText ++ " "), .placeholder 0]⟩
  | constant truth => ⟨[.text (if truth then trueText else falseText)]⟩
  | raw fragment _ => fragment

end Condition

structure Clause where
  /-- Ignored for the first clause of a chain. -/
  connective : Connective
  condition : Condition
  deriving Repr, DecidableEq

namespace Clause

def values (c : Clause) : List Value :=
  c.condition.values

/-- The clause as it stands behind `offset` values. -/
def fragmentAt (c : Clause) (offset : Nat) : Fragment :=
  c.condition.fragment.shift offset

end Clause

end FilterQuery
