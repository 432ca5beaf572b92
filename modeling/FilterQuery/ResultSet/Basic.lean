import FilterQuery.Comparison
import FilterQuery.Value

/-! # Result sets

A result set is a store's live collection of objects. Queries never look inside it: they
hand it predicates and pass on every other request.
-/

namespace FilterQuery

/-- Why a store refused a predicate: its message, and those of the causes behind it,
    outermost first. -/
structure Failure where
  message : String
  causes : List String := []
  deriving Repr, DecidableEq

/-- What a store can compute over a collection. -/
inductive Aggregate where
  | min
  | max
  | sum
  | average
  deriving Repr, DecidableEq

/-- The operations of a store on its collections `R`, whose members are shown as `Item`. -/
class ResultSet (R : Type) (Item : outParam Type) where
  /-- Narrows the collection; `$n` refers to the `n`-th value. -/
  filtered : R → String → List Value → Except Failure R
  sorted : R → String → SortOrder → R
  length : R → Nat
  get? : R → Nat → Option Item
  /-- Over the property, or over the members themselves. -/
  aggregate : R → Aggregate → Option String → Option Value

/-- A collection is empty when it has no member. -/
def ResultSet.isEmpty {R Item : Type} [ResultSet R Item] (results : R) : Bool :=
  length results = 0

end FilterQuery
