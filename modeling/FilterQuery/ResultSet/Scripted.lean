import FilterQuery.ResultSet.Basic

/-! # Scripted result sets

A collection that answers as it was told to beforehand. It evaluates no predicate; it
shows what a query asks of its store.
-/

namespace FilterQuery

structure Scripted where
  rows : List String := []
  /-- The rows of the filtered collection, where they differ. -/
  filteredRows : Option (List String) := none
  /-- The length reported, where it is not the number of rows. -/
  reportedLength : Option Nat := none
  /-- The failure of every filtering, if any. -/
  failure : Option Failure := none
  aggregates : List (Aggregate × Value) := []
  /-- The orders applied so far, the last one last. -/
  sortKeys : List (String × SortOrder) := []
  deriving Repr, DecidableEq

namespace Scripted

def length (s : Scripted) : Nat :=
  s.reportedLength.getD s.rows.length

def filtered (s : Scripted) : Except Failure Scripted :=
  match s.failure with
  | some failure => .error failure
  | none => .ok { s with rows := s.filteredRows.getD s.rows }

instance : ResultSet Scripted String where
  filtered s _ _ := s.filtered
  sorted s property order := { s with sortKeys := s.sortKeys ++ [(property, order)] }
  length := length
  get? s index := s.rows[index]?
  aggregate s function _ := s.aggregates.lookup function

end Scripted

end FilterQuery
