/-! # Options

How a query treats malformed groups, and how it spaces the markers of its predicate.
-/

namespace FilterQuery

/-- What closing a group does when no group is open or the group holds no clause. -/
inductive GroupPolicy where
  /-- It fails. -/
  | strict
  /-- It is recorded as it is. -/
  | lenient
  deriving Repr, DecidableEq

/-- The spaces around `(`, `)` and `NOT` in a predicate. -/
inductive Spacing where
  /-- No more than are needed: `a == $0 OR (NOT b == $1)`. -/
  | compact
  /-- One on both sides of every marker: `a == $0 OR  (  NOT b == $1 ) `. -/
  | padded
  deriving Repr, DecidableEq

structure Options where
  groupPolicy : GroupPolicy := .strict
  spacing : Spacing := .compact
  deriving Repr, DecidableEq

end FilterQuery
