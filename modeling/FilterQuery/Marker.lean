/-! # Markers

Grouping and negation are not nested structure: they are markers in a flat list, each
anchored to the index of the clause in front of which it stands. A `)` is no more than the
index of the clause it follows.
-/

namespace FilterQuery

/-- What can stand in front of a clause. -/
inductive MarkerKind where
  /-- The `(` of a group. -/
  | opening
  /-- The `NOT` of the clause or group that follows. -/
  | negation
  deriving Repr, DecidableEq

structure Marker where
  kind : MarkerKind
  anchor : Nat
  deriving Repr, DecidableEq

/-- The marker in a chain that has `base` more clauses in front. -/
def Marker.rebase (base : Nat) (m : Marker) : Marker :=
  { m with anchor := m.anchor + base }

namespace Marker

@[simp] theorem anchor_rebase (base : Nat) (m : Marker) :
    (m.rebase base).anchor = m.anchor + base := rfl

theorem rebase_add (outer inner : Nat) : rebase (outer + inner) = rebase outer ∘ rebase inner := by
  funext m
  simp only [rebase, Function.comp_apply, Nat.add_comm outer inner, Nat.add_assoc]

end Marker

end FilterQuery
