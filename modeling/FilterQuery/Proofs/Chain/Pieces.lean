import FilterQuery.Proofs.Chain.Layout

/-! # Chains laid out in pieces

The filter of a chain is the row of its layout, and every step of recording is an operation on
that layout.
-/

namespace FilterQuery.Chain

def layout (c : Chain) : Layout Piece where
  clauses := c.clauses
  leading := c.leading.map fun marker => (marker.anchor, Piece.ofMarker marker)
  trailing := c.trailing.map fun index => (index, Piece.closing)

theorem leadingAt_eq_marksAt (c : Chain) (index : Nat) :
    c.leadingAt index = marksAt c.layout.leading index := by
  simp [leadingAt, layout, marksAt, List.filter_map, Function.comp_def]

theorem trailingAt_eq_marksAt (c : Chain) (index : Nat) :
    c.trailingAt index = marksAt c.layout.trailing index := by
  simp [trailingAt, layout, marksAt, List.filter_map, Function.comp_def]

theorem piecesFrom_eq_rowFrom (c : Chain) (index offset : Nat) (clauses : List Clause) :
    c.piecesFrom index offset clauses =
      Layout.rowFrom c.layout.leading c.layout.trailing index offset clauses := by
  induction clauses generalizing index offset with
  | nil => rfl
  | cons clause rest ih =>
      simp only [piecesFrom, Layout.rowFrom, leadingAt_eq_marksAt, trailingAt_eq_marksAt, ih]
      rfl

/-- The filter is what stands in the layout. -/
theorem pieces_eq_row (c : Chain) : c.pieces = c.layout.row :=
  piecesFrom_eq_rowFrom c 0 0 c.clauses

theorem layout_append (c : Chain) (k : Condition) :
    (c.append k).layout = c.layout.append c.pending k := rfl

theorem layout_negate (c : Chain) : c.negate.layout = c.layout.lead .negation := by
  simp [layout, negate, Layout.lead, Layout.size, size, Piece.ofMarker]

theorem layout_openGroup (c : Chain) : c.openGroup.layout = c.layout.lead .opening := by
  simp [layout, openGroup, Layout.lead, Layout.size, size, Piece.ofMarker]

theorem layout_closeGroup (c : Chain) :
    c.closeGroup.layout = if c.size = 0 then c.layout else c.layout.trail .closing := by
  by_cases none : c.size = 0
  · simp [layout, closeGroup, none]
  · simp [layout, closeGroup, Layout.trail, Layout.size, none]
    rfl

/-- What is rendered is the layout and the two lists behind it; open groups leave no trace. -/
theorem render_congr {c d : Chain} (layout : c.layout = d.layout) (distinct : c.distinct = d.distinct)
    (limit : c.limit = d.limit) (spacing : Spacing) : c.render spacing = d.render spacing := by
  have clauses : c.clauses = d.clauses := congrArg Layout.clauses layout
  simp only [render, filterText, distinctText, limitText, values, pieces_eq_row, layout, clauses,
    distinct, limit]

end FilterQuery.Chain
