import FilterQuery.Proofs.Chain.Markers
import FilterQuery.Proofs.Predicate.Emission

/-! # Predicates of merged chains

A merge only concatenates: the filter of the received chain is written behind that of the base
and what waits there for a clause, its placeholders counted from the values of the base. Nothing
else of either text changes, whatever the seam runs through.
-/

namespace FilterQuery

/-- The piece as it stands behind `more` further values. -/
def Piece.shift (more : Nat) : Piece → Piece
  | connective k => connective k
  | opening => opening
  | negation => negation
  | closing => closing
  | fragment f => fragment (f.shift more)

theorem Piece.shifts (more : Nat) : Layout.Shifts (Piece.shift more) more where
  connective _ := rfl
  fragment _ := rfl

@[simp] theorem Piece.shift_closing (more : Nat) : closing.shift more = closing := rfl

theorem Piece.shift_ofMarker (more base : Nat) (marker : Marker) :
    (Piece.ofMarker marker).shift more = Piece.ofMarker (marker.rebase base) := by
  rcases marker with ⟨kind, anchor⟩
  cases kind <;> rfl

namespace Chain

/-- The `(` and `NOT` that wait for the next clause. They are not in the filter. -/
def waiting (c : Chain) : List Marker :=
  c.leading.filter (·.anchor = c.size)

variable {c m : Chain}

theorem layout_merge (c m : Chain) (more : Nat) :
    (c.merge m).layout = c.layout.splice c.pending (Piece.shift more) m.layout := by
  simp [layout, merge, Layout.splice, Layout.size, size, Piece.shift_ofMarker more c.clauses.length]

theorem waiting_layout (c : Chain) : c.layout.waiting = c.waiting.map Piece.ofMarker :=
  (leadingAt_eq_marksAt c c.size).symm

theorem values_merge (c m : Chain) : (c.merge m).values = c.values ++ m.values := by
  cases clauses : m.clauses with
  | nil => simp [values, merge, clauses]
  | cons first rest => simp [values, merge, withFirst, Clause.values, clauses]

theorem waiting_merge (h : c.Ordered) (m : Chain) :
    (c.merge m).waiting =
      (if m.clauses = [] then c.waiting else []) ++ m.waiting.map (·.rebase c.size) := by
  have total := size_merge c m
  have moved : (m.leading.map (·.rebase c.size)).filter (·.anchor = (c.merge m).size) =
      m.waiting.map (·.rebase c.size) := by
    rw [List.filter_map, total]
    simp [waiting, Function.comp_def, Nat.add_comm c.size]
  have front : c.leading.filter (·.anchor = (c.merge m).size) =
      if m.clauses = [] then c.waiting else [] := by
    by_cases none : m.clauses = []
    · have empty : m.size = 0 := List.length_eq_zero_iff.2 none
      simp [waiting, total, empty, none]
    · have filled : m.size ≠ 0 := fun empty => none (List.length_eq_zero_iff.1 empty)
      simp only [none, if_false, List.filter_eq_nil_iff, decide_eq_true_eq]
      intro marker member
      have := h.leading marker member
      omega
  rw [waiting, ← front, ← moved, ← List.filter_append]
  rfl

/-- The text of pieces in a spacing. -/
def textOf (spacing : Spacing) (pieces : List Piece) : String :=
  String.join (pieces.map (·.toText spacing))

theorem textOf_append (spacing : Spacing) (front back : List Piece) :
    textOf spacing (front ++ back) = textOf spacing front ++ textOf spacing back := by
  simp [textOf, String.join_append]

/-- What a filter is followed by when a clause is joined to it. Without a clause it is nothing. -/
def joined (c : Chain) (spacing : Spacing) : String :=
  if c.clauses = [] then "" else c.filterText spacing ++ " " ++ c.pending.toText ++ " "

theorem filterText_eq_textOf (some : c.clauses ≠ []) (spacing : Spacing) :
    c.filterText spacing = textOf spacing c.pieces := by
  simp [filterText, textOf, some]

theorem textOf_row_joint (c : Chain) (spacing : Spacing) :
    textOf spacing (c.layout.row ++ c.layout.joint c.pending) = c.joined spacing := by
  by_cases none : c.clauses = []
  · simp [joined, none, Layout.row, Layout.rowFrom, Layout.joint, layout, textOf]
  · have joint : c.layout.joint c.pending = [.connective c.pending] := by
      simp [Layout.joint, layout, none, Alphabet.connective]
    rw [textOf_append, joint, ← pieces_eq_row, ← filterText_eq_textOf none]
    simp [joined, none, textOf, Piece.toText, String.append_assoc]

theorem filterText_merge (h : c.layout.Anchored) (some : m.clauses ≠ []) (spacing : Spacing) :
    (c.merge m).filterText spacing =
      c.joined spacing ++ textOf spacing (c.waiting.map Piece.ofMarker)
        ++ textOf spacing (m.pieces.map (Piece.shift c.values.length)) := by
  have clauses : (c.merge m).clauses ≠ [] := by simp [merge, some]
  have row := Layout.row_splice (m := m.layout) h (Piece.shifts c.values.length) some c.pending
  rw [filterText_eq_textOf clauses, pieces_eq_row, layout_merge c m c.values.length, row,
    textOf_append, textOf_append, textOf_row_joint, waiting_layout, pieces_eq_row]

theorem filterText_merge_nil (none : m.clauses = []) (c : Chain) (spacing : Spacing) :
    (c.merge m).filterText spacing = c.filterText spacing := by
  have row := Layout.row_splice_nil (m := m.layout) none c.layout c.pending (Piece.shift 0)
  have same : (c.merge m).clauses = c.clauses := by simp [merge, none]
  rw [filterText, filterText, same, pieces_eq_row, pieces_eq_row, layout_merge c m 0, row]

end Chain

/-- Rendering a merge puts one predicate behind the other. The values follow those of the base.
    The filter of the received chain stands where the base would write its next clause, behind
    the markers that have waited for one, and every number that it prints is raised by the values
    of the base, up to the largest there is. Without a clause it leaves the filter as it was. The
    `DISTINCT` clause has both lists of properties, the `LIMIT` is that of the base. What waits on
    the received side goes on waiting, as does what waits on the base if no clause has come. -/
theorem render_merge {c : Chain} (h : c.Reachable) (m : Chain) (spacing : Spacing) :
    ((c.merge m).render spacing).values = (c.render spacing).values ++ (m.render spacing).values ∧
    ((c.merge m).render spacing).expression =
      (c.merge m).filterText spacing ++ tailText (c.distinct ++ m.distinct) c.limit ∧
    (m.clauses ≠ [] →
      m.filterText spacing = Chain.textOf spacing m.pieces ∧
      (c.merge m).filterText spacing =
        c.joined spacing ++ Chain.textOf spacing (c.waiting.map Piece.ofMarker)
          ++ Chain.textOf spacing (m.pieces.map (Piece.shift c.values.length))) ∧
    (m.clauses = [] → (c.merge m).filterText spacing = c.filterText spacing) ∧
    (c.merge m).waiting =
      (if m.clauses = [] then c.waiting else []) ++ m.waiting.map (·.rebase c.size) := by
  refine ⟨Chain.values_merge c m, ?_, ?_, ?_, Chain.waiting_merge h.ordered m⟩
  · simp only [Chain.render, String.append_assoc]
    rfl
  · intro some
    exact ⟨Chain.filterText_eq_textOf some spacing, Chain.filterText_merge h.ordered.anchored some spacing⟩
  · intro none
    exact Chain.filterText_merge_nil none c spacing

/-- A `(` and a `NOT` of the base attach to the first received clause, and a number that is the
    largest already stays it. -/
theorem render_merge_dangling :
    ∃ c m : Chain, c.Reachable ∧ m.clauses ≠ [] ∧ c.filterText .compact = "age < $0" ∧
      m.filterText .compact = "$18446744073709551615 OR $0" ∧
      (c.merge m).filterText .compact = "age < $0 OR (NOT " ++ "$18446744073709551615 OR $1" := by
  have reachable := Chain.Reachable.new.run .lenient
    [.compare "age" (.order .less) .null, .connect .or, .openGroup, .negate] (by simp) rfl
  let m : Chain :=
    { clauses := [⟨.and, .raw ⟨[.placeholder 18446744073709551615]⟩ []⟩,
        ⟨.or, .raw ⟨[.placeholder 0]⟩ []⟩] }
  have some : m.clauses ≠ [] := by decide
  exact ⟨_, m, reachable, some, by decide, by decide,
    ((render_merge reachable m .compact).2.2.1 some).2.trans (by decide)⟩

end FilterQuery
