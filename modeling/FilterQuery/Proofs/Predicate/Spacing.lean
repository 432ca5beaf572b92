import FilterQuery.Proofs.Predicate.Merged
import Mathlib.Algebra.GroupWithZero.Nat

/-! # Predicates in both spacings

The spacing decides how many spaces stand around a marker, and nothing else. So the two texts of
a chain are one text but for spaces, and the markers that stand in the filter say how many more
of those the padded one has.
-/

namespace FilterQuery

def withoutSpaces (s : String) : String :=
  String.ofList (s.toList.filter (· ≠ ' '))

theorem withoutSpaces_append (s t : String) :
    withoutSpaces (s ++ t) = withoutSpaces s ++ withoutSpaces t := by
  simp [withoutSpaces]

namespace Piece

/-- The spaces by which a piece is longer when it is padded. -/
def padding : Piece → Nat
  | opening | closing => 2
  | negation => 1
  | connective _ | fragment _ => 0

theorem withoutSpaces_toText (p : Piece) :
    withoutSpaces (p.toText .padded) = withoutSpaces (p.toText .compact) := by
  cases p <;> rfl

theorem length_toText_padded (p : Piece) :
    (p.toText .padded).length = (p.toText .compact).length + p.padding := by
  cases p <;> rfl

theorem toText_padded_eq {p : Piece} (unpadded : p.padding = 0) :
    p.toText .padded = p.toText .compact := by
  cases p with
  | connective | fragment => rfl
  | opening | negation | closing => cases unpadded

theorem sum_padding (pieces : List Piece) :
    (pieces.map padding).sum =
      2 * pieces.count .opening + 2 * pieces.count .closing + pieces.count .negation := by
  induction pieces with
  | nil => rfl
  | cons p rest ih =>
      simp only [List.map_cons, List.sum_cons, List.count_cons, ih]
      cases p <;> simp [padding] <;> omega

end Piece

/-! ## The markers in a row -/

namespace Chain

variable {c : Chain}

/-- How many `(` or `NOT` have a clause to stand in front of. -/
def rendered (c : Chain) (kind : MarkerKind) : Nat :=
  c.leading.countP fun marker => marker.kind = kind ∧ marker.anchor < c.size

theorem count_pieces {s : Piece} (joint : ∀ k, .connective k ≠ s) (text : ∀ f, .fragment f ≠ s) :
    c.pieces.count s = Layout.anchoredTo c.layout.leading s 0 c.size
      + Layout.anchoredTo c.layout.trailing s 0 c.size := by
  rw [pieces_eq_row]
  exact Layout.count_row joint text c.layout

theorem anchoredTo_leading (marker : Marker) :
    Layout.anchoredTo c.layout.leading (.ofMarker marker) 0 c.size = c.rendered marker.kind := by
  have kinds (other : Marker) :
      Piece.ofMarker other = Piece.ofMarker marker ↔ other.kind = marker.kind := by
    rcases marker with ⟨kind, _⟩
    rcases other with ⟨kind', _⟩
    cases kind <;> cases kind' <;> simp [Piece.ofMarker]
  simp [Layout.anchoredTo, layout, rendered, List.countP_map, Function.comp_def, kinds]

theorem count_pieces_marker (marker : Marker) :
    c.pieces.count (.ofMarker marker) = c.rendered marker.kind := by
  have trailing : Layout.anchoredTo c.layout.trailing (.ofMarker marker) 0 c.size = 0 := by
    rcases marker with ⟨kind, _⟩
    cases kind <;> simp [Layout.anchoredTo, layout, Piece.ofMarker, Function.comp_def]
  have kinds : (∀ k, Piece.connective k ≠ .ofMarker marker) ∧
      ∀ f, Piece.fragment f ≠ .ofMarker marker := by
    rcases marker with ⟨kind, _⟩
    cases kind <;> simp [Piece.ofMarker]
  rw [count_pieces kinds.1 kinds.2, anchoredTo_leading, trailing, Nat.add_zero]

theorem count_pieces_closing (h : c.Ordered) : c.pieces.count .closing = c.trailing.length := by
  have leading : Layout.anchoredTo c.layout.leading .closing 0 c.size = 0 := by
    simp only [Layout.anchoredTo, layout, List.countP_eq_zero, List.mem_map]
    rintro _ ⟨⟨kind, anchor⟩, _, rfl⟩
    cases kind <;> simp [Piece.ofMarker]
  have trailing : Layout.anchoredTo c.layout.trailing .closing 0 c.size = c.trailing.length := by
    rw [Layout.anchoredTo, List.countP_eq_length.2]
    · simp [layout]
    · simpa [layout] using h.trailing
  rw [count_pieces (by simp) (by simp), leading, trailing, Nat.zero_add]

theorem sum_padding_pieces (h : c.Ordered) :
    (c.pieces.map Piece.padding).sum =
      2 * c.rendered .opening + 2 * c.trailing.length + c.rendered .negation := by
  rw [Piece.sum_padding, count_pieces_closing h, ← count_pieces_marker ⟨.opening, 0⟩,
    ← count_pieces_marker ⟨.negation, 0⟩]
  rfl

/-! ## The text of a filter -/

theorem withoutSpaces_textOf (pieces : List Piece) :
    withoutSpaces (textOf .padded pieces) = withoutSpaces (textOf .compact pieces) := by
  induction pieces with
  | nil => rfl
  | cons p rest ih =>
      simp only [textOf, List.map_cons, String.join_cons, withoutSpaces_append] at ih ⊢
      rw [ih, p.withoutSpaces_toText]

theorem length_textOf_padded (pieces : List Piece) :
    (textOf .padded pieces).length =
      (textOf .compact pieces).length + (pieces.map Piece.padding).sum := by
  induction pieces with
  | nil => rfl
  | cons p rest ih =>
      simp only [textOf, List.map_cons, String.join_cons, String.length_append,
        List.sum_cons] at ih ⊢
      rw [ih, p.length_toText_padded]
      omega

theorem textOf_padded_eq {pieces : List Piece} (unpadded : (pieces.map Piece.padding).sum = 0) :
    textOf .padded pieces = textOf .compact pieces := by
  refine congrArg String.join (List.map_congr_left fun p member => Piece.toText_padded_eq ?_)
  exact List.sum_eq_zero_iff_forall_eq_nat.1 unpadded _ (List.mem_map_of_mem member)

/-- Without a clause there is no piece, and no text that depends on the spacing. -/
theorem filterText_cases (c : Chain) :
    (c.pieces = [] ∧ c.filterText .padded = c.filterText .compact) ∨
      ∀ spacing, c.filterText spacing = textOf spacing c.pieces := by
  by_cases none : c.clauses = []
  · exact .inl ⟨by simp [pieces, none, piecesFrom], by simp [filterText, none]⟩
  · exact .inr (filterText_eq_textOf none)

theorem withoutSpaces_filterText (c : Chain) :
    withoutSpaces (c.filterText .padded) = withoutSpaces (c.filterText .compact) := by
  obtain ⟨-, same⟩ | text := c.filterText_cases
  · rw [same]
  · rw [text, text, withoutSpaces_textOf]

theorem length_filterText_padded (c : Chain) :
    (c.filterText .padded).length =
      (c.filterText .compact).length + (c.pieces.map Piece.padding).sum := by
  obtain ⟨none, same⟩ | text := c.filterText_cases
  · simp [none, same]
  · rw [text, text, length_textOf_padded]

theorem filterText_padded_eq (unpadded : (c.pieces.map Piece.padding).sum = 0) :
    c.filterText .padded = c.filterText .compact := by
  obtain ⟨-, same⟩ | text := c.filterText_cases
  · exact same
  · rw [text, text, textOf_padded_eq unpadded]

/-! ## The markers in a filter -/

theorem mem_row_leading {place : Nat} {marker : Marker} (member : c.leading[place]? = some marker) :
    Placed.leading marker.kind place ∈ c.placed.row ↔ marker.anchor < c.size := by
  rw [← List.count_pos_iff, count_row_leading member]
  by_cases anchored : marker.anchor < c.size <;> simp [anchored]

theorem mem_row_trailing (h : c.Ordered) {place : Nat} (below : place < c.trailing.length) :
    Placed.trailing place ∈ c.placed.row := by
  have anchored := h.trailing _ (List.getElem_mem below)
  rw [← List.count_pos_iff, count_row_trailing (List.getElem?_eq_getElem below), if_pos anchored]
  exact Nat.one_pos

theorem rendered_eq_zero (behind : ∀ marker ∈ c.leading, c.size ≤ marker.anchor)
    (kind : MarkerKind) : c.rendered kind = 0 := by
  simp only [rendered, List.countP_eq_zero, decide_eq_true_eq]
  intro marker member
  have := behind marker member
  omega

end Chain

/-- The predicates of a chain in the two spacings. They have the same values, and the same text
    but for spaces. The padded text is longer by two for every `(` and every `)` in the filter, and
    by one for every `NOT`. A `(` or `NOT` is in the filter if it is anchored to a clause, a `)`
    always is. Without a marker in the filter the predicates are the same. -/
theorem spacings_differ_in_spaces {c : Chain} (h : c.Reachable) :
    let compact := c.render .compact
    let padded := c.render .padded
    padded.values = compact.values ∧
    withoutSpaces padded.expression = withoutSpaces compact.expression ∧
    padded.expression.length = compact.expression.length
      + (2 * c.rendered .opening + 2 * c.trailing.length + c.rendered .negation) ∧
    c.placed.row.map Placed.piece = c.pieces ∧
    (∀ place marker, c.leading[place]? = some marker →
      (Placed.leading marker.kind place ∈ c.placed.row ↔ marker.anchor < c.size)) ∧
    (∀ place < c.trailing.length, Placed.trailing place ∈ c.placed.row) ∧
    ((∀ marker ∈ c.leading, c.size ≤ marker.anchor) → c.trailing = [] → padded = compact) := by
  have ordered := h.ordered
  intro compact padded
  refine ⟨rfl, ?_, ?_, c.row_placed, fun _ _ => Chain.mem_row_leading,
    fun _ => Chain.mem_row_trailing ordered, ?_⟩
  · simp only [compact, padded, Chain.render, withoutSpaces_append, c.withoutSpaces_filterText]
  · simp only [compact, padded, Chain.render, String.length_append, c.length_filterText_padded,
      Chain.sum_padding_pieces ordered]
    omega
  · intro behind none
    have unpadded : (c.pieces.map Piece.padding).sum = 0 := by
      simp [Chain.sum_padding_pieces ordered, Chain.rendered_eq_zero behind, none]
    simp only [compact, padded, Chain.render, Chain.filterText_padded_eq unpadded]

/-- A chain whose last `(` and `NOT` still wait for a clause, and whose fragment has spaces and
    brackets of its own. -/
theorem spacings_differ_in_spaces_around_markers :
    ∃ c : Chain, c.Reachable ∧
      (c.render .compact).expression = "NOT (a ( b ) $0 OR c == $1)) LIMIT(3)" ∧
      (c.render .padded).expression.length = (c.render .compact).expression.length + 7 ∧
      (c.render .padded).expression = " NOT  ( a ( b ) $0 OR c == $1 )  )  LIMIT(3)" := by
  have reachable := Chain.Reachable.new.run .lenient
    [.closeGroup, .negate, .openGroup, .raw "a ( b ) $0" [.null], .connect .or,
      .compare "c" (.matching .equal false) .null, .closeGroup, .closeGroup, .limit 3,
      .openGroup, .negate] (by simp) rfl
  obtain ⟨-, -, longer, -⟩ := spacings_differ_in_spaces reachable
  exact ⟨_, reachable, by decide +kernel, longer, by decide +kernel⟩

end FilterQuery
