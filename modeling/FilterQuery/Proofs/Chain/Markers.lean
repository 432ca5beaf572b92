import FilterQuery.Proofs.Chain.Pieces
import FilterQuery.Proofs.Chain.Reachable

/-! # The markers of a chain

Markers are anchored where the record ends when they are made, so their anchors never decrease
and never point past the next clause. That is kept by every call under every policy, also by the
lenient closes that find no group, and by merges. A filter is then laid out with the markers told
apart by their places in the record: it has each of them once, as soon as a clause has followed.
-/

namespace FilterQuery

namespace Chain

/-- The anchors of the `(`, in the order of the calls. -/
def openingAnchors (c : Chain) : List Nat :=
  (c.leading.filter (·.kind = .opening)).map Marker.anchor

/-- The anchors do not point past the record, and stand in the order of the calls. The groups
    still open are among those that were opened. -/
structure Ordered (c : Chain) : Prop where
  leading : ∀ marker ∈ c.leading, marker.anchor ≤ c.size
  trailing : ∀ index ∈ c.trailing, index < c.size
  leadingOrder : (c.leading.map Marker.anchor).Pairwise (· ≤ ·)
  trailingOrder : c.trailing.Pairwise (· ≤ ·)
  opened : c.openGroups.Sublist c.openingAnchors

variable {c d m : Chain}

theorem pairwise_append_moved {front back : List Nat} {base : Nat} (hf : front.Pairwise (· ≤ ·))
    (hb : back.Pairwise (· ≤ ·)) (below : ∀ anchor ∈ front, anchor ≤ base) :
    (front ++ back.map (· + base)).Pairwise (· ≤ ·) := by
  refine List.pairwise_append.2 ⟨hf, ?_, ?_⟩
  · exact List.pairwise_map.2 (hb.imp (Nat.add_le_add_right · base))
  · intro anchor member moved later
    obtain ⟨inner, -, rfl⟩ := List.mem_map.1 later
    exact Nat.le_trans (below anchor member) (Nat.le_add_left base inner)

theorem pairwise_concat {front : List Nat} {last : Nat} (h : front.Pairwise (· ≤ ·))
    (below : ∀ anchor ∈ front, anchor ≤ last) : (front ++ [last]).Pairwise (· ≤ ·) := by
  simpa using pairwise_append_moved h (List.pairwise_singleton (· ≤ ·) 0) below

namespace Ordered

theorem new : Ordered {} := by
  constructor <;> simp [openingAnchors]

theorem leading_anchors (h : c.Ordered) : ∀ anchor ∈ c.leading.map Marker.anchor, anchor ≤ c.size := by
  intro anchor member
  obtain ⟨marker, recorded, rfl⟩ := List.mem_map.1 member
  exact h.leading marker recorded

theorem openGroups_le (h : c.Ordered) : ∀ start ∈ c.openGroups, start ≤ c.size := by
  intro start member
  obtain ⟨marker, recorded, rfl⟩ := List.mem_map.1 (h.opened.subset member)
  exact h.leading marker (List.mem_filter.1 recorded).1

theorem openGroups_order (h : c.Ordered) : c.openGroups.Pairwise (· ≤ ·) :=
  h.leadingOrder.sublist (h.opened.trans (List.filter_sublist.map Marker.anchor))

theorem anchored (h : c.Ordered) : c.layout.Anchored := by
  constructor
  · simpa [layout, Layout.size, size] using h.leading
  · simpa [layout, Layout.size, size] using h.trailing

theorem trailing_eq_nil (h : c.Ordered) (none : c.size = 0) : c.trailing = [] := by
  refine List.eq_nil_iff_forall_not_mem.2 fun index member => ?_
  have := h.trailing index member
  omega

theorem append (h : c.Ordered) (k : Condition) : (c.append k).Ordered where
  leading marker member := by
    rw [size_append]
    exact Nat.le_succ_of_le (h.leading marker member)
  trailing index member := by
    rw [size_append]
    exact Nat.lt_succ_of_lt (h.trailing index member)
  leadingOrder := h.leadingOrder
  trailingOrder := h.trailingOrder
  opened := h.opened

theorem lead (h : c.Ordered) {kind : MarkerKind} (size : d.size = c.size)
    (leading : d.leading = c.leading ++ [⟨kind, c.size⟩]) (trailing : d.trailing = c.trailing)
    (opened : d.openGroups.Sublist d.openingAnchors) : d.Ordered where
  leading := by
    rw [leading, size]
    simp only [List.mem_append, List.mem_singleton]
    rintro marker (member | rfl)
    · exact h.leading marker member
    · exact Nat.le_refl _
  trailing := by
    rw [trailing, size]
    exact h.trailing
  leadingOrder := by
    rw [leading, List.map_append]
    exact pairwise_concat h.leadingOrder h.leading_anchors
  trailingOrder := trailing ▸ h.trailingOrder
  opened := opened

theorem openGroup (h : c.Ordered) : c.openGroup.Ordered := by
  refine h.lead rfl rfl rfl ?_
  simpa [Chain.openGroup, openingAnchors] using h.opened

theorem negate (h : c.Ordered) : c.negate.Ordered := by
  refine h.lead rfl rfl rfl ?_
  simpa [Chain.negate, openingAnchors] using h.opened

theorem closeGroup (h : c.Ordered) : c.closeGroup.Ordered where
  leading := h.leading
  trailing := by
    show ∀ index ∈ c.closeGroup.trailing, index < c.size
    by_cases none : c.size = 0
    · simpa [Chain.closeGroup, none] using h.trailing
    · simp only [Chain.closeGroup, none, if_false, List.mem_append, List.mem_singleton]
      rintro index (member | rfl)
      · exact h.trailing index member
      · exact Nat.sub_one_lt none
  leadingOrder := h.leadingOrder
  trailingOrder := by
    by_cases none : c.size = 0
    · simpa [Chain.closeGroup, none] using h.trailingOrder
    · simp only [Chain.closeGroup, none, if_false]
      exact pairwise_concat h.trailingOrder fun index member => Nat.le_sub_one_of_lt (h.trailing index member)
  opened := (List.dropLast_sublist c.openGroups).trans h.opened

theorem merge (hc : c.Ordered) (hm : m.Ordered) : (c.merge m).Ordered where
  leading := by
    rw [size_merge]
    simp only [Chain.merge, List.mem_append, List.mem_map]
    rintro marker (member | ⟨received, member, rfl⟩)
    · have := hc.leading marker member
      omega
    · have := hm.leading received member
      simp only [Marker.anchor_rebase]
      omega
  trailing := by
    rw [size_merge]
    simp only [Chain.merge, List.mem_append, List.mem_map]
    rintro index (member | ⟨received, member, rfl⟩)
    · have := hc.trailing index member
      omega
    · have := hm.trailing received member
      omega
  leadingOrder := by
    have ordered := pairwise_append_moved hc.leadingOrder hm.leadingOrder hc.leading_anchors
    simpa [Chain.merge, Function.comp_def] using ordered
  trailingOrder :=
    pairwise_append_moved hc.trailingOrder hm.trailingOrder
      fun index member => Nat.le_of_lt (hc.trailing index member)
  opened := by
    have moved := hc.opened.append (hm.opened.map (· + c.size))
    simpa [Chain.merge, openingAnchors, List.filter_map, Function.comp_def, Marker.rebase] using moved

/-- No policy is needed: a close that nothing was opened for leaves the record in order. -/
theorem step (h : c.Ordered) (s : Step) : (c.perform s).Ordered := by
  cases s with
  | append k => exact h.append k
  | negate => exact h.negate
  | openGroup => exact h.openGroup
  | closeGroup => exact h.closeGroup
  | connect | distinct | limit =>
      exact ⟨h.leading, h.trailing, h.leadingOrder, h.trailingOrder, h.opened⟩

end Ordered

theorem Reachable.ordered (h : c.Reachable) : c.Ordered :=
  h.keep Ordered.new (fun before _ => before.step _) Ordered.merge

end Chain

/-! ## Markers in the filter -/

/-- A piece of a filter that tells each marker by its place in the list it was recorded in. -/
inductive Placed where
  | connective (k : Connective)
  | leading (kind : MarkerKind) (place : Nat)
  | fragment (f : Fragment)
  | trailing (place : Nat)
  deriving Repr, DecidableEq

namespace Placed

def piece : Placed → Piece
  | connective k => .connective k
  | leading .opening _ => .opening
  | leading .negation _ => .negation
  | fragment f => .fragment f
  | trailing _ => .closing

end Placed

instance : Alphabet Placed where
  connective := .connective
  fragment := .fragment

theorem countP_zipIdx {α : Type} (p : α → Bool) (place start : Nat) (xs : List α) :
    (xs.zipIdx start).countP (fun x => p x.1 && x.2 == start + place) =
      if xs[place]?.any p then 1 else 0 := by
  induction xs generalizing start place with
  | nil => rfl
  | cons x rest ih =>
      cases place with
      | zero =>
          have later : (rest.zipIdx (start + 1)).countP (fun x => p x.1 && x.2 == start) = 0 := by
            rw [List.countP_eq_zero]
            intro y member
            have := List.le_snd_of_mem_zipIdx member
            simp
            omega
          simp [List.zipIdx_cons, List.countP_cons, later]
      | succ place =>
          have shifted := ih place (start + 1)
          rw [Nat.add_right_comm, Nat.add_assoc] at shifted
          simp [List.zipIdx_cons, shifted]

/-- A mark with the place of its own is anchored to one clause. -/
theorem Layout.anchoredTo_zipIdx {α : Type} (anchor : α → Nat) (tag : α → Nat → Placed)
    {xs : List α} {place : Nat} {x : α} (member : xs[place]? = some x)
    (own : ∀ y i, tag y i = tag x place → i = place) (count : Nat) :
    anchoredTo (xs.zipIdx.map fun y => (anchor y.1, tag y.1 y.2)) (tag x place) 0 count =
      if anchor x < count then 1 else 0 := by
  have same : (fun y : α × Nat => decide (tag y.1 y.2 = tag x place ∧ anchor y.1 < count)) =
      fun y => decide (tag y.1 place = tag x place ∧ anchor y.1 < count) && y.2 == 0 + place := by
    funext ⟨y, i⟩
    by_cases here : i = place
    · simp [here]
    · have other : tag y i ≠ tag x place := fun eq => here (own y i eq)
      simp [here, other]
  have once := countP_zipIdx (fun y => decide (tag y place = tag x place ∧ anchor y < count))
    place 0 xs
  rw [← same, member] at once
  simpa [anchoredTo, List.countP_map, Function.comp_def] using once

namespace Chain

/-- The chain laid out with the places of its markers. -/
def placed (c : Chain) : Layout Placed where
  clauses := c.clauses
  leading := c.leading.zipIdx.map fun x => (x.1.anchor, .leading x.1.kind x.2)
  trailing := c.trailing.zipIdx.map fun x => (x.1, .trailing x.2)

variable {c d : Chain} {place : Nat}

theorem map_piece_placed (c : Chain) : c.placed.map Placed.piece = c.layout := by
  have leading : ∀ x : Marker × Nat, (x.1.anchor, (Placed.leading x.1.kind x.2).piece) =
      (x.1.anchor, Piece.ofMarker x.1) := by
    rintro ⟨⟨kind, anchor⟩, place⟩
    cases kind <;> rfl
  simp only [Layout.map, placed, layout, List.map_map, Function.comp_def]
  congr 1
  · exact map_zipIdx_of_fst leading c.leading
  · exact map_zipIdx_of_fst (g := fun index => (index, Piece.closing)) (fun _ => rfl) c.trailing

theorem row_placed (c : Chain) : c.placed.row.map Placed.piece = c.pieces := by
  rw [pieces_eq_row, ← map_piece_placed c]
  exact (Layout.rowFrom_map (fun _ => rfl) (fun _ => rfl) _ _ _ _ _).symm

theorem count_row_marker (c : Chain) {s : Placed} (joint : ∀ k, .connective k ≠ s)
    (text : ∀ f, .fragment f ≠ s) :
    c.placed.row.count s = Layout.anchoredTo c.placed.leading s 0 c.size
      + Layout.anchoredTo c.placed.trailing s 0 c.size :=
  Layout.count_row joint text c.placed

theorem count_row_leading {marker : Marker} (member : c.leading[place]? = some marker) :
    c.placed.row.count (.leading marker.kind place) = if marker.anchor < c.size then 1 else 0 := by
  have front := Layout.anchoredTo_zipIdx Marker.anchor
    (fun marker place => .leading marker.kind place) member (by simp) c.size
  have behind : Layout.anchoredTo c.placed.trailing (.leading marker.kind place) 0 c.size = 0 := by
    refine Layout.anchoredTo_eq_zero (fun mark member => ?_) 0 c.size
    obtain ⟨_, _, rfl⟩ := List.mem_map.1 member
    exact nofun
  rw [count_row_marker c (by simp) (by simp), behind, Nat.add_zero]
  exact front

theorem count_row_trailing {index : Nat} (member : c.trailing[place]? = some index) :
    c.placed.row.count (.trailing place) = if index < c.size then 1 else 0 := by
  have front : Layout.anchoredTo c.placed.leading (.trailing place) 0 c.size = 0 := by
    refine Layout.anchoredTo_eq_zero (fun mark member => ?_) 0 c.size
    obtain ⟨_, _, rfl⟩ := List.mem_map.1 member
    exact nofun
  have behind := Layout.anchoredTo_zipIdx id (fun _ place => .trailing place) member (by simp)
    c.size
  rw [count_row_marker c (by simp) (by simp), front, Nat.zero_add]
  exact behind

/-! ## Calls only add markers -/

theorem leading_apply {policy : GroupPolicy} {call : Call} (made : c.apply policy call = .ok d) :
    c.leading <+: d.leading := by
  cases single : call.isMerge with
  | false =>
      refine (steps_of_apply made single).keep (P := fun d => c.leading <+: d.leading) ?_
        (List.prefix_refl _)
      intro d s before _
      cases s with
      | negate | openGroup => exact before.trans (List.prefix_append _ _)
      | append | connect | closeGroup | distinct | limit => exact before
  | true =>
      cases call with
      | merge m =>
          cases made
          exact List.prefix_append _ _
      | _ => cases single

end Chain

/-- The markers of a reachable chain are in order, and so are its open groups. A merge moves no
    anchor past the clauses it results in. Laid out with the places of its markers, the filter has
    every `)` once, and every `(` and `NOT` once if its clause has followed, or not at all. Any
    call that adds a clause brings those that have waited into the filter. -/
theorem reachable_markers {c : Chain} (h : c.Reachable) :
    c.Ordered ∧ c.openGroups.Pairwise (· ≤ ·) ∧
    (∀ m : Chain, m.Reachable →
      (∀ marker ∈ m.leading, (marker.rebase c.size).anchor ≤ (c.merge m).size) ∧
      (∀ index ∈ m.trailing, index + c.size < (c.merge m).size) ∧
      ∀ start ∈ m.openGroups, start + c.size ≤ (c.merge m).size) ∧
    c.placed.row.map Placed.piece = c.pieces ∧
    (∀ place < c.trailing.length, c.placed.row.count (.trailing place) = 1) ∧
    (∀ place marker, c.leading[place]? = some marker →
      c.placed.row.count (.leading marker.kind place) = if marker.anchor < c.size then 1 else 0) ∧
    ∀ policy call d, c.apply policy call = .ok d → c.size < d.size →
      ∀ place marker, c.leading[place]? = some marker →
        d.leading[place]? = some marker ∧
          d.placed.row.count (.leading marker.kind place) = 1 := by
  have ordered := h.ordered
  refine ⟨ordered, ordered.openGroups_order, ?_, c.row_placed, ?_, ?_, ?_⟩
  · intro m received
    have inner := received.ordered
    rw [Chain.size_merge]
    refine ⟨fun marker member => ?_, fun index member => ?_, fun start member => ?_⟩
    · have := inner.leading marker member
      simp only [Marker.anchor_rebase]
      omega
    · have := inner.trailing index member
      omega
    · have := inner.openGroups_le start member
      omega
  · intro place below
    have member := List.getElem?_eq_getElem below
    rw [Chain.count_row_trailing member, if_pos (ordered.trailing _ (List.getElem_mem below))]
  · intro place marker member
    exact Chain.count_row_leading member
  · intro policy call d made grown place marker member
    have kept : d.leading[place]? = some marker := by
      obtain ⟨below, rfl⟩ := List.getElem?_eq_some_iff.1 member
      exact List.prefix_iff_getElem?.1 (Chain.leading_apply made) place below
    have waited := ordered.leading marker (List.mem_of_getElem? member)
    exact ⟨kept, by rw [Chain.count_row_leading kept, if_pos (Nat.lt_of_le_of_lt waited grown)]⟩

/-- A group closed before it holds a clause and a `NOT` behind the last clause: the `(` is in the
    filter, the `NOT` is not until the next clause. -/
theorem reachable_markers_lenient :
    ∃ c d : Chain, c.Reachable ∧ c.leading = [⟨.opening, 0⟩, ⟨.negation, 1⟩] ∧
      c.trailing = [0] ∧ c.Ordered ∧
      c.placed.row.count (.leading .opening 0) = 1 ∧
      c.placed.row.count (.leading .negation 1) = 0 ∧
      c.apply .strict (.constant false) = .ok d ∧
      d.placed.row.count (.leading .negation 1) = 1 := by
  have reachable := Chain.Reachable.new.run .lenient
    [.closeGroup, .openGroup, .closeGroup, .constant true, .closeGroup, .negate] (by simp) rfl
  obtain ⟨ordered, -, -, -, -, front, later⟩ := reachable_markers reachable
  exact ⟨_, _, reachable, rfl, rfl, ordered, front 0 _ rfl, front 1 _ rfl, rfl,
    (later .strict (.constant false) _ rfl (by decide) 1 _ rfl).2⟩

end FilterQuery
