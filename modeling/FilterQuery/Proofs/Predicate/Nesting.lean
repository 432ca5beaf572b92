import FilterQuery.Proofs.Chain.Groups
import FilterQuery.Proofs.Predicate.Readable

/-! # Nesting of strictly built filters

A chain built under the strict policy has a filter that is well formed once the groups still
open are closed. The nesting is found in the calls: `Groups` follows them and tells for every
`)` which `(` it closes. Laid out with these names, the filter of a strictly built chain is
read without error, and what is left open is what the chain says is open.
-/

namespace FilterQuery

/-! ## The layout with groups -/

/-- The mark at a place among the marks of a chain. -/
def Symbol.ofMarker (marker : Marker) (place : Nat) : Symbol :=
  match marker.kind with
  | .opening => .opening place
  | .negation => .negation

namespace Chain

variable {c m : Chain} {closed : List Nat}

/-- The chain laid out with the groups of its parentheses, told for every `)`. -/
def grouped (c : Chain) (closed : List Nat) : Layout Symbol where
  clauses := c.clauses
  leading := c.leading.zipIdx.map fun (marker, place) =>
    (marker.anchor, Symbol.ofMarker marker place)
  trailing := (c.trailing.zip closed).map fun (index, group) => (index, Symbol.closing group)

theorem grouped_append (c : Chain) (closed : List Nat) (k : Condition) :
    (c.append k).grouped closed = (c.grouped closed).append c.pending k := rfl

theorem grouped_openGroup (c : Chain) (closed : List Nat) :
    c.openGroup.grouped closed = (c.grouped closed).lead (.opening c.leading.length) := by
  simp [grouped, openGroup, List.zipIdx_append, Layout.lead, Layout.size, size, Symbol.ofMarker]

theorem grouped_negate (c : Chain) (closed : List Nat) :
    c.negate.grouped closed = (c.grouped closed).lead .negation := by
  simp [grouped, negate, List.zipIdx_append, Layout.lead, Layout.size, size, Symbol.ofMarker]

theorem grouped_closeGroup (told : closed.length = c.trailing.length) (some : c.size ≠ 0)
    (group : Nat) :
    c.closeGroup.grouped (closed ++ [group]) = (c.grouped closed).trail (.closing group) := by
  simp only [grouped, closeGroup, some, if_false, List.zip_append told.symm]
  simp [Layout.trail, Layout.size, size]

theorem grouped_merge (told : closed.length = c.trailing.length) (closed' : List Nat)
    (offset : Nat) :
    (c.merge m).grouped (closed ++ closed'.map (· + c.leading.length)) =
      (c.grouped closed).splice c.pending (Symbol.rebase c.leading.length offset)
        (m.grouped closed') := by
  have marks : (m.leading.map (·.rebase c.size)).zipIdx c.leading.length =
      m.leading.zipIdx.map fun (marker, place) =>
        (marker.rebase c.size, place + c.leading.length) := by
    rw [List.zipIdx_eq_map_add, List.zipIdx_map]
    simp [Function.comp_def, Nat.add_comm]
  have opened (marker : Marker) (place : Nat) :
      Symbol.rebase c.leading.length offset (.ofMarker marker place) =
        .ofMarker (marker.rebase c.size) (place + c.leading.length) := by
    cases marker with
    | mk kind anchor => cases kind <;> rfl
  simp only [grouped, merge, Layout.splice, List.zipIdx_append, Nat.zero_add, marks,
    List.zip_append told.symm]
  simp [Function.comp_def, opened, Layout.size, size, List.zip_map, Symbol.rebase_closing]

end Chain

/-! ## The groups tell how the record nests -/

/-- The record and its groups agree: its filter can be read with the `rendered` groups open,
    the others wait, and the stack of open groups tells them apart by their anchors. -/
structure Tracks (c : Chain) (g : Groups) (rendered : List Nat) : Prop where
  readable : Readable (c.grouped g.closed) rendered
  marks : g.marks = c.leading.length
  closed : g.closed.length = c.trailing.length
  opened : g.opened = (c.grouped g.closed).opened ++ rendered
  anchors : ∃ inside, c.openGroups =
      inside ++ List.replicate (c.grouped g.closed).opened.length c.size ∧
    inside.length = rendered.length ∧ ∀ start ∈ inside, start < c.size

namespace Tracks

variable {c m : Chain} {g received : Groups} {rendered inner : List Nat}

theorem new : Tracks {} {} [] where
  readable := ⟨⟨by simp [Chain.grouped], by simp [Chain.grouped]⟩, by simp [Chain.grouped], rfl⟩
  marks := rfl
  closed := rfl
  opened := rfl
  anchors := ⟨[], rfl, rfl, by simp⟩

/-- A clause renders the marks that have waited, so that their groups are open in the filter. -/
theorem append (h : Tracks c g rendered) (k : Condition) :
    Tracks (c.append k) g ((c.grouped g.closed).opened ++ rendered) where
  readable := h.readable.append c.pending k
  marks := h.marks
  closed := h.closed
  opened := by
    rw [Chain.grouped_append, Layout.opened_append h.readable.anchored]
    exact h.opened
  anchors := by
    obtain ⟨inside, groups, depth, below⟩ := h.anchors
    refine ⟨c.openGroups, ?_, ?_, ?_⟩
    · rw [Chain.grouped_append, Layout.opened_append h.readable.anchored]
      simp [Chain.append]
    · simp only [groups, List.length_append, List.length_replicate, depth]
      omega
    · intro start member
      rw [groups, List.mem_append, List.mem_replicate] at member
      rw [Chain.size_append]
      rcases member with member | ⟨-, rfl⟩
      · exact Nat.lt_succ_of_lt (below start member)
      · exact Nat.lt_succ_self _

theorem openGroup (h : Tracks c g rendered) : Tracks c.openGroup (g.step .openGroup) rendered where
  readable := by
    rw [Chain.grouped_openGroup]
    exact h.readable.lead rfl
  marks := by simp [Groups.step, Chain.openGroup, h.marks]
  closed := h.closed
  opened := by
    rw [Chain.grouped_openGroup, Layout.opened_lead_opening, ← h.marks]
    exact congrArg (g.marks :: ·) h.opened
  anchors := by
    obtain ⟨inside, groups, depth, below⟩ := h.anchors
    refine ⟨inside, ?_, depth, below⟩
    rw [Chain.grouped_openGroup, Layout.opened_lead_opening, List.length_cons,
      List.replicate_succ']
    simp [Groups.step, Chain.openGroup, groups, Chain.size]

theorem negate (h : Tracks c g rendered) : Tracks c.negate (g.step .negate) rendered where
  readable := by
    rw [Chain.grouped_negate]
    exact h.readable.lead rfl
  marks := by simp [Groups.step, Chain.negate, h.marks]
  closed := h.closed
  opened := by
    rw [Chain.grouped_negate, Layout.opened_lead_negation]
    exact h.opened
  anchors := by
    rw [Chain.grouped_negate, Layout.opened_lead_negation]
    exact h.anchors

/-- The strict policy closes only groups whose `(` is rendered, so that none can be waiting:
    the innermost open group is the innermost rendered one. -/
theorem closeGroup (h : Tracks c g rendered) (admitted : c.Admits .strict .closeGroup) :
    ∃ group outer, g.opened = group :: outer ∧
      c.closeGroup.grouped (g.closed ++ [group]) = (c.grouped g.closed).trail (.closing group) ∧
      Tracks c.closeGroup { g with opened := outer, closed := g.closed ++ [group] } outer := by
  obtain ⟨start, last, filled⟩ := Chain.admits_strict_closeGroup.1 admitted
  obtain ⟨inside, groups, depth, below⟩ := h.anchors
  have some : c.size ≠ 0 := by omega
  have settled : (c.grouped g.closed).opened = [] := by
    cases waits : (c.grouped g.closed).opened with
    | nil => rfl
    | cons group others =>
        -- the last of the stack would be anchored at the next clause, which the policy refuses
        rw [waits, List.length_cons, List.replicate_succ', ← List.append_assoc] at groups
        simp only [groups, List.getLast?_concat, Option.some.injEq] at last
        omega
  rw [settled, List.length_nil, List.replicate_zero, List.append_nil] at groups
  cases rendered with
  | nil =>
      have none : inside = [] := List.length_eq_zero_iff.1 depth
      simp [groups, none] at last
  | cons group outer =>
      have opened : g.opened = group :: outer := by simpa [settled] using h.opened
      have laid := Chain.grouped_closeGroup h.closed some group
      have waits : ((c.grouped g.closed).trail (.closing group)).opened = [] := settled
      refine ⟨group, outer, opened, laid, ?_, h.marks, ?_, ?_, inside.dropLast, ?_, ?_, ?_⟩
      · rw [laid]
        exact h.readable.trail some
      · simp [Chain.closeGroup, some, h.closed]
      · simp [laid, waits]
      · rw [laid, waits]
        simp [Chain.closeGroup, groups]
      · simp [depth]
      · intro at_ member
        exact below at_ (List.dropLast_subset inside member)

theorem depth (h : Tracks c g rendered) :
    c.openGroups.length = rendered.length + (c.grouped g.closed).opened.length := by
  obtain ⟨inside, groups, depth, -⟩ := h.anchors
  simp [groups, depth]

theorem below_size (h : Tracks c g rendered) : ∀ start ∈ c.openGroups, start ≤ c.size := by
  obtain ⟨inside, groups, -, below⟩ := h.anchors
  intro start member
  rw [groups, List.mem_append, List.mem_replicate] at member
  rcases member with member | ⟨-, rfl⟩
  · exact Nat.le_of_lt (below start member)
  · exact Nat.le_refl _

/-- What a chain without a clause has opened waits at the same clause as what the base has. -/
theorem anchors_merge_empty (h : Tracks c g rendered) (hm : Tracks m received inner)
    (none : m.size = 0) (innermost : inner = []) :
    ∃ inside, (c.merge m).openGroups =
        inside ++ List.replicate ((m.grouped received.closed).opened.length +
          (c.grouped g.closed).opened.length) (c.merge m).size ∧
      inside.length = rendered.length ∧ ∀ start ∈ inside, start < (c.merge m).size := by
  obtain ⟨inside, groups, depth, below⟩ := h.anchors
  obtain ⟨inside', groups', depth', -⟩ := hm.anchors
  have empty : inside' = [] := by simpa [innermost] using depth'
  rw [Chain.size_merge, none, Nat.add_zero]
  refine ⟨inside, ?_, depth, below⟩
  simp [Chain.merge, groups, groups', empty, none, List.replicate_append_replicate, Nat.add_comm]

/-- The first received clause renders every group that has waited on the base. -/
theorem anchors_merge_filled (h : Tracks c g rendered) (hm : Tracks m received inner)
    (some : m.size ≠ 0) :
    ∃ inside, (c.merge m).openGroups =
        inside ++ List.replicate (m.grouped received.closed).opened.length (c.merge m).size ∧
      inside.length = inner.length + ((c.grouped g.closed).opened.length + rendered.length) ∧
      ∀ start ∈ inside, start < (c.merge m).size := by
  obtain ⟨inside', groups', depth', below'⟩ := hm.anchors
  rw [Chain.size_merge]
  refine ⟨c.openGroups ++ inside'.map (· + c.size), ?_, ?_, ?_⟩
  · simp [Chain.merge, groups', Nat.add_comm]
  · simp only [List.length_append, List.length_map, depth', h.depth]
    omega
  · simp only [List.mem_append, List.mem_map]
    rintro start (member | ⟨inner, member, rfl⟩)
    · have := h.below_size start member
      omega
    · have := below' inner member
      omega

/-- The received chain is read where the next clause would be. If it has none, then all its
    groups wait with those of the base. -/
theorem merge (h : Tracks c g rendered) (hm : Tracks m received inner) :
    Tracks (c.merge m) (g.merge received)
      (if m.size = 0 then rendered
        else inner.map (· + g.marks) ++ ((c.grouped g.closed).opened ++ rendered)) := by
  have laid : (c.merge m).grouped (g.merge received).closed =
      (c.grouped g.closed).splice c.pending
        (Symbol.rebase c.leading.length (c.grouped g.closed).offset) (m.grouped received.closed) := by
    rw [Groups.merge, h.marks]
    exact Chain.grouped_merge h.closed _ _
  have opened := Layout.opened_splice (m := m.grouped received.closed) h.readable.anchored c.pending
    c.leading.length (c.grouped g.closed).offset
  have size : (m.grouped received.closed).size = m.size := rfl
  have innermost : m.size = 0 → inner = [] := by
    intro none
    simpa [size, none] using hm.readable.row
  rw [← laid, size, ← h.marks] at opened
  refine ⟨?_, ?_, ?_, ?_, ?_⟩
  · rw [laid, h.marks]
    exact h.readable.splice hm.readable c.pending _
  · simp [Groups.merge, Chain.merge, h.marks, hm.marks]
  · simp [Groups.merge, Chain.merge, h.closed, hm.closed]
  · rw [opened]
    by_cases none : m.size = 0
    · simp [Groups.merge, h.opened, hm.opened, none, innermost none]
    · simp [Groups.merge, h.opened, hm.opened, none]
  · rw [opened]
    by_cases none : m.size = 0
    · obtain ⟨inside, groups, depth, below⟩ := h.anchors_merge_empty hm none (innermost none)
      exact ⟨inside, by simpa [none] using groups, by simpa [none] using depth, below⟩
    · obtain ⟨inside, groups, depth, below⟩ := h.anchors_merge_filled hm none
      exact ⟨inside, by simpa [none] using groups, by simpa [none] using depth, below⟩

theorem step (h : Tracks c g rendered) {s : Step} (admitted : c.Admits .strict s) :
    ∃ rendered', Tracks (c.perform s) (g.step s) rendered' := by
  cases s with
  | append k => exact ⟨_, h.append k⟩
  | openGroup => exact ⟨_, h.openGroup⟩
  | negate => exact ⟨_, h.negate⟩
  | closeGroup =>
      obtain ⟨group, outer, opened, -, next⟩ := h.closeGroup admitted
      refine ⟨outer, ?_⟩
      simpa [Groups.step, opened, Chain.perform] using next
  | connect | distinct | limit =>
      exact ⟨rendered, h.readable, h.marks, h.closed, h.opened, h.anchors⟩

theorem steps {d : Chain} {steps : List Step} (h : Tracks c g rendered)
    (made : Chain.Steps .strict c steps d) :
    ∃ rendered', Tracks d (steps.foldl Groups.step g) rendered' := by
  induction made generalizing g rendered with
  | nil => exact ⟨rendered, h⟩
  | cons admitted _ ih =>
      obtain ⟨_, next⟩ := h.step admitted
      exact ih next

end Tracks

theorem StrictlyBuilt.tracks {c : Chain} {g : Groups} (h : StrictlyBuilt c g) :
    ∃ rendered, Tracks c g rendered := by
  induction h with
  | new => exact ⟨[], Tracks.new⟩
  | call _ single made ih =>
      obtain ⟨_, before⟩ := ih
      exact before.steps (Chain.steps_of_apply made single)
  | merge _ _ made ihc ihm =>
      obtain ⟨_, base⟩ := ihc
      obtain ⟨_, received⟩ := ihm
      cases made
      exact ⟨_, base.merge received⟩

/-! ## Strictly built filters -/

namespace Chain

theorem map_piece_grouped {c : Chain} {closed : List Nat}
    (told : closed.length = c.trailing.length) : (c.grouped closed).map Symbol.piece = c.layout := by
  have leading : c.leading.zipIdx.map (fun (marker, place) =>
      (marker.anchor, (Symbol.ofMarker marker place).piece)) =
        c.leading.map fun marker => (marker.anchor, Piece.ofMarker marker) := by
    apply map_zipIdx_of_fst
    rintro ⟨⟨kind, anchor⟩, place⟩
    cases kind <;> rfl
  have trailing : (c.trailing.zip closed).map (fun (index, _) => (index, Piece.closing)) =
      c.trailing.map fun index => (index, Piece.closing) := by
    calc
      _ = ((c.trailing.zip closed).map Prod.fst).map fun index => (index, Piece.closing) := by
          rw [List.map_map]
          rfl
      _ = _ := by rw [List.map_fst_zip (Nat.le_of_eq told.symm)]
  simp only [Layout.map, grouped, layout, List.map_map, ← leading, ← trailing]
  rfl

theorem row_grouped {c : Chain} {closed : List Nat} (told : closed.length = c.trailing.length) :
    (c.grouped closed).row.map Symbol.piece = c.pieces := by
  rw [pieces_eq_row, ← map_piece_grouped told]
  exact (Layout.rowFrom_map (fun _ => rfl) (fun _ => rfl) _ _ _ _ _).symm

end Chain

/-- The rendered groups are the ones whose anchors are in front of a clause. -/
theorem Tracks.countP_rendered {c : Chain} {g : Groups} {rendered : List Nat}
    (h : Tracks c g rendered) : c.openGroups.countP (· < c.size) = rendered.length := by
  obtain ⟨inside, groups, depth, below⟩ := h.anchors
  have front : inside.countP (· < c.size) = inside.length :=
    List.countP_eq_length.2 fun start member => by simpa using below start member
  simp [groups, List.countP_append, List.countP_replicate, front, depth]

/-- The filter of a strictly built chain. Marked with its groups, it derives from the grammar
    of marked filters once the `k` rendered groups that are still open are closed. So it does
    without the marks, and by itself if no group is open. The depth counts the `(` that have no
    `)`. Closing a group writes the `)` of the innermost group that the calls have left open. -/
theorem strict_filter_derives {c : Chain} {g : Groups} (h : StrictlyBuilt c g) :
    let k := c.openGroups.countP (· < c.size)
    (c.size ≠ 0 → Derives .expression (c.pieces ++ List.replicate k .closing)) ∧
    (c.size ≠ 0 → c.depth = 0 → Derives .expression c.pieces) ∧
    c.depth + c.trailing.length = c.openings ∧
    (c.grouped g.closed).row.map Symbol.piece = c.pieces ∧
    (c.size ≠ 0 → ∃ rendered, rendered <:+ g.opened ∧ rendered.length = k ∧
      Nested .expression ((c.grouped g.closed).row ++ rendered.map Symbol.closing)) ∧
    (∀ d, c.apply .strict .closeGroup = .ok d → ∃ group outer,
      g.opened = group :: outer ∧
      g.call .closeGroup = { g with opened := outer, closed := g.closed ++ [group] } ∧
      (d.grouped (g.closed ++ [group])).row = (c.grouped g.closed).row ++ [.closing group]) := by
  obtain ⟨rendered, tracks⟩ := h.tracks
  have count := tracks.countP_rendered
  have erased := Chain.row_grouped tracks.closed
  have nested : c.size ≠ 0 →
      Nested .expression ((c.grouped g.closed).row ++ rendered.map Symbol.closing) := by
    intro some
    have read := tracks.readable.row
    rw [if_neg (show (c.grouped g.closed).size ≠ 0 from some)] at read
    exact read.nested
  have derives : c.size ≠ 0 →
      Derives .expression (c.pieces ++ List.replicate rendered.length .closing) := by
    intro some
    have plain := (nested some).derives
    rw [List.map_append, erased, List.map_map] at plain
    simpa [Function.comp_def, Symbol.piece, List.map_const'] using plain
  refine ⟨count ▸ derives, ?_, h.balanced, erased, ?_, ?_⟩
  · intro some none
    have closed : rendered.length = 0 := by
      have := tracks.depth
      simp only [Chain.depth] at none
      omega
    simpa [closed] using derives some
  · intro some
    exact ⟨rendered, tracks.opened ▸ List.suffix_append _ _, count.symm, nested some⟩
  · intro d made
    have same : d = c.closeGroup := Chain.eq_closeGroup made
    subst same
    obtain ⟨group, outer, opened, laid, next⟩ := tracks.closeGroup made
    refine ⟨group, outer, opened, ?_, ?_⟩
    · simp [Groups.call, Call.steps, Groups.step, opened]
    · have some : c.size ≠ 0 := by
        obtain ⟨start, -, filled⟩ := Chain.admits_strict_closeGroup.1 made
        omega
      rw [laid, Layout.row_trail (l := c.grouped g.closed) some]

/-- `((a AND (b)) AND NOT c` with its third group received open, and its `NOT` recorded in front
    of the `)` of its second one. -/
theorem strict_filter_derives_across_merge :
    ∃ c g, StrictlyBuilt c g ∧ g.closed = [2, 1] ∧
      Derives .expression (c.pieces ++ [.closing]) := by
  have received := StrictlyBuilt.new.run [.openGroup, .constant false] (by decide) rfl
  have base := StrictlyBuilt.new.run [.openGroup, .openGroup, .constant true] (by decide) rfl
  have closed := (base.merge received rfl).run
    [.closeGroup, .negate, .closeGroup, .constant true] (by decide) rfl
  exact ⟨_, _, closed, rfl, (strict_filter_derives closed).1 (by decide)⟩

end FilterQuery
