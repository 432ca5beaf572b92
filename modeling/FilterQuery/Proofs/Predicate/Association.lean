import FilterQuery.Proofs.Chain.Replay
import FilterQuery.Proofs.Predicate.Merged

/-! # Merging more than two chains

Of three chains, it does not matter which two are merged first, but for one connective. A merge
uses up the pending connective of its base if it receives a clause. So the one that the chain in
the middle has pending joins the third chain if it meets it first, and is lost if the middle chain
has been received before.
-/

namespace FilterQuery

@[simp] theorem Piece.shift_zero (p : Piece) : p.shift 0 = p := by
  cases p with
  | fragment f => exact congrArg fragment (Fragment.shift_zero f)
  | _ => rfl

namespace Chain

theorem withFirst_eq_iff {k j : Connective} {clauses : List Clause} :
    withFirst k clauses = withFirst j clauses ↔ clauses = [] ∨ k = j := by
  cases clauses <;> simp [withFirst]

/-! ## The new chain -/

theorem merge_new (c : Chain) : c.merge {} = c := by
  rw [← splice_dead, splice_new]

/-- The first connective is the only thing in the received clauses that changes, and it is not
    written. -/
theorem filterText_new_merge (m : Chain) (spacing : Spacing) :
    (({} : Chain).merge m).filterText spacing = m.filterText spacing := by
  by_cases none : m.clauses = []
  · rw [filterText_merge_nil none]
    simp [filterText, none]
  · have unmoved : m.pieces.map (Piece.shift ({} : Chain).values.length) = m.pieces :=
      List.map_id'' Piece.shift_zero _
    rw [filterText_merge Ordered.new.anchored none, unmoved, filterText_eq_textOf none]
    simp [joined, waiting, textOf]

theorem render_new_merge (m : Chain) (spacing : Spacing) :
    (({} : Chain).merge m).render spacing = { m with limit := none }.render spacing := by
  have filter : { m with limit := none }.filterText spacing = m.filterText spacing := by
    simp only [filterText, pieces_eq_row]
    rfl
  simp only [render, filterText_new_merge, filter, values_merge]
  rfl

/-! ## Three chains -/

/-- The connective of a third chain's first clause if the second chain receives it. -/
def innerJoint (a b : Chain) : Connective :=
  if b.clauses = [] then a.pending else b.pending

variable {a b c : Chain}

theorem pending_merge (some : b.clauses ≠ []) : (a.merge b).pending = .and := by
  simp [merge, some]

theorem innerJoint_eq_pending (some : b.clauses ≠ []) : a.innerJoint b = b.pending :=
  if_neg some

/-- Received one after the other, the third chain is joined by what the merge of the first two has
    pending. -/
theorem clauses_merge_left :
    ((a.merge b).merge c).clauses = (a.merge b).clauses ++ withFirst (a.merge b).pending c.clauses :=
  rfl

theorem clauses_merge_right :
    (a.merge (b.merge c)).clauses = (a.merge b).clauses ++ withFirst (a.innerJoint b) c.clauses := by
  by_cases none : b.clauses = []
  · simp [merge, innerJoint, none]
  · simp [merge, innerJoint, none, withFirst_append]

/-- Merges nest in everything but the clauses. -/
theorem merge_merge_dressing :
    (a.merge b).merge c =
      { a.merge (b.merge c) with clauses := ((a.merge b).merge c).clauses } := by
  -- while a clause is to come the splice keeps another pending connective, and nothing else
  have nested := merge_splice false a b c
  rw [splice_dead] at nested
  rw [← nested]
  by_cases none : c.clauses = []
  · simp [splice, merge, none]
  · simp [splice, merge, size, none]

theorem merge_pending_eq_iff :
    (a.merge b).pending = a.innerJoint b ↔ b.clauses = [] ∨ b.pending = .and := by
  by_cases none : b.clauses = []
  · simp [merge, innerJoint, none]
  · simp only [pending_merge none, innerJoint_eq_pending none, none, false_or]
    exact eq_comm

/-- The clauses are the same unless the pending connective of the chain in the middle makes the
    difference. -/
theorem clauses_merge_merge_eq_iff :
    ((a.merge b).merge c).clauses = (a.merge (b.merge c)).clauses ↔
      b.clauses = [] ∨ c.clauses = [] ∨ b.pending = .and := by
  rw [clauses_merge_left, clauses_merge_right, List.append_cancel_left_eq, withFirst_eq_iff,
    merge_pending_eq_iff, or_left_comm]

end Chain

/-- Merging is associative but for one connective, and the new chain is neutral. Of three chains,
    either way of merging records the same but for the clauses, and the same clauses unless the
    third chain has one that the second, with clauses of its own, would join by `OR`. Then its
    first clause is joined by `AND` if the second chain was received before, by `OR` if the second
    has received it. Received by the new chain, a chain keeps its predicate, without the limit. -/
theorem merge_associates_unless_pending (a b c : Chain) :
    (a.merge b).merge c =
      { a.merge (b.merge c) with clauses := ((a.merge b).merge c).clauses } ∧
    (((a.merge b).merge c).clauses = (a.merge (b.merge c)).clauses ↔
      b.clauses = [] ∨ c.clauses = [] ∨ b.pending = .and) ∧
    (b.clauses ≠ [] → b.pending = .or → ∀ first rest, c.clauses = first :: rest →
      ((a.merge b).merge c).clauses =
        (a.merge b).clauses ++ { first with connective := .and } :: rest ∧
      (a.merge (b.merge c)).clauses =
        (a.merge b).clauses ++ { first with connective := .or } :: rest) ∧
    a.merge {} = a ∧
    ∀ spacing, (({} : Chain).merge b).render spacing = { b with limit := none }.render spacing := by
  refine ⟨Chain.merge_merge_dressing, Chain.clauses_merge_merge_eq_iff, ?_, a.merge_new,
    b.render_new_merge⟩
  intro some waits first rest clauses
  rw [Chain.clauses_merge_left, Chain.clauses_merge_right, Chain.pending_merge some,
    Chain.innerJoint_eq_pending some, waits, clauses]
  exact ⟨rfl, rfl⟩

/-- The exception, seen in the text. -/
theorem merge_associates_unless_pending_exception :
    ∃ a b c : Chain, b.clauses ≠ [] ∧ b.pending = .or ∧ c.clauses ≠ [] ∧
      ((a.merge b).merge c).clauses ≠ (a.merge (b.merge c)).clauses ∧
      ((a.merge b).merge c).clauses[2]? = some ⟨.and, .constant true⟩ ∧
      (a.merge (b.merge c)).clauses[2]? = some ⟨.or, .constant true⟩ ∧
      ((a.merge b).merge c).filterText .compact =
        "FALSEPREDICATE OR FALSEPREDICATE AND NOT TRUEPREDICATE" ∧
      (a.merge (b.merge c)).filterText .compact =
        "FALSEPREDICATE OR FALSEPREDICATE OR NOT TRUEPREDICATE" := by
  let a := (({} : Chain).append (.constant false)).connect .or
  let b := (({} : Chain).append (.constant false)).connect .or
  let c := ({} : Chain).negate.append (.constant true)
  have some : b.clauses ≠ [] := by decide
  obtain ⟨-, same, exception, -⟩ := merge_associates_unless_pending a b c
  obtain ⟨left, right⟩ := exception some rfl _ _ rfl
  exact ⟨a, b, c, some, rfl, by decide, fun eq => absurd (same.1 eq) (by decide),
    by rw [left]; rfl, by rw [right]; rfl, by decide, by decide⟩

end FilterQuery
