import FilterQuery.Proofs.Chain.Markers

/-! # What open groups hold

Whether a group may be closed is told by the calls alone: a stack with a count for every open
group, of the clauses that came after its `(`. A chain keeps no such counts. It keeps where each
group began, and looks at the last of these places only, but that comes to the same after any
calls and merges.
-/

namespace FilterQuery

/-- What calls have added, and to which of the groups that are still open. -/
structure Filling where
  /-- The number of clauses. -/
  clauses : Nat := 0
  /-- For every group still open, innermost first, the number of clauses that it holds. -/
  opened : List Nat := []
  deriving Repr, DecidableEq

namespace Filling

/-- A clause counts for all groups around it, and nothing else does. -/
def step (f : Filling) : Step → Filling
  | .append _ => { clauses := f.clauses + 1, opened := f.opened.map (· + 1) }
  | .openGroup => { f with opened := 0 :: f.opened }
  | .closeGroup => { f with opened := f.opened.tail }
  | .connect _ | .negate | .distinct _ | .limit _ => f

def call (f : Filling) (call : Call) : Filling :=
  call.steps.foldl step f

/-- All that a merge receives counts for the groups around it. The groups received open come to
    stand inside them. -/
def merge (f received : Filling) : Filling where
  clauses := f.clauses + received.clauses
  opened := received.opened ++ f.opened.map (· + received.clauses)

end Filling

/-- The chains that calls build under any policies, and receive from one another. Beside each
    stands what was counted on the way. -/
inductive Filled : Chain → Filling → Prop where
  | new : Filled {} {}
  | call {policy c d f call} : Filled c f → call.isMerge = false →
      c.apply policy call = .ok d → Filled d (f.call call)
  | merge {c f m received} : Filled c f → Filled m received →
      Filled (c.merge m) (f.merge received)

theorem Chain.Reachable.filled {c : Chain} (h : c.Reachable) : ∃ f, Filled c f := by
  induction h with
  | new => exact ⟨_, .new⟩
  | call _ single _ made ih =>
      obtain ⟨f, before⟩ := ih
      exact ⟨_, before.call single made⟩
  | merge _ _ ihc ihm =>
      obtain ⟨f, base⟩ := ihc
      obtain ⟨received, other⟩ := ihm
      exact ⟨_, base.merge other⟩

theorem Filled.run {c d : Chain} {f : Filling} (h : Filled c f) (policy : GroupPolicy)
    (calls : List Call) (single : ∀ call ∈ calls, call.isMerge = false)
    (made : Chain.run policy c calls = .ok d) : Filled d (calls.foldl Filling.call f) :=
  Chain.run_along Filled.call h single made

namespace Chain

/-- The number of clauses behind the `(` of every open group, innermost first. -/
def contents (c : Chain) : List Nat :=
  (c.openGroups.map (c.size - ·)).reverse

variable {c m : Chain}

/-- Clauses that are added count for every group that began before them. -/
theorem map_sub_add {starts : List Nat} {size : Nat} (below : ∀ start ∈ starts, start ≤ size)
    (more : Nat) : starts.map (size + more - ·) = (starts.map (size - ·)).map (· + more) := by
  rw [List.map_map]
  refine List.map_congr_left fun start member => ?_
  have := below start member
  simp only [Function.comp_apply]
  omega

theorem contents_append (h : c.Ordered) (k : Condition) :
    (c.append k).contents = c.contents.map (· + 1) := by
  rw [contents, size_append, contents, List.map_reverse, ← map_sub_add h.openGroups_le]
  rfl

theorem contents_openGroup (c : Chain) : c.openGroup.contents = 0 :: c.contents := by
  simp [contents, openGroup, size]

theorem contents_closeGroup (c : Chain) : c.closeGroup.contents = c.contents.tail := by
  rw [contents, contents, List.tail_reverse, ← List.map_dropLast]
  rfl

theorem contents_merge (h : c.Ordered) (m : Chain) :
    (c.merge m).contents = m.contents ++ c.contents.map (· + m.size) := by
  have received : (m.openGroups.map (· + c.size)).map (c.size + m.size - ·) =
      m.openGroups.map (m.size - ·) := by
    rw [List.map_map]
    refine List.map_congr_left fun start _ => ?_
    simp only [Function.comp_apply]
    omega
  rw [contents, size_merge, contents, contents, List.map_reverse, ← map_sub_add h.openGroups_le,
    ← received, ← List.reverse_append, ← List.map_append]
  rfl

theorem closeGroup?_strict (c : Chain) :
    c.closeGroup? .strict =
      match c.contents with
      | [] => .error .unopenedGroup
      | 0 :: _ => .error .emptyGroup
      | _ :: _ => .ok c.closeGroup := by
  rcases List.eq_nil_or_concat c.openGroups with none | ⟨outer, start, groups⟩
  · simp [closeGroup?, contents, none]
  · by_cases empty : c.size ≤ start
    · have nothing : c.size - start = 0 := by omega
      simp [closeGroup?, contents, groups, empty, nothing]
    · obtain ⟨count, some⟩ : ∃ count, c.size - start = count + 1 := ⟨c.size - start - 1, by omega⟩
      simp [closeGroup?, contents, groups, empty, some]

end Chain

/-- The counts are those of the record. -/
structure Filling.Counts (f : Filling) (c : Chain) : Prop where
  clauses : f.clauses = c.size
  opened : f.opened = c.contents
  ordered : c.Ordered

namespace Filling.Counts

variable {f received : Filling} {c d m : Chain}

theorem step (h : f.Counts c) (s : Step) : (f.step s).Counts (c.perform s) := by
  refine ⟨?_, ?_, h.ordered.step s⟩
  · cases s with
    | append k => exact (congrArg (· + 1) h.clauses).trans (Chain.size_append c k).symm
    | _ => exact h.clauses
  · cases s with
    | append k => exact (congrArg _ h.opened).trans (Chain.contents_append h.ordered k).symm
    | openGroup => exact (congrArg _ h.opened).trans (Chain.contents_openGroup c).symm
    | closeGroup => exact (congrArg _ h.opened).trans (Chain.contents_closeGroup c).symm
    | _ => exact h.opened

theorem steps {policy : GroupPolicy} {steps : List Step} (h : f.Counts c)
    (made : Chain.Steps policy c steps d) : (steps.foldl Filling.step f).Counts d := by
  induction made generalizing f with
  | nil => exact h
  | cons _ _ ih => exact ih (h.step _)

theorem merge (hc : f.Counts c) (hm : received.Counts m) :
    (f.merge received).Counts (c.merge m) where
  clauses := by rw [Chain.size_merge, ← hc.clauses, ← hm.clauses]; rfl
  opened := by rw [Chain.contents_merge hc.ordered, ← hc.opened, ← hm.opened, ← hm.clauses]; rfl
  ordered := hc.ordered.merge hm.ordered

end Filling.Counts

theorem Filled.counts {c : Chain} {f : Filling} (h : Filled c f) : f.Counts c := by
  induction h with
  | new => exact ⟨rfl, rfl, Chain.Ordered.new⟩
  | call _ single made ih => exact ih.steps (Chain.steps_of_apply made single)
  | merge _ _ ihc ihm => exact ihc.merge ihm

/-- Under the strict policy a group is closed exactly if one is open and holds a clause. Without
    an open group, or with none but an empty one inside, the close is refused for that reason. A
    close that is not refused does what it does under the lenient policy, and that never refuses
    one. -/
theorem closeGroup_accepted_iff {c : Chain} {f : Filling} (h : Filled c f) :
    (c.apply .strict .closeGroup = .error .unopenedGroup ↔ f.opened = []) ∧
    (c.apply .strict .closeGroup = .error .emptyGroup ↔ f.opened.head? = some 0) ∧
    (f.opened ≠ [] → f.opened.head? ≠ some 0 →
      ∃ d, c.apply .strict .closeGroup = .ok d ∧ c.apply .lenient .closeGroup = .ok d) ∧
    ∀ d : Chain, d.Reachable → (∃ g, Filled d g) ∧ ∃ e, d.apply .lenient .closeGroup = .ok e := by
  have every (d : Chain) (reachable : d.Reachable) :
      (∃ g, Filled d g) ∧ ∃ e, d.apply .lenient .closeGroup = .ok e :=
    ⟨reachable.filled, _, rfl⟩
  have closes : c.apply .strict .closeGroup = c.closeGroup? .strict := rfl
  rw [closes, Chain.closeGroup?_strict, ← h.counts.opened]
  cases f.opened with
  | nil => simpa using every
  | cons count outer =>
      cases count with
      | zero => simpa using every
      | succ count => simpa [Chain.apply, Chain.closeGroup?] using every

/-- An empty group that was received open stands inside a group that was received with a clause
    and one of the base. It is refused to be closed until a clause has come. -/
theorem closeGroup_accepted_iff_across_merge :
    ∃ c f d g, Filled c f ∧ f.opened = [0, 1, 4] ∧
      c.apply .strict .closeGroup = .error .emptyGroup ∧
      Filled d g ∧ g.opened = [1, 2, 5] ∧ d.apply .strict .closeGroup = d.apply .lenient .closeGroup := by
  have base := Filled.new.run .strict
    [.openGroup, .constant true, .among "a" [.null, .null]] (by decide) rfl
  have received := Filled.new.run .strict
    [.openGroup, .constant false, .negate, .openGroup, .connect .or] (by decide) rfl
  have merged := base.merge received
  have longer := merged.run .strict [.constant true] (by decide) rfl
  obtain ⟨e, strict, lenient⟩ := (closeGroup_accepted_iff longer).2.2.1 (by decide) (by decide)
  exact ⟨_, _, _, _, merged, rfl, (closeGroup_accepted_iff merged).2.1.2 rfl, longer, rfl,
    strict.trans lenient.symm⟩

end FilterQuery
