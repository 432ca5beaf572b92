import FilterQuery.Proofs.Chain.Step

/-! # The groups of a chain

Which `)` closes which `(` is told by the calls alone: a `)` closes the innermost group that is
still open. `Groups` follows the calls, beside the chain that they build.
-/

namespace FilterQuery

/-- The groups that calls open and close. Each is named by the place of its `(` among all `(`
    and `NOT`, in the order of the calls. -/
structure Groups where
  /-- The number of `(` and `NOT` so far. -/
  marks : Nat := 0
  /-- The groups still open, innermost first. -/
  opened : List Nat := []
  /-- For every `)`, in the order of the calls, the group that it closes. -/
  closed : List Nat := []
  deriving Repr, DecidableEq

namespace Groups

/-- A `(` opens a group inside the others, a `)` closes the innermost one. -/
def step (g : Groups) : Step → Groups
  | .openGroup => { g with marks := g.marks + 1, opened := g.marks :: g.opened }
  | .negate => { g with marks := g.marks + 1 }
  | .closeGroup =>
      { g with opened := g.opened.tail, closed := g.closed ++ g.opened.head?.toList }
  | .append _ | .connect _ | .distinct _ | .limit _ => g

def call (g : Groups) (call : Call) : Groups :=
  call.steps.foldl step g

/-- The groups of a merge: those received are opened inside the others, by later marks. -/
def merge (g received : Groups) : Groups where
  marks := g.marks + received.marks
  opened := received.opened.map (· + g.marks) ++ g.opened
  closed := g.closed ++ received.closed.map (· + g.marks)

end Groups

/-- The chains that calls build under the strict policy, none of them refused, and which
    receive only chains that were built in this way. Beside each stand its groups. -/
inductive StrictlyBuilt : Chain → Groups → Prop where
  | new : StrictlyBuilt {} {}
  | call {c d g call} : StrictlyBuilt c g → call.isMerge = false →
      c.apply .strict call = .ok d → StrictlyBuilt d (g.call call)
  | merge {c d g m received} : StrictlyBuilt c g → StrictlyBuilt m received →
      c.apply .strict (.merge m) = .ok d → StrictlyBuilt d (g.merge received)

theorem StrictlyBuilt.run {c d : Chain} {g : Groups} (h : StrictlyBuilt c g) (calls : List Call)
    (single : ∀ call ∈ calls, call.isMerge = false) (made : Chain.run .strict c calls = .ok d) :
    StrictlyBuilt d (calls.foldl Groups.call g) :=
  Chain.run_along StrictlyBuilt.call h single made

namespace Chain

/-- The number of `(` in front of clauses. -/
def openings (c : Chain) : Nat :=
  c.leading.countP (·.kind = .opening)

theorem balanced_perform {c : Chain} {s : Step} (admitted : c.Admits .strict s)
    (h : c.depth + c.trailing.length = c.openings) :
    (c.perform s).depth + (c.perform s).trailing.length = (c.perform s).openings := by
  cases s with
  | append | connect | distinct | limit => exact h
  | openGroup =>
      simp only [depth, openings] at h
      simp only [perform, openGroup, depth, openings, List.length_append, List.countP_append, ← h]
      simp
      omega
  | negate =>
      simp only [depth, openings] at h
      simp [perform, negate, depth, openings, ← h]
  | closeGroup =>
      obtain ⟨start, last, filled⟩ := admits_strict_closeGroup.1 admitted
      have open_ : c.openGroups.length ≠ 0 := by
        intro none
        simp [List.length_eq_zero_iff.1 none] at last
      have some : c.size ≠ 0 := by omega
      simp only [depth, openings] at h
      simp only [perform, closeGroup, depth, openings, some, if_false, List.length_dropLast,
        List.length_append, List.length_singleton, ← h]
      omega

theorem openings_merge (c m : Chain) : (c.merge m).openings = c.openings + m.openings := by
  simp [openings, merge, List.countP_map, Function.comp_def, Marker.rebase]

end Chain

theorem StrictlyBuilt.balanced {c : Chain} {g : Groups} (h : StrictlyBuilt c g) :
    c.depth + c.trailing.length = c.openings := by
  induction h with
  | new => rfl
  | call _ single made ih =>
      exact (Chain.steps_of_apply made single).keep
        (P := fun c => c.depth + c.trailing.length = c.openings)
        (fun h admitted => Chain.balanced_perform admitted h) ih
  | merge _ _ made ihc ihm =>
      cases made
      rw [Chain.openings_merge, ← ihc, ← ihm]
      simp only [Chain.depth, Chain.merge, List.length_append, List.length_map]
      omega

end FilterQuery
