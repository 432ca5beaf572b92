import FilterQuery.Proofs.Chain.Replay
import FilterQuery.Proofs.Predicate.Merged

/-! # Merges and lenient replays

Under the lenient policy, a merge is a replay of the received calls up to what closes reach
across the seam. A `)` that finds no clause on the received side is dropped there, but made on
the base it follows the last clause of the base; a close that finds no open group there closes
one of the base. Both are followed through the replay as what it `spill`s on the base, and they
decide whether the predicates and the depths agree.
-/

namespace FilterQuery

/-- Whether a group is closed, among lenient calls, while the chain that they build has `P`. -/
def Call.ClosesWhile (P : Chain → Prop) (start : Chain) (calls : List Call) : Prop :=
  ∃ before after c, calls = before ++ .closeGroup :: after ∧
    Chain.run .lenient start before = .ok c ∧ P c

theorem Call.closesWhile_nil (P : Chain → Prop) (start : Chain) : ¬ClosesWhile P start [] := by
  rintro ⟨before, after, c, split, -⟩
  simp at split

theorem Call.closesWhile_cons {P : Chain → Prop} {start next : Chain} {call : Call}
    (made : start.apply .lenient call = .ok next) (rest : List Call) :
    ClosesWhile P start (call :: rest) ↔
      (call = .closeGroup ∧ P start) ∨ ClosesWhile P next rest := by
  constructor
  · rintro ⟨before, after, c, split, reached, holds⟩
    cases before with
    | nil =>
        cases reached
        exact .inl ⟨(List.cons.inj split).1, holds⟩
    | cons first before =>
        obtain ⟨rfl, later⟩ := List.cons.inj split
        obtain ⟨next', step, reached⟩ := Chain.run_cons_eq_ok.1 reached
        cases made.symm.trans step
        exact .inr ⟨before, after, c, later, reached, holds⟩
  · rintro (⟨rfl, holds⟩ | ⟨before, after, c, split, reached, holds⟩)
    · exact ⟨[], rest, start, rfl, rfl, holds⟩
    · exact ⟨call :: before, after, c, congrArg (call :: ·) split,
        Chain.run_cons_eq_ok.2 ⟨next, made, reached⟩, holds⟩

namespace Chain

variable {c : Chain} {marks : Nat}

/-! ## Lenient calls -/

theorem apply_lenient (c : Chain) (call : Call) : ∃ d, c.apply .lenient call = .ok d := by
  cases call <;> exact ⟨_, rfl⟩

theorem run_lenient (c : Chain) (calls : List Call) : ∃ d, run .lenient c calls = .ok d := by
  induction calls generalizing c with
  | nil => exact ⟨c, rfl⟩
  | cons call rest ih =>
      obtain ⟨next, first⟩ := apply_lenient c call
      obtain ⟨d, later⟩ := ih next
      exact ⟨d, run_cons_eq_ok.2 ⟨next, first, later⟩⟩

theorem apply_policy {call : Call} (other : call ≠ .closeGroup) (policy policy' : GroupPolicy)
    (c : Chain) : c.apply policy call = c.apply policy' call := by
  cases call <;> first | rfl | exact absurd rfl other

/-! ## What closes reach across a seam -/

/-- The chain with `marks` more `)` behind its last clause, and without its innermost `groups`. -/
def spill (c : Chain) (marks groups : Nat) : Chain :=
  { c with
    trailing := c.trailing ++ if c.size = 0 then [] else List.replicate marks (c.size - 1)
    openGroups := c.openGroups.take (c.depth - groups) }

theorem size_spill (c : Chain) (marks groups : Nat) : (c.spill marks groups).size = c.size := rfl

theorem depth_spill (c : Chain) (marks groups : Nat) :
    (c.spill marks groups).depth = c.depth - groups := by
  simp [spill, depth]

theorem spill_zero (c : Chain) : c.spill 0 0 = c := by
  simp [spill, depth]

theorem spill_spill (c : Chain) (marks groups marks' groups' : Nat) :
    (c.spill marks groups).spill marks' groups' = c.spill (marks + marks') (groups + groups') := by
  have taken : min (c.depth - groups - groups') (c.depth - groups) = c.depth - (groups + groups') := by
    omega
  rw [spill, size_spill, depth_spill]
  by_cases none : c.size = 0
  · simp only [spill, none, if_true, List.append_nil, List.take_take, taken]
  · simp only [spill, none, if_false, List.append_assoc, List.replicate_append_replicate,
      List.take_take, taken]

/-- A close that finds no group on the received side takes the innermost one of the base. -/
theorem dropLast_append_moved (front back : List Nat) (base : Nat) :
    (front ++ back.map (· + base)).dropLast =
      front.take (front.length - if back.length = 0 then 1 else 0) ++ back.dropLast.map (· + base) := by
  by_cases none : back = []
  · simp [none, List.dropLast_eq_take]
  · simp [none, List.dropLast_append_of_ne_nil]

theorem trailing_closeGroup_splice {r : Chain} (settled : r.size = 0 → r.trailing = []) (live : Bool)
    (c : Chain) :
    (c.splice live r).closeGroup.trailing =
      c.trailing ++ (if c.size = 0 then [] else List.replicate (if r.size = 0 then 1 else 0) (c.size - 1))
        ++ r.closeGroup.trailing.map (· + c.size) := by
  simp only [closeGroup, size_splice]
  by_cases none : r.size = 0
  · by_cases empty : c.size = 0 <;> simp [splice, merge, none, empty, settled none]
  · have last : c.size + r.size - 1 = r.size - 1 + c.size := by omega
    simp [splice, merge, none, last]

/-- A close of the replay falls on the base as far as the received chain has nothing to close. -/
theorem closeGroup_splice_spill {r : Chain} (settled : r.size = 0 → r.trailing = []) (live : Bool)
    (c : Chain) :
    (c.splice live r).closeGroup =
      (c.spill (if r.size = 0 then 1 else 0) (if r.depth = 0 then 1 else 0)).splice live
        r.closeGroup := by
  have marks := trailing_closeGroup_splice settled live c
  have groups := dropLast_append_moved c.openGroups r.openGroups c.size
  calc
    (c.splice live r).closeGroup =
        { c.splice live r with
          trailing := (c.splice live r).closeGroup.trailing
          openGroups := (c.openGroups ++ r.openGroups.map (· + c.size)).dropLast } := rfl
    _ = (c.spill (if r.size = 0 then 1 else 0) (if r.depth = 0 then 1 else 0)).splice live
          r.closeGroup := by
      rw [marks, groups]
      rfl

/-- Whether the closes among lenient calls spill any `)` or any group on the base. -/
structure Spills (r : Chain) (calls : List Call) (marks groups : Nat) : Prop where
  marks_eq_zero_iff : marks = 0 ↔ ¬Call.ClosesWhile (·.size = 0) r calls
  groups_eq_zero_iff : groups = 0 ↔ ¬Call.ClosesWhile (·.depth = 0) r calls

namespace Spills

variable {r next : Chain} {call : Call} {calls : List Call} {groups : Nat}

theorem nil (r : Chain) : Spills r [] 0 0 := by
  constructor <;> simp [Call.closesWhile_nil]

theorem close (h : Spills r.closeGroup calls marks groups) :
    Spills r (.closeGroup :: calls) ((if r.size = 0 then 1 else 0) + marks)
      ((if r.depth = 0 then 1 else 0) + groups) := by
  have made : r.apply .lenient .closeGroup = .ok r.closeGroup := rfl
  constructor
  · rw [Call.closesWhile_cons made, Nat.add_eq_zero_iff, h.marks_eq_zero_iff]
    by_cases empty : r.size = 0 <;> simp [empty]
  · rw [Call.closesWhile_cons made, Nat.add_eq_zero_iff, h.groups_eq_zero_iff]
    by_cases none : r.depth = 0 <;> simp [none]

theorem other (h : Spills next calls marks groups) (made : r.apply .lenient call = .ok next)
    (other : call ≠ .closeGroup) : Spills r (call :: calls) marks groups := by
  constructor
  · simpa [Call.closesWhile_cons made, other] using h.marks_eq_zero_iff
  · simpa [Call.closesWhile_cons made, other] using h.groups_eq_zero_iff

end Spills

/-! ## The replay -/

theorem run_replayFrom_close {r d : Chain} (settled : r.size = 0 → r.trailing = [])
    {rest : List Call}
    (replayed : run .lenient ((c.spill (if r.size = 0 then 1 else 0)
      (if r.depth = 0 then 1 else 0)).splice (rest.any Call.addsClause) r.closeGroup)
        (Call.replayFrom (!r.closeGroup.clauses.isEmpty) rest) = .ok d) :
    run .lenient (c.splice ((Call.closeGroup :: rest).any Call.addsClause) r)
      (Call.replayFrom (!r.clauses.isEmpty) (.closeGroup :: rest)) = .ok d := by
  have made : r.apply .lenient .closeGroup = .ok r.closeGroup := rfl
  have spilled := closeGroup_splice_spill settled (rest.any Call.addsClause) c
  exact run_replayFrom_cons made (fun _ => congrArg Except.ok spilled) nofun replayed

theorem run_replayFrom_other {r next d : Chain} {call : Call} {rest : List Call}
    (other : call ≠ .closeGroup) (step : r.apply .lenient call = .ok next)
    (replayed : run .lenient (c.splice (rest.any Call.addsClause) next)
      (Call.replayFrom (!next.clauses.isEmpty) rest) = .ok d) :
    run .lenient (c.splice ((call :: rest).any Call.addsClause) r)
      (Call.replayFrom (!r.clauses.isEmpty) (call :: rest)) = .ok d := by
  have strict := apply_policy other .lenient .strict
  rw [strict] at step
  refine run_replayFrom_cons step (fun made => ?_) (splice_apply step c) replayed
  rw [strict]
  exact apply_splice step c made

/-- A lenient replay builds the merge, but for what its closes have spilled on the base. -/
theorem run_replayFrom_lenient {r r' : Chain} {calls : List Call} (reachable : r.Reachable)
    (received : ∀ m, .merge m ∈ calls → m.Reachable) (h : run .lenient r calls = .ok r')
    (c : Chain) :
    ∃ marks groups, Spills r calls marks groups ∧
      run .lenient (c.splice (calls.any Call.addsClause) r)
        (Call.replayFrom (!r.clauses.isEmpty) calls) = .ok ((c.spill marks groups).merge r') := by
  induction calls generalizing r c with
  | nil =>
      cases h
      refine ⟨0, 0, .nil _, ?_⟩
      rw [spill_zero]
      exact congrArg Except.ok (splice_dead c _)
  | cons call rest ih =>
      obtain ⟨next, step, later⟩ := run_cons_eq_ok.1 h
      have reachable' : next.Reachable := by
        refine reachable.apply ?_ step
        rintro m rfl
        exact received m List.mem_cons_self
      have ih := ih reachable' (fun m member => received m (List.mem_cons_of_mem call member)) later
      by_cases close : call = .closeGroup
      · subst close
        cases step
        obtain ⟨marks, groups, spills, replayed⟩ :=
          ih (c.spill (if r.size = 0 then 1 else 0) (if r.depth = 0 then 1 else 0))
        rw [spill_spill] at replayed
        have settled := reachable.ordered.trailing_eq_nil
        exact ⟨_, _, spills.close, run_replayFrom_close settled replayed⟩
      · obtain ⟨marks, groups, spills, replayed⟩ := ih c
        exact ⟨_, _, spills.other step close, run_replayFrom_other close step replayed⟩

/-! ## What is spilled shows -/

theorem layout_spill_succ (some : c.size ≠ 0) (marks groups : Nat) :
    (c.spill (marks + 1) groups).layout = (c.spill marks groups).layout.trail .closing := by
  simp [layout, spill, some, Layout.trail, Layout.size, List.replicate_succ']
  rfl

theorem anchored_spill (h : c.layout.Anchored) (some : c.size ≠ 0) (marks groups : Nat) :
    (c.spill marks groups).layout.Anchored := by
  induction marks with
  | zero => exact ⟨h.leading, by simpa [layout, spill, some] using h.trailing⟩
  | succ marks ih =>
      rw [layout_spill_succ some]
      exact ih.trail some .closing

theorem row_spill (some : c.size ≠ 0) (marks groups : Nat) :
    (c.spill marks groups).layout.row = c.layout.row ++ List.replicate marks .closing := by
  induction marks with
  | zero => simp [layout, spill, some, Layout.row]
  | succ marks ih =>
      have filled : (c.spill marks groups).layout.size ≠ 0 := some
      rw [layout_spill_succ some, Layout.row_trail filled, ih, List.replicate_succ',
        List.append_assoc]

/-- What a merge writes behind the filter of a base that has clauses. -/
def receivedText (c m : Chain) (spacing : Spacing) : String :=
  if m.clauses = [] then ""
  else " " ++ c.pending.toText ++ " " ++ textOf spacing (c.waiting.map Piece.ofMarker)
    ++ textOf spacing (m.pieces.map (Piece.shift c.values.length))

theorem filterText_merge_behind (h : c.layout.Anchored) (some : c.size ≠ 0) (m : Chain) (spacing : Spacing) :
    (c.merge m).filterText spacing = c.filterText spacing ++ c.receivedText m spacing := by
  have clauses : c.clauses ≠ [] := fun none => some (List.length_eq_zero_iff.2 none)
  by_cases none : m.clauses = []
  · simp [filterText_merge_nil none, receivedText, none]
  · simp [filterText_merge h none, joined, clauses, receivedText, none, String.append_assoc]

theorem textOf_replicate_closing (spacing : Spacing) (marks : Nat) :
    textOf spacing (List.replicate marks .closing) = "" ↔ marks = 0 := by
  cases marks with
  | zero => simp [textOf]
  | succ marks => cases spacing <;> simp [textOf, List.replicate_succ, Piece.toText]

/-- Only the stack of open groups differs where no `)` is written: that is not rendered. -/
theorem render_merge_spill_unmarked (unmarked : c.size = 0 ∨ marks = 0) (m : Chain) (groups : Nat)
    (spacing : Spacing) :
    ((c.spill marks groups).merge m).render spacing = (c.merge m).render spacing := by
  have trailing : (c.spill marks groups).trailing = c.trailing := by
    rcases unmarked with none | rfl
    · simp [spill, none]
    · simp [spill]
  have layout : ((c.spill marks groups).merge m).layout = (c.merge m).layout := by
    simp only [Chain.layout, merge, trailing]
    rfl
  exact render_congr layout rfl rfl spacing

theorem render_merge_spill (h : c.layout.Anchored) (m : Chain) (marks groups : Nat)
    (spacing : Spacing) :
    (c.merge m).render spacing = ((c.spill marks groups).merge m).render spacing ↔
      c.size = 0 ∨ marks = 0 := by
  constructor
  · intro same
    by_cases none : c.size = 0
    · exact .inl none
    · right
      have clauses : c.clauses ≠ [] := fun empty => none (List.length_eq_zero_iff.2 empty)
      have base := filterText_merge_behind h none m spacing
      have spilled : ((c.spill marks groups).merge m).filterText spacing =
          c.filterText spacing ++ textOf spacing (List.replicate marks .closing)
            ++ c.receivedText m spacing := by
        rw [filterText_merge_behind (anchored_spill h none marks groups) none m spacing,
          filterText_eq_textOf (c := c.spill marks groups) clauses, filterText_eq_textOf clauses,
          pieces_eq_row, pieces_eq_row, row_spill none, textOf_append]
        rfl
      have expressions : (c.merge m).filterText spacing =
          ((c.spill marks groups).merge m).filterText spacing := by
        have whole := congrArg Predicate.expression same
        exact (String.append_left_inj _).1 ((String.append_left_inj _).1 whole)
      rw [base, spilled, String.append_left_inj] at expressions
      have text : textOf spacing (List.replicate marks .closing) = "" := by
        apply (String.append_right_inj (c.filterText spacing)).1
        rw [← expressions, String.append_empty]
      exact (textOf_replicate_closing spacing marks).1 text
  · intro unmarked
    exact (render_merge_spill_unmarked unmarked m groups spacing).symm

/-- Merging a chain that lenient calls have built renders as a replay of these calls exactly if
    the base has no clause or no group was closed before the received chain had one: such a `)` is
    dropped there, and follows the last clause of the base in the replay. As many groups are open
    exactly if none is open on the base or no close came while none was open on the received
    side. -/
theorem lenient_replay_eq_merge_iff {c : Chain} (h : c.Reachable) {calls : List Call}
    (received : ∀ m, .merge m ∈ calls → m.Reachable) :
    ∃ r d, run .lenient {} calls = .ok r ∧ run .lenient c (Call.replay calls) = .ok d ∧
      (∀ spacing, (c.merge r).render spacing = d.render spacing ↔
        c.size = 0 ∨ ¬Call.ClosesWhile (·.size = 0) {} calls) ∧
      ((c.merge r).depth = d.depth ↔
        c.depth = 0 ∨ ¬Call.ClosesWhile (·.depth = 0) {} calls) := by
  obtain ⟨r, alone⟩ := run_lenient {} calls
  obtain ⟨marks, groups, ⟨noMarks, noGroups⟩, replayed⟩ :=
    run_replayFrom_lenient Reachable.new received alone c
  rw [splice_new] at replayed
  refine ⟨r, _, alone, replayed, fun spacing => ?_, ?_⟩
  · rw [render_merge_spill h.ordered.anchored, noMarks]
  · have merged (base : Chain) : (base.merge r).depth = base.depth + r.depth := by
      simp [depth, merge]
    rw [merged, merged, depth_spill, ← noGroups]
    omega

/-- A group of the base is closed by the first call of the received chain: alone, it does nothing. -/
theorem lenient_replay_differs_from_merge :
    ∃ c r d, run .lenient {} [.openGroup, .constant true] = .ok c ∧
      run .lenient {} [.closeGroup, .connect .or, .constant false] = .ok r ∧
      run .lenient c (Call.replay [.closeGroup, .connect .or, .constant false]) = .ok d ∧
      (c.merge r).render .compact ≠ d.render .compact ∧ (c.merge r).depth ≠ d.depth := by
  have reachable := Reachable.new.run .lenient [.openGroup, .constant true] (by simp) rfl
  obtain ⟨r, d, alone, replayed, renders, depths⟩ :=
    @lenient_replay_eq_merge_iff _ reachable [.closeGroup, .connect .or, .constant false] (by simp)
  have closes (P : Chain → Prop) (start : P {}) :
      Call.ClosesWhile P {} [.closeGroup, .connect .or, .constant false] :=
    ⟨[], _, {}, rfl, rfl, start⟩
  refine ⟨_, r, d, rfl, alone, replayed, fun same => ?_, fun same => ?_⟩
  · rcases (renders .compact).1 same with none | never
    · cases none
    · exact never (closes _ rfl)
  · rcases depths.1 same with none | never
    · cases none
    · exact never (closes _ rfl)

end Chain

end FilterQuery
