import FilterQuery.Proofs.Chain.Step

/-! # A merge as a replay

Splicing a chain behind another comes to the same as making its calls there, apart from the
calls that a splice cannot show: limits, and connectives without a clause on both sides.
The replay is followed call by call. Half way through it has built `splice`, where the last
connective of the received chain still counts as long as a clause is to come.
-/

namespace FilterQuery

namespace Call

/-- Whether the call appends a clause. A merge does so if it receives one. -/
def addsClause : Call → Bool
  | .compare _ _ _ | .between _ _ _ | .among _ _ | .constant _ | .raw _ _ => true
  | .merge received => !received.clauses.isEmpty
  | .connect _ | .negate | .openGroup | .closeGroup | .distinct _ | .limit _ => false

/-- Whether a replay makes the call, told whether a clause was added before and whether one
    is added later. -/
def isReplayed (started more : Bool) : Call → Bool
  | .limit _ => false
  | .connect _ => started && more
  | _ => true

def replayFrom (started : Bool) : List Call → List Call
  | [] => []
  | call :: rest =>
      let later := replayFrom (started || call.addsClause) rest
      if call.isReplayed started (rest.any addsClause) then call :: later else later

/-- The calls without the limits, and without the connectives that are not between two calls
    that add a clause. -/
def replay (calls : List Call) : List Call :=
  replayFrom false calls

end Call

namespace Chain

/-- The received chain spliced behind this one part way through its calls. Its pending
    connective is kept while it is `live`, that is, while more clauses are to come. -/
def splice (live : Bool) (c received : Chain) : Chain :=
  { c.merge received with
    pending :=
      if received.clauses.isEmpty then c.pending else if live then received.pending else .and }

theorem splice_dead (c r : Chain) : c.splice false r = c.merge r := by
  simp [splice, merge]

theorem splice_new (live : Bool) (c : Chain) : c.splice live {} = c := by
  simp [splice, merge]

theorem size_splice (live : Bool) (c r : Chain) : (c.splice live r).size = c.size + r.size := by
  simp [splice, merge, size]

theorem splice_settled {r : Chain} (h : r.pending = .and) (live : Bool) (c : Chain) :
    c.splice true r = c.splice live r := by
  simp [splice, merge, h]

theorem append_splice (live : Bool) (c r : Chain) (k : Condition) :
    (c.splice true r).append k = c.splice live (r.append k) := by
  cases h : r.clauses with
  | nil => simp [splice, merge, append, withFirst, h]
  | cons first rest => simp [splice, merge, append, withFirst, h]

theorem connect_splice {r : Chain} (h : r.clauses ≠ []) (c : Chain) (k : Connective) :
    (c.splice true r).connect k = c.splice true (r.connect k) := by
  simp [splice, merge, connect, h]

/-- Where no clause is in front or none is to come, a connective leaves no mark. -/
theorem splice_connect {live : Bool} {r : Chain} (h : (!r.clauses.isEmpty && live) = false)
    (c : Chain) (k : Connective) : c.splice live (r.connect k) = c.splice live r := by
  cases live with
  | false => simp [splice, merge, connect]
  | true =>
      have none : r.clauses = [] := by simpa using h
      simp [splice, merge, connect, none]

theorem negate_splice (live : Bool) (c r : Chain) :
    (c.splice live r).negate = c.splice live r.negate := by
  simp only [negate, size_splice]
  simp [splice, merge, Marker.rebase, Nat.add_comm]

theorem openGroup_splice (live : Bool) (c r : Chain) :
    (c.splice live r).openGroup = c.splice live r.openGroup := by
  simp only [openGroup, size_splice]
  simp [splice, merge, Marker.rebase, Nat.add_comm]

theorem closeGroup_splice {r : Chain} (opened : r.openGroups ≠ []) (filled : r.size ≠ 0)
    (live : Bool) (c : Chain) : (c.splice live r).closeGroup = c.splice live r.closeGroup := by
  have last : c.size + r.size - 1 = r.size - 1 + c.size := by omega
  have total : c.size + r.size ≠ 0 := by omega
  simp only [closeGroup, size_splice, total, filled, if_false, last]
  simp [splice, merge, List.dropLast_append_of_ne_nil, opened]

theorem addDistinct_splice (live : Bool) (c r : Chain) (properties : List String) :
    (c.splice live r).addDistinct properties = c.splice live (r.addDistinct properties) := by
  simp [splice, merge, addDistinct]

theorem setLimit_splice (live : Bool) (c r : Chain) (n : UInt64) :
    c.splice live (r.setLimit n) = c.splice live r := rfl

theorem moved_add (outer inner : Nat) :
    (fun n : Nat => n + (outer + inner)) = (· + outer) ∘ (· + inner) := by
  funext n
  simp only [Function.comp_apply, Nat.add_comm outer inner, Nat.add_assoc]

/-- Merges nest: what the received chain has received moves up by both chains in front. -/
theorem merge_splice (more : Bool) (c r m : Chain) :
    (c.splice (!m.clauses.isEmpty || more) r).merge m = c.splice more (r.merge m) := by
  rw [merge, size_splice]
  simp only [splice, merge, Marker.rebase_add, moved_add]
  by_cases hr : r.clauses = []
  · by_cases hm : m.clauses = [] <;> simp [hr, hm]
  · by_cases hm : m.clauses = [] <;> simp [hr, hm, withFirst_append]

theorem anyEqual_splice (c r : Chain) (property : String) (first : Value) (rest : List Value) :
    (c.splice true r).anyEqual property (first :: rest) =
      c.splice true (r.anyEqual property (first :: rest)) := by
  induction rest generalizing r first with
  | nil => exact append_splice true c r _
  | cons second rest ih =>
      simp only [anyEqual, compare, append_splice true] at ih ⊢
      rw [connect_splice (by simp [append])]
      exact ih _ second

theorem between_splice (live : Bool) (c r : Chain) (property : String) (low high : Value) :
    (c.splice true r).between property low high = c.splice live (r.between property low high) := by
  simp only [between, compare, openGroup_splice, append_splice true]
  rw [closeGroup_splice (by simp [append, openGroup]) (by simp [append, size])]
  exact splice_settled rfl live c

theorem among_splice (live : Bool) (c r : Chain) (property : String) (values : List Value) :
    (c.splice true r).among property values = c.splice live (r.among property values) := by
  cases values with
  | nil => exact append_splice live c r _
  | cons first rest =>
      simp only [among, List.isEmpty_cons, Bool.false_eq_true, if_false, openGroup_splice]
      rw [anyEqual_splice,
        closeGroup_splice (by simp [openGroups_anyEqual, openGroup]) (by simp [size_anyEqual])]
      exact splice_settled (r := closeGroup _) (pending_anyEqual _ property first rest) live c

theorem strict_closeGroup_splice {r : Chain} (h : r.Admits .strict .closeGroup) (live : Bool)
    (c : Chain) : (c.splice live r).closeGroup? .strict = .ok (c.splice live r.closeGroup) := by
  obtain ⟨start, opened, filled⟩ := admits_strict_closeGroup.1 h
  have some : r.openGroups ≠ [] := by
    intro none
    simp [none] at opened
  rw [← closeGroup_splice some (by omega)]
  refine admits_strict_closeGroup.2 ⟨start + c.size, ?_, ?_⟩
  · simp [splice, merge, opened]
  · rw [size_splice]
    omega

theorem isEmpty_append (c : Chain) (k : Condition) : (c.append k).clauses.isEmpty = false := by
  simp [append]

theorem started_apply {policy : GroupPolicy} {r r' : Chain} {call : Call}
    (h : r.apply policy call = .ok r') :
    (!r'.clauses.isEmpty) = (!r.clauses.isEmpty || call.addsClause) := by
  cases call with
  | closeGroup =>
      rw [eq_closeGroup h]
      simp [closeGroup, Call.addsClause]
  | among property values =>
      cases h
      cases values with
      | nil => simp [among, isEmpty_append, Call.addsClause]
      | cons first rest =>
          have grown := size_anyEqual r.openGroup property (first :: rest)
          have some : (r.openGroup.anyEqual property (first :: rest)).clauses ≠ [] := by
            intro none
            simp [size, none] at grown
          simp [among, closeGroup, some, Call.addsClause]
  | merge received =>
      cases h
      cases hr : r.clauses <;> cases hm : received.clauses <;>
        simp [merge, withFirst, Call.addsClause, hr, hm]
  | _ =>
      cases h
      simp [Call.addsClause, compare, between, append, connect, negate, openGroup, closeGroup,
        addDistinct, setLimit]

/-- A call that the replay makes does there what it did on the received chain alone. -/
theorem apply_splice {r r' : Chain} {call : Call} (h : r.apply .strict call = .ok r') (c : Chain)
    {more : Bool} (made : call.isReplayed (!r.clauses.isEmpty) more = true) :
    (c.splice (call.addsClause || more) r).apply .strict call = .ok (c.splice more r') := by
  cases call with
  | compare | constant | raw =>
      cases h
      exact congrArg Except.ok (append_splice more c r _)
  | between property low high =>
      cases h
      exact congrArg Except.ok (between_splice more c r property low high)
  | among property values =>
      cases h
      exact congrArg Except.ok (among_splice more c r property values)
  | merge received =>
      cases h
      exact congrArg Except.ok (merge_splice more c r received)
  | connect k =>
      cases h
      obtain ⟨clause, rfl⟩ : r.clauses ≠ [] ∧ more = true := by
        simpa [Call.isReplayed] using made
      exact congrArg Except.ok (connect_splice clause c k)
  | negate =>
      cases h
      exact congrArg Except.ok (negate_splice more c r)
  | openGroup =>
      cases h
      exact congrArg Except.ok (openGroup_splice more c r)
  | closeGroup =>
      have same : r' = r.closeGroup := eq_closeGroup h
      subst same
      exact strict_closeGroup_splice h more c
  | distinct properties =>
      cases h
      exact congrArg Except.ok (addDistinct_splice more c r properties)
  | limit n => cases made

/-- A call that the replay leaves out has left no mark on the splice. -/
theorem splice_apply {r r' : Chain} {call : Call} (h : r.apply .strict call = .ok r') (c : Chain)
    {more : Bool} (omitted : call.isReplayed (!r.clauses.isEmpty) more = false) :
    c.splice (call.addsClause || more) r = c.splice more r' := by
  cases call with
  | connect k =>
      cases h
      exact (splice_connect omitted c k).symm
  | limit n =>
      cases h
      exact (setLimit_splice more c _ n).symm
  | _ => cases omitted

theorem run_replayFrom_cons {policy policy' : GroupPolicy} {r next front later d : Chain}
    {call : Call} {rest : List Call} (step : r.apply policy' call = .ok next)
    (made : call.isReplayed (!r.clauses.isEmpty) (rest.any Call.addsClause) = true →
      front.apply policy call = .ok later)
    (omitted : call.isReplayed (!r.clauses.isEmpty) (rest.any Call.addsClause) = false →
      front = later)
    (replayed : run policy later (Call.replayFrom (!next.clauses.isEmpty) rest) = .ok d) :
    run policy front (Call.replayFrom (!r.clauses.isEmpty) (call :: rest)) = .ok d := by
  rw [started_apply step] at replayed
  simp only [Call.replayFrom]
  cases kept : call.isReplayed (!r.clauses.isEmpty) (rest.any Call.addsClause) with
  | true => exact run_cons_eq_ok.2 ⟨later, made kept, replayed⟩
  | false =>
      rw [omitted kept]
      exact replayed

theorem run_replayFrom {r r' : Chain} {calls : List Call} (h : run .strict r calls = .ok r')
    (c : Chain) :
    run .strict (c.splice (calls.any Call.addsClause) r)
      (Call.replayFrom (!r.clauses.isEmpty) calls) = .ok (c.merge r') := by
  induction calls generalizing r with
  | nil =>
      cases h
      exact congrArg Except.ok (splice_dead c _)
  | cons call rest ih =>
      obtain ⟨next, step, later⟩ := run_cons_eq_ok.1 h
      -- whether the connective of the splice is live is decided by this call and those left
      exact run_replayFrom_cons step (apply_splice step c) (splice_apply step c) (ih later)

/-- Merging a chain that strict calls have built comes to the same as replaying these calls:
    none of them is refused, and the record is the merged one. -/
theorem run_replay_eq_merge {r : Chain} {calls : List Call} (h : run .strict {} calls = .ok r)
    (c : Chain) : run .strict c (Call.replay calls) = .ok (c.merge r) := by
  have replayed := run_replayFrom h c
  rwa [splice_new] at replayed

/-- A group left open by a nested merge is closed on the base as it was alone. -/
theorem run_replay_eq_merge_across_seams :
    ∃ c r, run .lenient {} [.closeGroup, .constant true, .negate, .connect .or] = .ok c ∧
      run .strict {} [.connect .and, .openGroup, .constant true, .limit 3, .connect .or,
        .merge { clauses := [⟨.and, .constant false⟩], leading := [⟨.opening, 0⟩], openGroups := [0] },
        .closeGroup, .connect .or] = .ok r ∧
      run .strict c (Call.replay [.connect .and, .openGroup, .constant true, .limit 3, .connect .or,
        .merge { clauses := [⟨.and, .constant false⟩], leading := [⟨.opening, 0⟩], openGroups := [0] },
        .closeGroup, .connect .or]) = .ok (c.merge r) :=
  ⟨_, _, rfl, rfl, run_replay_eq_merge rfl _⟩

end Chain

end FilterQuery
