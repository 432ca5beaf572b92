import FilterQuery.Proofs.Chain.Step

/-! # Composed calls

`between` and `among` record what the calls they stand for would record one by one. They close
their group unchecked, but what they have put into it also satisfies the strict policy.
-/

namespace FilterQuery

namespace Call

def equal (property : String) (value : Value) : Call :=
  .compare property (.matching .equal false) value

/-- The calls that a call stands for, each of which takes a single step. -/
def expansion : Call → List Call
  | .between property low high =>
      [.openGroup, .compare property (.order .greaterOrEqual) low,
        .compare property (.order .lessOrEqual) high, .closeGroup]
  | .among _ [] => [.constant false]
  | .among property (first :: rest) =>
      .openGroup :: equal property first ::
        (rest.flatMap (fun value => [.connect .or, equal property value]) ++ [.closeGroup])
  | call => [call]

theorem steps_expansion (call : Call) : call.expansion.flatMap steps = call.steps := by
  cases call with
  | among property values =>
      cases values with
      | nil => rfl
      | cons first rest =>
          simp [expansion, steps, equal, List.flatMap_assoc, Step.orEqual, Step.equal]
  | _ => rfl

theorem single_of_mem_expansion {call part : Call} (h : part ∈ call.expansion)
    (single : call.isMerge = false) : ∃ s, part.steps = [s] := by
  cases call with
  | between property low high =>
      simp only [expansion, List.mem_cons, List.not_mem_nil, or_false] at h
      rcases h with rfl | rfl | rfl | rfl <;> exact ⟨_, rfl⟩
  | among property values =>
      cases values with
      | nil =>
          cases List.mem_singleton.1 h
          exact ⟨_, rfl⟩
      | cons first rest =>
          simp only [expansion, List.mem_cons, List.mem_append, List.mem_flatMap, List.not_mem_nil,
            or_false] at h
          rcases h with rfl | rfl | ⟨value, -, rfl | rfl⟩ | rfl <;> exact ⟨_, rfl⟩
  | merge => cases single
  | _ =>
      cases List.mem_singleton.1 h
      exact ⟨_, rfl⟩

end Call

namespace Chain

variable {policy : GroupPolicy} {c d : Chain}

theorem apply_of_admits {call : Call} {s : Step} (single : call.steps = [s])
    (admitted : c.Admits policy s) : c.apply policy call = .ok (c.perform s) := by
  cases call with
  | closeGroup =>
      cases single
      exact admitted
  | among property values =>
      cases values with
      | nil =>
          cases single
          rfl
      | cons first rest => cases single
  | between | merge => cases single
  | _ =>
      cases single
      rfl

theorem run_of_steps {calls : List Call} (single : ∀ call ∈ calls, ∃ s, call.steps = [s])
    (made : Steps policy c (calls.flatMap Call.steps) d) : run policy c calls = .ok d := by
  induction calls generalizing c with
  | nil =>
      cases made
      rfl
  | cons call rest ih =>
      obtain ⟨s, one⟩ := single call List.mem_cons_self
      rw [List.flatMap_cons, one] at made
      cases made with
      | cons admitted later =>
          have rest := ih (fun call member => single call (List.mem_cons_of_mem _ member)) later
          exact run_cons_eq_ok.2 ⟨_, apply_of_admits one admitted, rest⟩

/-- Whatever a call that is no merge does, the calls it stands for do. -/
theorem run_expansion (call : Call) (h : c.apply policy call = .ok d)
    (single : call.isMerge = false) : run policy c call.expansion = .ok d := by
  refine run_of_steps (fun part member => Call.single_of_mem_expansion member single) ?_
  rw [Call.steps_expansion]
  exact steps_of_apply h single

/-- The chain has gained clauses that bind these values. They are joined to those before by the
    connective that was pending, and they leave no group open and no connective behind. -/
structure Gains (c d : Chain) (values : List Value) : Prop where
  openGroups : d.openGroups = c.openGroups
  pending : d.pending = .and
  clauses : ∃ first rest, d.clauses = c.clauses ++ first :: rest ∧ first.connective = c.pending
  values : d.values = c.values ++ values

theorem values_of_clauses {added : List Clause} (h : d.clauses = c.clauses ++ added) :
    d.values = c.values ++ added.flatMap Clause.values := by
  rw [values, h, List.flatMap_append]
  rfl

theorem clauses_anyEqual (c : Chain) (property : String) (first : Value) (rest : List Value) :
    (c.anyEqual property (first :: rest)).clauses =
      c.clauses ++ ⟨c.pending, .comparison property (.matching .equal false) first⟩ ::
        rest.map fun value => ⟨.or, .comparison property (.matching .equal false) value⟩ := by
  induction rest generalizing c first with
  | nil => rfl
  | cons second rest ih =>
      refine (ih _ second).trans ?_
      simp [compare, append, connect]

theorem gains_among (c : Chain) (property : String) (values : List Value) :
    c.Gains (c.among property values) values := by
  cases values with
  | nil =>
      have clauses : (c.among property []).clauses = c.clauses ++ [⟨c.pending, .constant false⟩] := rfl
      exact ⟨rfl, rfl, ⟨_, _, clauses, rfl⟩, values_of_clauses clauses⟩
  | cons first rest =>
      have clauses : (c.among property (first :: rest)).clauses = c.clauses ++ _ :=
        clauses_anyEqual c.openGroup property first rest
      have opened : (c.among property (first :: rest)).openGroups = c.openGroups := by
        simp [among, closeGroup, openGroups_anyEqual, openGroup]
      refine ⟨opened, pending_anyEqual _ property first rest, ⟨_, _, clauses, rfl⟩, ?_⟩
      refine (values_of_clauses clauses).trans ?_
      simp [List.flatMap_map, Clause.values, Condition.values]

theorem gains_between (c : Chain) (property : String) (low high : Value) :
    c.Gains (c.between property low high) [low, high] := by
  have clauses : (c.between property low high).clauses = c.clauses ++
      [⟨c.pending, .comparison property (.order .greaterOrEqual) low⟩,
        ⟨.and, .comparison property (.order .lessOrEqual) high⟩] := by
    simp [between, compare, append, openGroup, closeGroup]
  have opened : (c.between property low high).openGroups = c.openGroups := by
    simp [between, compare, append, openGroup, closeGroup]
  exact ⟨opened, rfl, ⟨_, _, clauses, rfl⟩, values_of_clauses clauses⟩

end Chain

/-- `among` and `between` are exactly what they stand for. The calls one by one all succeed, the
    closing one too, and lead to the same record. Wherever they are made, they leave the open
    groups as they were and no connective pending, are joined by the connective that was, and
    bind the given values in their order. -/
theorem run_expansion_eq_apply (policy : GroupPolicy) (c : Chain) (property : String) :
    (∀ first rest, ∃ d, c.apply policy (.among property (first :: rest)) = .ok d ∧
      c.run policy (.openGroup :: .equal property first ::
        (rest.flatMap (fun value => [.connect .or, .equal property value]) ++ [.closeGroup])) =
          .ok d ∧ c.Gains d (first :: rest)) ∧
    (∀ low high, ∃ d, c.apply policy (.between property low high) = .ok d ∧
      c.run policy [.openGroup, .compare property (.order .greaterOrEqual) low,
        .compare property (.order .lessOrEqual) high, .closeGroup] = .ok d ∧
      c.Gains d [low, high]) ∧
    ∃ d, c.apply policy (.among property []) = .ok d ∧
      c.apply policy (.constant false) = .ok d ∧ c.Gains d [] := by
  refine ⟨fun first rest => ?_, fun low high => ?_, ?_⟩
  · exact ⟨_, rfl, Chain.run_expansion (.among property (first :: rest)) rfl rfl,
      c.gains_among property _⟩
  · exact ⟨_, rfl, Chain.run_expansion (.between property low high) rfl rfl,
      c.gains_between property low high⟩
  · exact ⟨_, rfl, rfl, c.gains_among property []⟩

end FilterQuery
