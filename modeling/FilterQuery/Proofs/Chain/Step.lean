import FilterQuery.Chain.Call

/-! # The steps of a call

Every call but a merge is a sequence of steps, each of which changes the record in one place.
What is proved of a step thereby holds of every call: `steps_of_apply` is the only place where
the composed calls are taken apart.
-/

namespace FilterQuery

/-- One change of the record. -/
inductive Step where
  | append (condition : Condition)
  | connect (connective : Connective)
  | negate
  | openGroup
  | closeGroup
  | distinct (properties : List String)
  | limit (n : UInt64)
  deriving Repr, DecidableEq

namespace Step

def equal (property : String) (value : Value) : Step :=
  .append (.comparison property (.matching .equal false) value)

/-- The equalities with further values, each joined by `OR`. -/
def orEqual (property : String) (values : List Value) : List Step :=
  values.flatMap fun value => [.connect .or, equal property value]

end Step

/-- The steps of a call. A merge is no sequence of steps. -/
def Call.steps : Call → List Step
  | .compare property test value => [.append (.comparison property test value)]
  | .between property low high =>
      [.openGroup, .append (.comparison property (.order .greaterOrEqual) low),
        .append (.comparison property (.order .lessOrEqual) high), .closeGroup]
  | .among _ [] => [.append (.constant false)]
  | .among property (first :: rest) =>
      .openGroup :: Step.equal property first :: (Step.orEqual property rest ++ [.closeGroup])
  | .constant truth => [.append (.constant truth)]
  | .raw text values => [.append (.raw (Fragment.ofText text) values)]
  | .connect connective => [.connect connective]
  | .negate => [.negate]
  | .openGroup => [.openGroup]
  | .closeGroup => [.closeGroup]
  | .distinct properties => [.distinct properties]
  | .limit n => [.limit n]
  | .merge _ => []

def Call.isMerge : Call → Bool
  | .merge _ => true
  | _ => false

namespace Chain

def perform (c : Chain) : Step → Chain
  | .append condition => c.append condition
  | .connect connective => c.connect connective
  | .negate => c.negate
  | .openGroup => c.openGroup
  | .closeGroup => c.closeGroup
  | .distinct properties => c.addDistinct properties
  | .limit n => c.setLimit n

/-- Whether the policy lets the step be made. Only closing a group can be refused. -/
def Admits (policy : GroupPolicy) (c : Chain) : Step → Prop
  | .closeGroup => c.closeGroup? policy = .ok c.closeGroup
  | _ => True

/-- The steps can be made one after the other, and lead from one record to the other. -/
inductive Steps (policy : GroupPolicy) : Chain → List Step → Chain → Prop where
  | nil {c} : Steps policy c [] c
  | cons {c s rest d} : c.Admits policy s → Steps policy (c.perform s) rest d →
      Steps policy c (s :: rest) d

variable {policy : GroupPolicy} {c d : Chain}

theorem size_append (c : Chain) (k : Condition) : (c.append k).size = c.size + 1 := by
  simp [append, size]

theorem size_merge (c m : Chain) : (c.merge m).size = c.size + m.size := by
  simp [merge, size]

theorem admits_strict_closeGroup :
    c.Admits .strict .closeGroup ↔ ∃ start, c.openGroups.getLast? = some start ∧ start < c.size := by
  simp only [Admits, closeGroup?]
  cases c.openGroups.getLast? with
  | none => simp
  | some start =>
      simp only [Option.some.injEq, exists_eq_left']
      by_cases filled : c.size ≤ start
      · simp [filled]
      · simp [filled, Nat.lt_of_not_le filled]

theorem admits_closeGroup
    (h : ∃ start, c.openGroups.getLast? = some start ∧ start < c.size) :
    c.Admits policy .closeGroup := by
  cases policy with
  | lenient => rfl
  | strict => exact admits_strict_closeGroup.2 h

theorem eq_closeGroup (h : c.apply policy .closeGroup = .ok d) : d = c.closeGroup := by
  cases policy with
  | lenient => exact (Except.ok.inj h).symm
  | strict =>
      simp only [apply, closeGroup?] at h
      split at h
      · cases h
      · split at h
        · cases h
        · exact (Except.ok.inj h).symm

theorem openGroups_anyEqual (c : Chain) (property : String) (values : List Value) :
    (c.anyEqual property values).openGroups = c.openGroups := by
  fun_induction anyEqual c property values with
  | case1 => rfl
  | case2 => rfl
  | case3 c value rest _ ih => exact ih

theorem size_anyEqual (c : Chain) (property : String) (values : List Value) :
    (c.anyEqual property values).size = c.size + values.length := by
  fun_induction anyEqual c property values with
  | case1 => rfl
  | case2 => exact size_append _ _
  | case3 c value rest _ ih =>
      rw [ih]
      simp only [connect, compare, append, size, List.length_append, List.length_cons, List.length_nil]
      omega

theorem pending_anyEqual (c : Chain) (property : String) (first : Value) (rest : List Value) :
    (c.anyEqual property (first :: rest)).pending = .and := by
  induction rest generalizing c first with
  | nil => rfl
  | cons second rest ih => exact ih _ second

theorem Steps.anyEqual {property : String} {first : Value} {rest : List Value} {tail : List Step}
    (h : Steps policy (c.anyEqual property (first :: rest)) tail d) :
    Steps policy c (Step.equal property first :: (Step.orEqual property rest ++ tail)) d := by
  induction rest generalizing c first with
  | nil => exact .cons trivial h
  | cons second rest ih => exact .cons trivial (.cons trivial (ih h))

theorem steps_of_apply {call : Call} (h : c.apply policy call = .ok d)
    (single : call.isMerge = false) : Steps policy c call.steps d := by
  cases call with
  | merge => cases single
  | closeGroup =>
      have same := eq_closeGroup h
      subst same
      exact .cons h .nil
  | between property low high =>
      cases h
      -- the group starts where the record ended before the call, and two clauses follow
      refine .cons trivial (.cons trivial (.cons trivial (.cons ?_ .nil)))
      refine admits_closeGroup ⟨c.size, ?_, ?_⟩
      · simp [perform, openGroup, append]
      · simp [perform, openGroup, append, size]
  | among property values =>
      cases h
      cases values with
      | nil => exact .cons trivial .nil
      | cons first rest =>
          refine .cons trivial (Steps.anyEqual (.cons ?_ .nil))
          refine admits_closeGroup ⟨c.size, ?_, ?_⟩
          · simp [openGroups_anyEqual, perform, openGroup]
          · show c.size < (c.openGroup.anyEqual property (first :: rest)).size
            rw [size_anyEqual]
            exact Nat.lt_add_of_pos_right (Nat.zero_lt_succ _)
  | _ =>
      cases h
      exact .cons trivial .nil

theorem run_cons_eq_ok {call : Call} {calls : List Call} :
    run policy c (call :: calls) = .ok d ↔
      ∃ next, c.apply policy call = .ok next ∧ run policy next calls = .ok d := by
  simp only [run, List.foldlM_cons]
  cases c.apply policy call <;> simp [bind, Except.bind]

/-- What is followed beside a chain, call by call, is followed beside a run of calls without a
    merge. -/
theorem run_along {γ : Type} {P : Chain → γ → Prop} {advance : γ → Call → γ}
    (call : ∀ {c d g call}, P c g → call.isMerge = false → c.apply policy call = .ok d →
      P d (advance g call)) {g : γ} (start : P c g) {calls : List Call}
    (single : ∀ call ∈ calls, call.isMerge = false) (made : run policy c calls = .ok d) :
    P d (calls.foldl advance g) := by
  induction calls generalizing c g with
  | nil =>
      cases made
      exact start
  | cons first rest ih =>
      obtain ⟨next, here, later⟩ := run_cons_eq_ok.1 made
      exact ih (call start (single first List.mem_cons_self) here)
        (fun other member => single other (List.mem_cons_of_mem first member)) later

/-- What holds of a chain and of the calls made so far holds at the end of a run. -/
theorem run_since {P : Chain → List Call → Prop}
    (call : ∀ {c d made call}, P c made → call.isMerge = false → c.apply policy call = .ok d →
      P d (made ++ [call])) (start : P c []) {calls : List Call}
    (single : ∀ call ∈ calls, call.isMerge = false) (made : run policy c calls = .ok d) :
    P d calls := by
  have whole : P d (calls.foldl (fun made call => made ++ [call]) []) :=
    run_along call start single made
  simpa [← List.flatMap_def] using whole

theorem Steps.keep_of_mem {P : Chain → Prop} {steps : List Step} (h : Steps policy c steps d)
    (step : ∀ {c s}, s ∈ steps → P c → c.Admits policy s → P (c.perform s)) (start : P c) : P d := by
  induction h with
  | nil => exact start
  | cons admitted _ ih =>
      exact ih (fun member => step (List.mem_cons_of_mem _ member))
        (step List.mem_cons_self start admitted)

theorem Steps.keep {P : Chain → Prop} (step : ∀ {c s}, P c → c.Admits policy s → P (c.perform s))
    {steps : List Step} (h : Steps policy c steps d) (start : P c) : P d :=
  h.keep_of_mem (fun _ => step) start

end Chain

end FilterQuery
