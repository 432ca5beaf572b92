import FilterQuery.Proofs.Predicate.Merged
import FilterQuery.Proofs.Value.Equality
import FilterQuery.Query

/-! # Equality of predicates

A predicate that is rendered twice is equal to itself unless a NaN has been bound. Every value that
calls bind counts, whether or not a placeholder refers to it, and so does every value that a merge
receives.
-/

namespace FilterQuery

/-! ## What calls bind -/

/-- The values that a call binds. Those that a merge receives have been bound before. -/
def Call.bound : Call → List Value
  | .compare _ _ value => [value]
  | .between _ low high => [low, high]
  | .among _ values | .raw _ values => values
  | .constant _ | .connect _ | .negate | .openGroup | .closeGroup | .distinct _ | .limit _
  | .merge _ => []

def Step.bound : Step → List Value
  | .append condition => condition.values
  | .connect _ | .negate | .openGroup | .closeGroup | .distinct _ | .limit _ => []

theorem Call.flatMap_bound_steps (call : Call) : call.steps.flatMap Step.bound = call.bound := by
  cases call with
  | among property values =>
      cases values with
      | nil => rfl
      | cons first rest =>
          simp [steps, bound, Step.equal, Step.orEqual, Step.bound, Condition.values,
            List.flatMap_assoc]
  | raw text values => exact List.append_nil values
  | _ => rfl

/-- The chains that calls build under any policies, and receive from one another. Beside each
    stand the values that were bound on the way. -/
inductive Binds : Chain → List Value → Prop where
  | new : Binds {} []
  | call {policy c d values call} : Binds c values → call.isMerge = false →
      c.apply policy call = .ok d → Binds d (values ++ call.bound)
  | merge {c values m received} : Binds c values → Binds m received →
      Binds (c.merge m) (values ++ received)

namespace Chain

variable {policy : GroupPolicy} {c d : Chain}

theorem reachable_iff_binds : c.Reachable ↔ ∃ values, Binds c values := by
  constructor
  · intro reachable
    induction reachable with
    | new => exact ⟨_, .new⟩
    | call _ single _ made ih =>
        obtain ⟨values, before⟩ := ih
        exact ⟨_, before.call single made⟩
    | merge _ _ ihc ihm =>
        obtain ⟨values, base⟩ := ihc
        obtain ⟨received, other⟩ := ihm
        exact ⟨_, base.merge other⟩
  · rintro ⟨values, binds⟩
    induction binds with
    | new => exact .new
    | call _ single made ih => exact .call ih single trivial made
    | merge _ _ ihc ihm => exact .merge ihc ihm

theorem values_perform (c : Chain) (s : Step) : (c.perform s).values = c.values ++ s.bound := by
  cases s with
  | append condition => simp [perform, append, values, Step.bound, Clause.values]
  | _ => exact (List.append_nil c.values).symm

theorem Steps.values_eq {steps : List Step} (h : Steps policy c steps d) :
    d.values = c.values ++ steps.flatMap Step.bound := by
  induction h with
  | nil => simp
  | cons _ _ ih => rw [ih, values_perform, List.flatMap_cons, List.append_assoc]

end Chain

/-- A chain has kept exactly what was bound, in the order of the calls. -/
theorem Binds.values_eq {c : Chain} {values : List Value} (h : Binds c values) :
    c.values = values := by
  induction h with
  | new => rfl
  | @call _ _ _ _ call _ single made ih =>
      rw [(Chain.steps_of_apply made single).values_eq, ih, call.flatMap_bound_steps]
  | merge _ _ ihc ihm => rw [Chain.values_merge, ihc, ihm]

theorem Binds.run {c d : Chain} {values : List Value} (h : Binds c values) (policy : GroupPolicy)
    (calls : List Call) (single : ∀ call ∈ calls, call.isMerge = false)
    (made : Chain.run policy c calls = .ok d) : Binds d (values ++ calls.flatMap Call.bound) := by
  refine Chain.run_since (P := fun d made => Binds d (values ++ made.flatMap Call.bound)) ?_
    (by simpa using h) single made
  intro c d made call before single applied
  simpa [List.flatMap_append] using before.call single applied

/-! ## Predicates compared -/

namespace Predicate

variable {p q r : Predicate}

theorem equals_iff :
    p.equals q = true ↔
      p.expression = q.expression ∧ Value.listEquals p.values q.values = true := by
  simp [equals]

theorem equals_symm (h : p.equals q = true) : q.equals p = true := by
  rw [equals_iff] at h ⊢
  exact ⟨h.1.symm, Value.listEquals_symm h.2⟩

theorem equals_trans (pq : p.equals q = true) (qr : q.equals r = true) : p.equals r = true := by
  rw [equals_iff] at pq qr ⊢
  exact ⟨pq.1.trans qr.1, Value.listEquals_trans pq.2 qr.2⟩

theorem equals_self_iff : p.equals p = true ↔ ∀ v ∈ p.values, v.isNaN = false := by
  rw [equals_iff, Value.listEquals_self_iff, eq_self_iff_true, true_and]

end Predicate

/-- Equality of values is symmetric and transitive. It holds within one kind only, and of every
    value and itself but a NaN. Decimals are equal exactly if they denote the same number. Equality
    of predicates is symmetric and transitive too. A query that is rendered twice gives equal
    predicates exactly if no NaN is among the values that were bound by its calls and by those of
    the chains it has received. -/
theorem rendered_equals_unless_nan :
    (∀ x y : Value, x.equals y = true → y.equals x = true) ∧
    (∀ x y z : Value, x.equals y = true → y.equals z = true → x.equals z = true) ∧
    (∀ x y : Value, x.equals y = true → x.kindName = y.kindName) ∧
    (∀ v : Value, v.equals v = true ↔ v.isNaN = false) ∧
    (∀ a b : Decimal, (Value.decimal a).equals (.decimal b) = true ↔ a.toRat = b.toRat) ∧
    (∀ p q : Predicate, p.equals q = true → q.equals p = true) ∧
    (∀ p q r : Predicate, p.equals q = true → q.equals r = true → p.equals r = true) ∧
    (∀ c : Chain, c.Reachable ↔ ∃ bound, Binds c bound) ∧
    ∀ (R : Type) (q : Query R) (bound : List Value), Binds q.chain bound → ∀ spacing : Spacing,
      ((q.renderWith spacing).value.equals (q.renderWith spacing).value = true ↔
        ∀ v ∈ bound, v.isNaN = false) ∧
      ((q.renderWith spacing).value.equals (q.chain.render spacing) = true ↔
        ∀ v ∈ bound, v.isNaN = false) := by
  refine ⟨fun _ _ => Value.equals_comparesBy.symm, fun _ _ _ => Value.equals_comparesBy.trans,
    fun _ _ => Value.kindName_eq_of_equals, fun _ => Value.equals_self_iff,
    fun _ _ => Decimal.equals_iff, fun _ _ => Predicate.equals_symm,
    fun _ _ _ => Predicate.equals_trans, fun _ => Chain.reachable_iff_binds, ?_⟩
  intro R q bound binds spacing
  have twice : (q.chain.render spacing).equals (q.chain.render spacing) = true ↔
      ∀ v ∈ bound, v.isNaN = false := by
    rw [Predicate.equals_self_iff, ← binds.values_eq]
    rfl
  exact ⟨twice, twice⟩

/-- A NaN bound with raw text that has no placeholder for it, in a chain that another has received;
    and a zero that is written in three ways. -/
theorem rendered_equals_unless_nan_unreferenced :
    ∃ (zero places negative : Decimal) (q : Query Unit),
      (Value.decimal zero).equals (.decimal places) = true ∧
      (Value.decimal places).equals (.decimal negative) = true ∧
      (Value.decimal zero).equals (.decimal negative) = true ∧
      Binds q.chain [.decimal zero, .float ⟨0x7FF8000000000000⟩] ∧
      (q.chain.render .compact).expression = "age < $0 OR deleted == false" ∧
      (q.renderWith .compact).value.equals (q.chain.render .compact) = false := by
  let zero : Decimal := { negative := false, mantissa := 0, scale := 0 }
  let places : Decimal := { negative := false, mantissa := 0, scale := 2 }
  let negative : Decimal := { negative := true, mantissa := 0, scale := 1 }
  have base := Binds.new.run .strict
    [.compare "age" (.order .less) (.decimal zero), .connect .or] (by decide) rfl
  have received := Binds.new.run .strict
    [.raw "deleted == false" [.float ⟨0x7FF8000000000000⟩]] (by decide) rfl
  have merged := base.merge received
  obtain ⟨-, trans, -, -, -, -, -, -, twice⟩ := rendered_equals_unless_nan
  have left : (Value.decimal zero).equals (.decimal places) = true := by decide
  have right : (Value.decimal places).equals (.decimal negative) = true := by decide
  refine ⟨zero, places, negative, { results := (), chain := _ }, left, right,
    trans _ _ _ left right, merged, by decide +kernel, Bool.eq_false_iff.2 fun same => ?_⟩
  have numbers := (twice Unit { results := (), chain := _ } _ merged .compact).2.1 same
  exact absurd (numbers (.float ⟨0x7FF8000000000000⟩) (by decide)) (by decide)

end FilterQuery
