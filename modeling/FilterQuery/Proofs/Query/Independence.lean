import FilterQuery.Proofs.Chain.Step
import FilterQuery.Query
import FilterQuery.ResultSet.Scripted

/-! # Building a query

A query is built by calls and by orders for its result set. They fall into four kinds, which
have nothing to do with each other: what makes up the filter, the distinct properties, the
limit, and the orders. Only a merge belongs to two of them, the filter and the distinct
properties. What is built, and which call fails, depends on each kind by itself and not on how
they are mixed.
-/

namespace FilterQuery

/-- One change of a query. -/
inductive Change where
  | call (c : Call)
  | sorted (property : String) (order : SortOrder)
  deriving Repr, DecidableEq

/-- The properties that a call adds to those whose values must be distinct. -/
def Call.properties : Call → List String
  | .distinct properties => properties
  | .merge received => received.distinct
  | _ => []

namespace Change

/-- The calls that make up the filter: conditions, structure and merges. -/
def filter? : Change → Option Call
  | .call (.distinct _) | .call (.limit _) | .sorted _ _ => none
  | .call c => some c

/-- The calls that add distinct properties. A merge does so too. -/
def distinct? : Change → Option Call
  | .call (.distinct properties) => some (.distinct properties)
  | .call (.merge received) => some (.merge received)
  | _ => none

def limit? : Change → Option UInt64
  | .call (.limit n) => some n
  | _ => none

def order? : Change → Option (String × SortOrder)
  | .sorted property order => some (property, order)
  | .call _ => none

end Change

/-- The changes of every kind are the same, in the same order; of the limits only the last one
    has to be. Changes of different kinds may be mixed in any way. -/
structure SameByKind (xs ys : List Change) : Prop where
  filter : xs.filterMap Change.filter? = ys.filterMap Change.filter?
  distinct : xs.filterMap Change.distinct? = ys.filterMap Change.distinct?
  limit : (xs.filterMap Change.limit?).getLast? = (ys.filterMap Change.limit?).getLast?
  order : xs.filterMap Change.order? = ys.filterMap Change.order?

/-- A result set with orders applied to it, the first one first. -/
def ResultSet.ordered {R Item : Type} [ResultSet R Item] (results : R)
    (orders : List (String × SortOrder)) : R :=
  orders.foldl (fun results order => ResultSet.sorted results order.1 order.2) results

theorem ResultSet.ordered_append {R Item : Type} [ResultSet R Item] (results : R)
    (front back : List (String × SortOrder)) :
    ordered results (front ++ back) = ordered (ordered results front) back :=
  List.foldl_append

namespace Query

variable {R Item : Type} [ResultSet R Item]

/-- The query after one more change. -/
def alter (q : Query R) : Change → Traced R (Except QueryError (Query R))
  | .call c => q.call c
  | .sorted property order => .ok <$> q.sorted property order

/-- The query after a list of changes, up to the first that fails. -/
def build (q : Query R) (changes : List Change) : Except QueryError (Query R) :=
  changes.foldlM (fun q change => (q.alter change).value) q

/-- The changes in front of the call succeed and the call fails. It is the one at `index` among
    the calls that make up the filter. -/
def FailsAt (q : Query R) (changes : List Change) (index : Nat) (call : Call) (e : QueryError) :
    Prop :=
  ∃ front back next, changes = front ++ .call call :: back ∧
    (front.filterMap Change.filter?).length = index ∧
    q.build front = .ok next ∧ (next.call call).value = .error e

end Query

/-! ## The filter by itself -/

theorem foldlM_eq_error {α β ε : Type} {f : β → α → Except ε β} {xs : List α} {b : β} {e : ε} :
    xs.foldlM f b = .error e ↔ ∃ front x back next, xs = front ++ x :: back ∧
      front.foldlM f b = .ok next ∧ f next x = .error e := by
  constructor
  · intro failed
    induction xs generalizing b with
    | nil => cases failed
    | cons x rest ih =>
        rw [List.foldlM_cons] at failed
        cases made : f b x with
        | error e' =>
            rw [made] at failed
            cases failed
            exact ⟨[], x, rest, b, rfl, rfl, made⟩
        | ok next =>
            rw [made] at failed
            obtain ⟨front, y, back, reached, rfl, before, refused⟩ := ih failed
            refine ⟨x :: front, y, back, reached, rfl, ?_, refused⟩
            rw [List.foldlM_cons, made]
            exact before
  · rintro ⟨front, x, back, next, rfl, before, refused⟩
    rw [List.foldlM_append, before]
    show List.foldlM f next (x :: back) = .error e
    rw [List.foldlM_cons, refused]
    rfl

namespace Chain

/-- The chain with other distinct properties and another limit, which no call looks at. -/
def dressed (c : Chain) (distinct : List String) (limit : Option UInt64) : Chain :=
  { c with distinct, limit }

variable {policy : GroupPolicy} {c d : Chain} {distinct : List String} {limit : Option UInt64}

theorem anyEqual_dressed (c : Chain) (property : String) (values : List Value) :
    (c.dressed distinct limit).anyEqual property values =
      (c.anyEqual property values).dressed distinct limit := by
  fun_induction anyEqual c property values with
  | case1 | case2 => rfl
  | case3 c value rest some ih =>
      cases rest with
      | nil => exact absurd rfl some
      | cons second more => exact ih

theorem among_dressed (c : Chain) (property : String) (values : List Value) :
    (c.dressed distinct limit).among property values =
      (c.among property values).dressed distinct limit := by
  cases values with
  | nil => rfl
  | cons first rest => exact congrArg closeGroup (anyEqual_dressed c.openGroup property (first :: rest))

/-- A call that makes up the filter does there what it does on the chain alone, and adds its own
    properties. The other calls change nothing else. -/
theorem apply_dressed (policy : GroupPolicy) (c : Chain) (distinct : List String)
    (limit : Option UInt64) (call : Call) :
    (c.dressed distinct limit).apply policy call =
      (c.run policy (Change.call call).filter?.toList).map
        (·.dressed (distinct ++ call.properties) ((Change.call call).limit?.or limit)) := by
  cases call with
  | distinct properties => rfl
  | merge received => rfl
  | among property values =>
      simp only [apply, among_dressed, Call.properties, List.append_nil]
      rfl
  | closeGroup =>
      simp only [Call.properties, List.append_nil]
      cases policy with
      | lenient => rfl
      | strict =>
          have opened : (c.dressed distinct limit).openGroups = c.openGroups := rfl
          have size : (c.dressed distinct limit).size = c.size := rfl
          simp only [Change.filter?, Option.toList, run, List.foldlM_cons, apply, closeGroup?, opened, size]
          cases c.openGroups.getLast? with
          | none => rfl
          | some start => by_cases empty : c.size ≤ start <;> simp only [empty, if_true, if_false] <;> rfl
  | _ =>
      simp only [Call.properties, List.append_nil]
      rfl

theorem eq_closeGroup_of_error {call : Call} {e : StructureError}
    (h : c.apply policy call = .error e) : call = .closeGroup := by
  cases call with
  | closeGroup => rfl
  | _ => cases h

theorem apply_dressed_eq_error {call : Call} {e : StructureError} :
    (c.dressed distinct limit).apply policy call = .error e ↔ c.apply policy call = .error e := by
  cases call with
  | closeGroup =>
      have single : c.run policy [.closeGroup] = c.apply policy .closeGroup := by
        simp only [run, List.foldlM_cons, List.foldlM_nil, bind_pure]
      rw [apply_dressed]
      show (c.run policy [.closeGroup]).map _ = _ ↔ _
      rw [single]
      cases c.apply policy .closeGroup <;> simp [Except.map]
  | _ => simp [apply]

theorem run_append (policy : GroupPolicy) (c : Chain) (front back : List Call) :
    run policy c (front ++ back) = run policy c front >>= (run policy · back) :=
  List.foldlM_append

end Chain

/-! ## All kinds together -/

/-- The properties that a change adds. -/
def Change.properties : Change → List String
  | .call c => c.properties
  | .sorted _ _ => []

theorem filterMap_cons_toList {α β : Type} (f : α → Option β) (x : α) (xs : List α) :
    (x :: xs).filterMap f = (f x).toList ++ xs.filterMap f := by
  cases h : f x <;> simp [h]

theorem flatMap_properties_distinct (changes : List Change) :
    (changes.filterMap Change.distinct?).flatMap Call.properties =
      changes.flatMap Change.properties := by
  have single (change : Change) :
      change.distinct?.toList.flatMap Call.properties = change.properties := by
    cases change with
    | sorted property order => rfl
    | call c => cases c <;> simp [Change.distinct?, Change.properties, Call.properties]
  induction changes with
  | nil => rfl
  | cons change rest ih => rw [filterMap_cons_toList, List.flatMap_append, single, ih, List.flatMap_cons]

namespace Query

variable {R Item : Type} [ResultSet R Item]

/-- What one change does to the parts of a query. Only the filter can make it fail. -/
theorem alter_eq (results : R) (options : Options) (c : Chain) (distinct : List String)
    (limit : Option UInt64) (change : Change) :
    ((⟨results, c.dressed distinct limit, options⟩ : Query R).alter change).value =
      ((Chain.run options.groupPolicy c change.filter?.toList).map fun d =>
        (⟨ResultSet.ordered results change.order?.toList,
          d.dressed (distinct ++ change.properties) (change.limit?.or limit),
          options⟩ : Query R)).mapError .malformed := by
  cases change with
  | sorted property order =>
      simp only [Change.properties, List.append_nil]
      rfl
  | call call =>
      simp only [alter, Query.call, Chain.apply_dressed]
      cases Chain.run options.groupPolicy c (Change.call call).filter?.toList <;> rfl

/-- What a list of changes comes to: the chain that its filter calls build, if they do, with the
    distinct properties, the limit and the orders of the others. -/
theorem build_eq (results : R) (options : Options) (c : Chain) (distinct : List String)
    (limit : Option UInt64) (changes : List Change) :
    (⟨results, c.dressed distinct limit, options⟩ : Query R).build changes =
      ((Chain.run options.groupPolicy c (changes.filterMap Change.filter?)).map fun d =>
        (⟨ResultSet.ordered results (changes.filterMap Change.order?),
          d.dressed (distinct ++ changes.flatMap Change.properties)
            ((changes.filterMap Change.limit?).getLast?.or limit),
          options⟩ : Query R)).mapError .malformed := by
  induction changes generalizing results c distinct limit with
  | nil =>
      simp only [List.flatMap_nil, List.append_nil]
      rfl
  | cons change rest ih =>
      rw [build, List.foldlM_cons, alter_eq]
      simp only [filterMap_cons_toList, Chain.run_append]
      cases Chain.run options.groupPolicy c change.filter?.toList with
      | error e => rfl
      | ok d =>
          have last : change.limit?.toList.getLast? = change.limit? := by cases change.limit? <;> rfl
          refine (ih _ d _ _).trans ?_
          simp only [ResultSet.ordered_append, List.flatMap_cons, List.append_assoc,
            List.getLast?_append, Option.or_assoc, last]
          rfl

theorem build_eq_ok {q p : Query R} {changes : List Change} :
    q.build changes = .ok p ↔
      ∃ d, Chain.run q.options.groupPolicy q.chain (changes.filterMap Change.filter?) = .ok d ∧
        p = ⟨ResultSet.ordered q.results (changes.filterMap Change.order?),
          d.dressed (q.chain.distinct ++ changes.flatMap Change.properties)
            ((changes.filterMap Change.limit?).getLast?.or q.chain.limit),
          q.options⟩ := by
  have whole := build_eq q.results q.options q.chain q.chain.distinct q.chain.limit changes
  rw [show q.build changes = _ from whole]
  cases Chain.run q.options.groupPolicy q.chain (changes.filterMap Change.filter?) with
  | error e =>
      show (.error _ : Except QueryError (Query R)) = .ok p ↔ _
      simp
  | ok d =>
      show (.ok _ : Except QueryError (Query R)) = .ok p ↔ _
      simp [eq_comm]

theorem call_eq_error {q : Query R} {call : Call} {e : QueryError} :
    (q.call call).value = .error e ↔
      ∃ s, q.chain.apply q.options.groupPolicy call = .error s ∧ e = .malformed s := by
  simp only [Query.call]
  cases q.chain.apply q.options.groupPolicy call <;> simp [eq_comm]

theorem eq_call_of_filter? {change : Change} {call : Call} (h : change.filter? = some call) :
    change = .call call := by
  cases change with
  | sorted property order => cases h
  | call c => cases c <;> cases h <;> rfl

/-- Where changes fail is told by those that make up the filter. -/
theorem failsAt_iff {q : Query R} {changes : List Change} {index : Nat} {call : Call}
    {e : QueryError} :
    q.FailsAt changes index call e ↔ ∃ calls later d s,
      changes.filterMap Change.filter? = calls ++ call :: later ∧ calls.length = index ∧
      Chain.run q.options.groupPolicy q.chain calls = .ok d ∧
      d.apply q.options.groupPolicy call = .error s ∧ e = .malformed s := by
  constructor
  · rintro ⟨front, back, next, rfl, rfl, before, refused⟩
    obtain ⟨d, built, rfl⟩ := build_eq_ok.1 before
    obtain ⟨s, failed, rfl⟩ := call_eq_error.1 refused
    have alone := Chain.apply_dressed_eq_error.1 failed
    have close := Chain.eq_closeGroup_of_error alone
    subst close
    exact ⟨_, back.filterMap Change.filter?, d, s, by simp [Change.filter?], rfl, built, alone, rfl⟩
  · rintro ⟨calls, later, d, s, split, rfl, built, failed, rfl⟩
    obtain ⟨front, back, rfl, rfl, rest⟩ := List.filterMap_eq_append_iff.1 split
    obtain ⟨others, change, behind, rfl, skipped, kind, -⟩ := List.filterMap_eq_cons_iff.1 rest
    have same := eq_call_of_filter? kind
    subst same
    have none : others.filterMap Change.filter? = [] := List.filterMap_eq_nil_iff.2 skipped
    have calls : (front ++ others).filterMap Change.filter? = front.filterMap Change.filter? := by
      rw [List.filterMap_append, none, List.append_nil]
    refine ⟨front ++ others, behind, _, by simp, by rw [calls], build_eq_ok.2 ⟨d, ?_, rfl⟩, ?_⟩
    · rw [calls]
      exact built
    · exact call_eq_error.2 ⟨s, Chain.apply_dressed_eq_error.2 failed, rfl⟩

theorem build_eq_error {q : Query R} {changes : List Change} {e : QueryError} :
    q.build changes = .error e ↔ ∃ index, q.FailsAt changes index .closeGroup e := by
  rw [build, foldlM_eq_error]
  constructor
  · rintro ⟨front, change, back, next, rfl, before, refused⟩
    cases change with
    | sorted property order => cases refused
    | call call =>
        obtain ⟨s, failed, -⟩ := call_eq_error.1 refused
        have close := Chain.eq_closeGroup_of_error failed
        subst close
        exact ⟨_, front, back, next, rfl, rfl, before, refused⟩
  · rintro ⟨index, front, back, next, rfl, -, before, refused⟩
    exact ⟨front, _, back, next, rfl, before, refused⟩

end Query

/-- Two ways of mixing the same calls and orders build the same query, or fail with the same error
    at the same `)`. The query has the options it had and its result set in the orders asked for. -/
theorem build_independent {R Item : Type} [ResultSet R Item] {xs ys : List Change}
    (same : SameByKind xs ys) (q : Query R) :
    (∀ index call e, q.FailsAt xs index call e ↔ q.FailsAt ys index call e) ∧
    (∀ e, q.build xs = .error e ↔ ∃ index, q.FailsAt xs index .closeGroup e) ∧
    q.build xs = q.build ys ∧
    ∀ p, q.build xs = .ok p → p.options = q.options ∧
      p.results = ResultSet.ordered q.results (xs.filterMap Change.order?) := by
  have properties : xs.flatMap Change.properties = ys.flatMap Change.properties := by
    rw [← flatMap_properties_distinct, same.distinct, flatMap_properties_distinct]
  refine ⟨fun index call e => ?_, fun e => Query.build_eq_error, ?_, fun p built => ?_⟩
  · rw [Query.failsAt_iff, Query.failsAt_iff, same.filter]
  · have first := Query.build_eq q.results q.options q.chain q.chain.distinct q.chain.limit xs
    have second := Query.build_eq q.results q.options q.chain q.chain.distinct q.chain.limit ys
    rw [same.filter, properties, same.limit, same.order] at first
    exact first.trans second.symm
  · obtain ⟨d, -, rfl⟩ := Query.build_eq_ok.1 built
    exact ⟨rfl, rfl⟩

/-- The same calls and orders mixed in two ways. One `)` more fails in both, as the fifth of the
    calls that make up the filter. -/
theorem build_independent_mixed :
    ∃ (q p : Query Scripted) (m : Chain) (xs ys : List Change),
      m = { clauses := [⟨.or, .constant false⟩], distinct := ["b"], limit := some 9 } ∧
      xs = [.call (.distinct ["a"]), .call .openGroup, .sorted "p" .descending, .call (.limit 3),
        .call (.constant true), .call (.merge m), .sorted "q" .ascending, .call (.limit 5),
        .call .closeGroup] ∧
      ys = [.sorted "p" .descending, .sorted "q" .ascending, .call (.limit 5), .call .openGroup,
        .call (.constant true), .call (.distinct ["a"]), .call (.merge m), .call .closeGroup] ∧
      SameByKind xs ys ∧ q.build xs = .ok p ∧ q.build ys = .ok p ∧
      p.chain.distinct = ["a", "b"] ∧ p.chain.limit = some 5 ∧
      p.results.sortKeys = [("p", .descending), ("q", .ascending)] ∧
      q.FailsAt (xs ++ [.call .closeGroup]) 4 .closeGroup (.malformed .unopenedGroup) ∧
      q.FailsAt (ys ++ [.call .closeGroup]) 4 .closeGroup (.malformed .unopenedGroup) := by
  refine ⟨{ results := {} }, _, _, _, _, rfl, rfl, rfl, ⟨rfl, rfl, rfl, rfl⟩, rfl, ?_, rfl, rfl, rfl, ?_⟩
  · exact (build_independent ⟨rfl, rfl, rfl, rfl⟩ _).2.2.1.symm
  · refine ⟨?fails, ((build_independent (by exact ⟨rfl, rfl, rfl, rfl⟩) _).1 _ _ _).1 ?fails⟩
    exact ⟨_, [], _, rfl, rfl, rfl, rfl⟩

end FilterQuery
