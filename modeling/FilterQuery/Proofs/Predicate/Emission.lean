import FilterQuery.Proofs.Chain.Pieces

/-! # One-pass emission

A predicate can be written while its calls are made: `(` and `NOT` wait for the next clause,
everything else is written at once. The record is rendered only later, from anchored marks;
the two give the same predicate, for every policy and every spacing.
-/

namespace FilterQuery

/-- What has been written after some calls, and what waits for the next clause. -/
structure Emitter where
  text : String := ""
  /-- Whether a clause has been written. -/
  started : Bool := false
  waiting : List MarkerKind := []
  values : List Value := []
  connective : Connective := .and
  deriving Repr, DecidableEq

namespace Emitter

def tokenText (spacing : Spacing) : MarkerKind → String
  | .opening => Piece.opening.toText spacing
  | .negation => Piece.negation.toText spacing

/-- Writes a clause behind the tokens that have waited for it. -/
def add (spacing : Spacing) (e : Emitter) (condition : Condition) : Emitter where
  text :=
    e.text ++ (if e.started then " " ++ e.connective.toText ++ " " else "")
      ++ String.join (e.waiting.map (tokenText spacing))
      ++ (condition.fragment.shift e.values.length).toText
  started := true
  waiting := []
  values := e.values ++ condition.values
  connective := .and

/-- Writes a `)`, unless there is no clause that it could follow. -/
def close (spacing : Spacing) (e : Emitter) : Emitter :=
  if e.started then { e with text := e.text ++ Piece.closing.toText spacing } else e

def step (spacing : Spacing) (e : Emitter) : Step → Emitter
  | .append condition => e.add spacing condition
  | .connect connective => { e with connective }
  | .negate => { e with waiting := e.waiting ++ [.negation] }
  | .openGroup => { e with waiting := e.waiting ++ [.opening] }
  | .closeGroup => e.close spacing
  | .distinct _ | .limit _ => e

/-- What a call writes, its steps write. -/
def call (spacing : Spacing) (e : Emitter) (call : Call) : Emitter :=
  call.steps.foldl (step spacing) e

def ofCalls (spacing : Spacing) (calls : List Call) : Emitter :=
  calls.foldl (call spacing) {}

end Emitter

namespace Call

def distinctProperties (calls : List Call) : List String :=
  calls.flatMap fun
    | .distinct properties => properties
    | _ => []

/-- The limit that a list of calls ends up with. -/
def lastLimit (calls : List Call) : Option UInt64 :=
  (calls.filterMap fun
    | .limit n => some n
    | _ => none).getLast?

end Call

def tailText (properties : List String) (limit : Option UInt64) : String :=
  (if properties.isEmpty then "" else " DISTINCT(" ++ String.intercalate "," properties ++ ")")
    ++ (match limit with
      | none => ""
      | some n => " LIMIT(" ++ toString n.toNat ++ ")")

/-- The predicate written by a list of calls in one pass. -/
def Predicate.emitted (spacing : Spacing) (calls : List Call) : Predicate :=
  let e := Emitter.ofCalls spacing calls
  { expression :=
      (if e.started then e.text else Condition.trueText)
        ++ tailText (Call.distinctProperties calls) (Call.lastLimit calls)
    values := e.values }

/-! ## The record follows the emitter -/

/-- The record holds what the emitter has written and what it keeps waiting. -/
structure Mirrors (spacing : Spacing) (c : Chain) (e : Emitter) : Prop where
  anchored : c.layout.Anchored
  text : e.text = String.join (c.layout.row.map (·.toText spacing))
  started : e.started = !c.clauses.isEmpty
  waiting : e.waiting.map (Piece.ofMarker ⟨·, 0⟩) = c.layout.waiting
  values : e.values = c.values
  connective : e.connective = c.pending

namespace Mirrors

variable {spacing : Spacing} {c d : Chain} {e : Emitter}

theorem new : Mirrors spacing {} {} where
  anchored := ⟨by simp [Chain.layout], by simp [Chain.layout]⟩
  text := rfl
  started := rfl
  waiting := rfl
  values := rfl
  connective := rfl

theorem tokens_toText (waiting : List MarkerKind) :
    (waiting.map (Piece.ofMarker ⟨·, 0⟩)).map (·.toText spacing) =
      waiting.map (Emitter.tokenText spacing) := by
  rw [List.map_map]
  apply List.map_congr_left
  intro kind _
  cases kind <;> rfl

theorem joint_toText (h : Mirrors spacing c e) :
    String.join ((c.layout.joint c.pending).map (·.toText spacing)) =
      if e.started then " " ++ e.connective.toText ++ " " else "" := by
  rw [h.started, h.connective]
  cases clauses : c.clauses with
  | nil => simp [Layout.joint, Chain.layout, clauses]
  | cons clause rest =>
      simp [Layout.joint, Chain.layout, clauses, Alphabet.connective, Piece.toText]

theorem add (h : Mirrors spacing c e) (k : Condition) :
    Mirrors spacing (c.append k) (e.add spacing k) where
  anchored := h.anchored.append c.pending k
  text := by
    have offset : e.values.length = c.layout.offset := congrArg List.length h.values
    rw [Chain.layout_append, Layout.row_append h.anchored]
    simp only [Emitter.add, h.text, List.map_append, String.join_append, h.joint_toText,
      ← h.waiting, tokens_toText, offset]
    simp [Alphabet.fragment, Piece.toText]
  started := by simp [Emitter.add, Chain.append]
  waiting := by
    rw [Chain.layout_append, Layout.waiting_append h.anchored]
    rfl
  values := by simp [Emitter.add, h.values, Chain.values, Chain.append, Clause.values]
  connective := rfl

theorem close (h : Mirrors spacing c e) : Mirrors spacing c.closeGroup (e.close spacing) := by
  have started : e.started = decide (c.size ≠ 0) := by
    rw [h.started]
    cases clauses : c.clauses <;> simp [Chain.size, clauses]
  by_cases none : c.size = 0
  · have same : c.closeGroup.layout = c.layout := by simp [Chain.layout_closeGroup, none]
    have idle : e.close spacing = e := by simp [Emitter.close, started, none]
    rw [idle]
    exact ⟨same ▸ h.anchored, same ▸ h.text, h.started, same ▸ h.waiting, h.values, h.connective⟩
  · have trailed : c.closeGroup.layout = c.layout.trail .closing := by
      simp [Chain.layout_closeGroup, none]
    have written : e.close spacing = { e with text := e.text ++ Piece.closing.toText spacing } := by
      simp [Emitter.close, started, none]
    rw [written]
    refine ⟨trailed ▸ h.anchored.trail none _, ?_, h.started, trailed ▸ h.waiting, h.values,
      h.connective⟩
    rw [trailed, Layout.row_trail (l := c.layout) none]
    simp [h.text, String.join_append]

theorem wait (h : Mirrors spacing c e) {kind : MarkerKind}
    (led : d.layout = c.layout.lead (Piece.ofMarker ⟨kind, 0⟩)) (clauses : d.clauses = c.clauses)
    (pending : d.pending = c.pending) :
    Mirrors spacing d { e with waiting := e.waiting ++ [kind] } where
  anchored := led ▸ h.anchored.lead _
  text := by
    rw [led, Layout.row_lead]
    exact h.text
  started := by rw [clauses, ← h.started]
  waiting := by
    rw [led, Layout.waiting_lead, ← h.waiting, List.map_append]
    rfl
  values := h.values.trans (congrArg (List.flatMap Clause.values) clauses.symm)
  connective := h.connective.trans pending.symm

/-- Every step writes at once what the record renders later. -/
theorem step (h : Mirrors spacing c e) (s : Step) :
    Mirrors spacing (c.perform s) (e.step spacing s) := by
  cases s with
  | append k => exact h.add k
  | closeGroup => exact h.close
  | negate => exact h.wait (Chain.layout_negate c) rfl rfl
  | openGroup => exact h.wait (Chain.layout_openGroup c) rfl rfl
  | connect k => exact ⟨h.anchored, h.text, h.started, h.waiting, h.values, rfl⟩
  | distinct | limit => exact ⟨h.anchored, h.text, h.started, h.waiting, h.values, h.connective⟩

theorem steps {policy : GroupPolicy} {steps : List Step} (h : Mirrors spacing c e)
    (made : Chain.Steps policy c steps d) :
    Mirrors spacing d (steps.foldl (Emitter.step spacing) e) := by
  induction made generalizing e with
  | nil => exact h
  | cons _ _ ih => exact ih (h.step _)

theorem call {policy : GroupPolicy} {call : Call} (h : Mirrors spacing c e)
    (single : call.isMerge = false) (made : c.apply policy call = .ok d) :
    Mirrors spacing d (e.call spacing call) :=
  h.steps (Chain.steps_of_apply made single)

theorem run {policy : GroupPolicy} {calls : List Call} (h : Mirrors spacing c e)
    (single : ∀ call ∈ calls, call.isMerge = false) (made : Chain.run policy c calls = .ok d) :
    Mirrors spacing d (calls.foldl (Emitter.call spacing) e) :=
  Chain.run_along Mirrors.call h single made

end Mirrors

/-! ## The clauses behind the filter -/

namespace Chain

variable {policy : GroupPolicy} {c d : Chain}

theorem distinct_anyEqual (c : Chain) (property : String) (values : List Value) :
    (c.anyEqual property values).distinct = c.distinct := by
  fun_induction anyEqual c property values with
  | case1 | case2 => rfl
  | case3 c value rest _ ih => exact ih

theorem limit_anyEqual (c : Chain) (property : String) (values : List Value) :
    (c.anyEqual property values).limit = c.limit := by
  fun_induction anyEqual c property values with
  | case1 | case2 => rfl
  | case3 c value rest _ ih => exact ih

theorem tail_apply {call : Call} (h : c.apply policy call = .ok d) (single : call.isMerge = false) :
    d.distinct = c.distinct ++ Call.distinctProperties [call] ∧
      d.limit = (Call.lastLimit [call]).or c.limit := by
  cases call with
  | merge => cases single
  | closeGroup =>
      rw [eq_closeGroup h]
      simp [closeGroup, Call.distinctProperties, Call.lastLimit]
  | among property values =>
      cases h
      cases values <;>
        simp [among, append, closeGroup, distinct_anyEqual, limit_anyEqual, openGroup,
          Call.distinctProperties, Call.lastLimit]
  | _ =>
      cases h
      simp [compare, between, append, connect, negate, openGroup, closeGroup, addDistinct,
        setLimit, Call.distinctProperties, Call.lastLimit]

theorem lastLimit_append (made : List Call) (call : Call) :
    Call.lastLimit (made ++ [call]) = (Call.lastLimit [call]).or (Call.lastLimit made) := by
  simp only [Call.lastLimit, List.filterMap_append, List.getLast?_append]

theorem tail_run {calls : List Call} (single : ∀ call ∈ calls, call.isMerge = false)
    (h : run policy c calls = .ok d) :
    d.distinct = c.distinct ++ Call.distinctProperties calls ∧
      d.limit = (Call.lastLimit calls).or c.limit := by
  refine run_since (P := fun d made => d.distinct = c.distinct ++ Call.distinctProperties made ∧
    d.limit = (Call.lastLimit made).or c.limit) ?_ ⟨(List.append_nil _).symm, rfl⟩ single h
  intro b d made call ⟨properties, limit⟩ single applied
  obtain ⟨properties', limit'⟩ := tail_apply applied single
  constructor
  · rw [properties', properties]
    simp [Call.distinctProperties]
  · rw [limit', limit, lastLimit_append, Option.or_assoc]

end Chain

/-- Rendering the record of a list of calls gives what the calls write in one pass. -/
theorem render_eq_emitted {policy : GroupPolicy} {calls : List Call} {c : Chain}
    (single : ∀ call ∈ calls, call.isMerge = false) (h : Chain.run policy {} calls = .ok c)
    (spacing : Spacing) : c.render spacing = Predicate.emitted spacing calls := by
  have mirrors : Mirrors spacing c (Emitter.ofCalls spacing calls) :=
    Mirrors.new.run single h
  obtain ⟨properties, limit⟩ := Chain.tail_run single h
  have filter : c.filterText spacing =
      if (Emitter.ofCalls spacing calls).started then (Emitter.ofCalls spacing calls).text
      else Condition.trueText := by
    rw [mirrors.started, mirrors.text, Chain.filterText, Chain.pieces_eq_row]
    cases c.clauses <;> simp
  have tail : c.distinctText ++ c.limitText =
      tailText (Call.distinctProperties calls) (Call.lastLimit calls) := by
    simp only [List.nil_append, Option.or_none] at properties limit
    rw [← properties, ← limit]
    rfl
  simp only [Chain.render, Predicate.emitted, filter, mirrors.values, String.append_assoc, tail]

/-- Groups closed before they are opened, or before they hold a clause, are written as recorded. -/
theorem render_eq_emitted_malformed :
    ∃ c, Chain.run .lenient {} [.closeGroup, .openGroup, .closeGroup, .negate,
        .between "age" (.boolean false) .null, .connect .or, .among "name" [.null, .null],
        .closeGroup, .distinct ["name"], .limit 2] = .ok c ∧
      c.render .padded = Predicate.emitted .padded [.closeGroup, .openGroup, .closeGroup, .negate,
        .between "age" (.boolean false) .null, .connect .or, .among "name" [.null, .null],
        .closeGroup, .distinct ["name"], .limit 2] :=
  ⟨_, rfl, @render_eq_emitted .lenient _ _ (by decide) rfl .padded⟩

end FilterQuery
