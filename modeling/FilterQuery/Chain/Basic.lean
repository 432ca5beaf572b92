import FilterQuery.Clause
import FilterQuery.Marker
import FilterQuery.Options.Basic

/-! # Query chains

What a chain of calls has recorded. The record is flat: a list of clauses, and beside it
the markers anchored to their indices. Everything is appended; nothing is ever moved.
-/

namespace FilterQuery

structure Chain where
  clauses : List Clause := []
  /-- `(` and `NOT`, in the order of the calls. -/
  leading : List Marker := []
  /-- The clauses that a `)` follows, in the order of the calls. -/
  trailing : List Nat := []
  /-- For every group still open, the number of clauses in front of it; innermost last. -/
  openGroups : List Nat := []
  /-- The properties whose values must be distinct. -/
  distinct : List String := []
  limit : Option UInt64 := none
  /-- The connective of the next clause. -/
  pending : Connective := .and
  deriving Repr, DecidableEq

/-- A group that the strict policy refuses to close. -/
inductive StructureError where
  | unopenedGroup
  | emptyGroup
  deriving Repr, DecidableEq

def StructureError.message : StructureError → String
  | unopenedGroup => "Group not started"
  | emptyGroup => "Invalid group, no filter found"

namespace Chain

/-- The number of clauses. -/
def size (c : Chain) : Nat :=
  c.clauses.length

/-- The number of groups opened and not yet closed. -/
def depth (c : Chain) : Nat :=
  c.openGroups.length

/-- All bound values, in the order of the predicate's placeholders. -/
def values (c : Chain) : List Value :=
  c.clauses.flatMap Clause.values

/-- Appends a condition, joined by the pending connective, which it uses up. -/
def append (c : Chain) (condition : Condition) : Chain :=
  { c with clauses := c.clauses ++ [⟨c.pending, condition⟩], pending := .and }

def compare (c : Chain) (property : String) (test : Comparison) (value : Value) : Chain :=
  c.append (.comparison property test value)

/-- Sets the connective of the next clause. -/
def connect (c : Chain) (connective : Connective) : Chain :=
  { c with pending := connective }

/-- Opens a group in front of the next clause. -/
def openGroup (c : Chain) : Chain :=
  { c with
    leading := c.leading ++ [⟨.opening, c.size⟩]
    openGroups := c.openGroups ++ [c.size] }

/-- Negates the next clause or group. -/
def negate (c : Chain) : Chain :=
  { c with leading := c.leading ++ [⟨.negation, c.size⟩] }

/-- Closes the innermost open group, if any, behind the last clause. A `)` that has no
    clause to follow is dropped. -/
def closeGroup (c : Chain) : Chain :=
  { c with
    openGroups := c.openGroups.dropLast
    trailing := if c.size = 0 then c.trailing else c.trailing ++ [c.size - 1] }

/-- Closes the innermost group as far as the policy lets it: the strict one wants an open
    group that holds a clause. -/
def closeGroup? (c : Chain) : GroupPolicy → Except StructureError Chain
  | .lenient => .ok c.closeGroup
  | .strict =>
      match c.openGroups.getLast? with
      | none => .error .unopenedGroup
      | some start => if c.size ≤ start then .error .emptyGroup else .ok c.closeGroup

/-- `(property >= low AND property <= high)`. -/
def between (c : Chain) (property : String) (low high : Value) : Chain :=
  ((c.openGroup.compare property (.order .greaterOrEqual) low).compare
    property (.order .lessOrEqual) high).closeGroup

/-- Equality with the first value, or with the next, and so on. -/
def anyEqual (c : Chain) (property : String) : List Value → Chain
  | [] => c
  | [value] => c.compare property (.matching .equal false) value
  | value :: rest =>
      anyEqual ((c.compare property (.matching .equal false) value).connect .or) property rest

/-- `(property == v₀ OR property == v₁ …)`. No value at all can match nothing. -/
def among (c : Chain) (property : String) (values : List Value) : Chain :=
  if values.isEmpty then c.append (.constant false)
  else (c.openGroup.anyEqual property values).closeGroup

/-- Adds to the properties whose values must be distinct. -/
def addDistinct (c : Chain) (properties : List String) : Chain :=
  { c with distinct := c.distinct ++ properties }

/-- Limits the number of results; the last limit counts. -/
def setLimit (c : Chain) (n : UInt64) : Chain :=
  { c with limit := some n }

/-- The clauses with the connective of the first one replaced. -/
def withFirst (connective : Connective) : List Clause → List Clause
  | [] => []
  | first :: rest => { first with connective } :: rest

@[simp] theorem withFirst_nil (k : Connective) : withFirst k [] = [] := rfl

@[simp] theorem withFirst_eq_nil {k : Connective} {clauses : List Clause} :
    withFirst k clauses = [] ↔ clauses = [] := by
  cases clauses <;> simp [withFirst]

@[simp] theorem withFirst_withFirst (k j : Connective) (clauses : List Clause) :
    withFirst k (withFirst j clauses) = withFirst k clauses := by
  cases clauses <;> rfl

theorem withFirst_append {clauses : List Clause} (h : clauses ≠ []) (k : Connective)
    (more : List Clause) : withFirst k (clauses ++ more) = withFirst k clauses ++ more := by
  cases clauses with
  | nil => exact absurd rfl h
  | cons first rest => rfl

@[simp] theorem length_withFirst (k : Connective) (clauses : List Clause) :
    (withFirst k clauses).length = clauses.length := by
  cases clauses <;> rfl

/-- Splices the received chain behind this one, as if its calls had been made here. Its
    anchors move up by the clauses in front of it, and its first clause takes the pending
    connective, which stays pending if there is no clause to take it. The received limit is
    dropped. -/
def merge (c received : Chain) : Chain :=
  { clauses := c.clauses ++ withFirst c.pending received.clauses
    leading := c.leading ++ received.leading.map (·.rebase c.size)
    trailing := c.trailing ++ received.trailing.map (· + c.size)
    openGroups := c.openGroups ++ received.openGroups.map (· + c.size)
    distinct := c.distinct ++ received.distinct
    limit := c.limit
    pending := if received.clauses.isEmpty then c.pending else .and }

end Chain

end FilterQuery
