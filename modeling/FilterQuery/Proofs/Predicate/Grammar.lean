import FilterQuery.Proofs.Chain.Pieces

/-! # The grammar of a filter

A filter is well formed if it derives from `E := U ((AND | OR) U)*` with
`U := NOT U | '(' E ')' | clause`. The parentheses of a filter can be marked with the groups
they belong to; in the grammar of marked filters, a group is closed by its own `)`. A filter
that is not yet complete is read from left to right. What has been read holds no nested
structure, only the groups that are open: that is enough to complete it in every way in which
they can be closed.
-/

namespace FilterQuery

inductive Nonterminal where
  | expression
  | unit
  deriving Repr, DecidableEq

/-- `E := U ((AND | OR) U)*` and `U := NOT U | '(' E ')' | clause`. One relation instead of
    two mutual ones, so that derivations have a plain induction. -/
inductive Derives : Nonterminal → List Piece → Prop where
  | unit {u} : Derives .unit u → Derives .expression u
  | join {e u} (k : Connective) : Derives .expression e → Derives .unit u →
      Derives .expression (e ++ .connective k :: u)
  | negation {u} : Derives .unit u → Derives .unit (.negation :: u)
  | group {e} : Derives .expression e → Derives .unit (.opening :: (e ++ [.closing]))
  | clause (f : Fragment) : Derives .unit [.fragment f]

/-- A piece of a filter whose parentheses tell their group. A group is named by the place of
    its `(` among the marks of the chain. -/
inductive Symbol where
  | connective (k : Connective)
  | opening (group : Nat)
  | negation
  | closing (group : Nat)
  | fragment (f : Fragment)
  deriving Repr, DecidableEq

namespace Symbol

def piece : Symbol → Piece
  | connective k => .connective k
  | opening _ => .opening
  | negation => .negation
  | closing _ => .closing
  | fragment f => .fragment f

def opens? : Symbol → Option Nat
  | opening group => some group
  | _ => none

/-- Whether the symbol can stand in front of a clause. -/
def isMark : Symbol → Bool
  | opening _ | negation => true
  | _ => false

end Symbol

instance : Alphabet Symbol where
  connective := .connective
  fragment := .fragment

/-- The grammar of marked filters: both parentheses of a group belong to it. -/
inductive Nested : Nonterminal → List Symbol → Prop where
  | unit {u} : Nested .unit u → Nested .expression u
  | join {e u} (k : Connective) : Nested .expression e → Nested .unit u →
      Nested .expression (e ++ .connective k :: u)
  | negation {u} : Nested .unit u → Nested .unit (.negation :: u)
  | group {e} (i : Nat) : Nested .expression e →
      Nested .unit (.opening i :: (e ++ [.closing i]))
  | clause (f : Fragment) : Nested .unit [.fragment f]

theorem Nested.derives {n : Nonterminal} {s : List Symbol} (h : Nested n s) :
    Derives n (s.map Symbol.piece) := by
  induction h with
  | unit _ ih => exact .unit ih
  | join k _ _ ihe ihu =>
      rw [List.map_append, List.map_cons]
      exact .join k ihe ihu
  | negation _ ih => exact .negation ih
  | group i _ ih =>
      rw [List.map_cons, List.map_append]
      exact .group ih
  | clause f => exact .clause f

/-! ## Reading from left to right -/

/-- Where a reader stands: in front of a unit, or behind one. -/
inductive Phase where
  | ready
  | done
  deriving Repr, DecidableEq

/-- The symbols are the front part of a filter, in which the listed groups are open, innermost
    first. -/
inductive Reads : Phase → List Nat → List Symbol → Prop where
  | start : Reads .ready [] []
  | connective {stack w} (k : Connective) : Reads .done stack w →
      Reads .ready stack (w ++ [.connective k])
  | negation {stack w} : Reads .ready stack w → Reads .ready stack (w ++ [.negation])
  | opening {stack w} (i : Nat) : Reads .ready stack w → Reads .ready (i :: stack) (w ++ [.opening i])
  | fragment {stack w} (f : Fragment) : Reads .ready stack w →
      Reads .done stack (w ++ [.fragment f])
  | closing {stack w i} : Reads .done (i :: stack) w → Reads .done stack (w ++ [.closing i])

/-- What can follow behind a unit when these groups are open: units that are joined to it, and
    the `)` of all groups. -/
inductive Completes : List Nat → List Symbol → Prop where
  | nil : Completes [] []
  | join {stack u s} (k : Connective) : Nested .unit u → Completes stack s →
      Completes stack (.connective k :: (u ++ s))
  | closing {stack s} (i : Nat) : Completes stack s → Completes (i :: stack) (.closing i :: s)

/-- With no group open, a completion only extends the expression. -/
theorem Completes.expression {s : List Symbol} (h : Completes [] s) {e : List Symbol}
    (front : Nested .expression e) : Nested .expression (e ++ s) := by
  generalize none : ([] : List Nat) = stack at h
  induction h generalizing e with
  | nil => simpa using front
  | join k unit _ ih =>
      have longer := ih (front.join k unit) none
      simpa using longer
  | closing => cases none

/-- With a group open, a completion first extends the expression inside and closes it. -/
theorem Completes.split {i : Nat} {stack : List Nat} {s : List Symbol}
    (h : Completes (i :: stack) s) {e : List Symbol} (inside : Nested .expression e) :
    ∃ more rest, s = more ++ .closing i :: rest ∧ Nested .expression (e ++ more) ∧
      Completes stack rest := by
  generalize same : i :: stack = open_ at h
  induction h generalizing e with
  | nil => cases same
  | @join _ u s k unit _ ih =>
      obtain ⟨more, rest, rfl, longer, closed⟩ := ih (inside.join k unit) same
      exact ⟨.connective k :: (u ++ more), rest, by simp, by simpa using longer, closed⟩
  | closing j later =>
      cases same
      exact ⟨[], _, rfl, by simpa using inside, later⟩

def Completable : Phase → List Nat → List Symbol → Prop
  | .ready, stack, w => ∀ {u s}, Nested .unit u → Completes stack s →
      Nested .expression (w ++ (u ++ s))
  | .done, stack, w => ∀ {s}, Completes stack s → Nested .expression (w ++ s)

/-- A reader that keeps the open groups knows enough to complete the filter. -/
theorem Reads.completable {p : Phase} {stack : List Nat} {w : List Symbol}
    (h : Reads p stack w) : Completable p stack w := by
  induction h with
  | start =>
      intro u s unit later
      exact later.expression (.unit unit)
  | connective k _ ih =>
      intro u s unit later
      simpa using ih (.join k unit later)
  | negation _ ih =>
      intro u s unit later
      simpa using ih (.negation unit) later
  | opening i _ ih =>
      intro u s unit later
      -- up to its own `)` the completion belongs to the group, which is one unit outside
      obtain ⟨more, rest, rfl, inside, closed⟩ := later.split (.unit unit)
      simpa using ih (.group i inside) closed
  | fragment f _ ih =>
      intro s later
      simpa using ih (.clause f) later
  | closing _ ih =>
      intro s later
      simpa using ih (.closing _ later)

theorem completes_closing (stack : List Nat) : Completes stack (stack.map Symbol.closing) := by
  induction stack with
  | nil => exact .nil
  | cons i rest ih => exact .closing i ih

theorem Reads.nested {stack : List Nat} {w : List Symbol} (h : Reads .done stack w) :
    Nested .expression (w ++ stack.map Symbol.closing) :=
  h.completable (completes_closing stack)

end FilterQuery
