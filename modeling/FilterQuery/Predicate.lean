import FilterQuery.Chain.Basic

/-! # Predicates

A chain is rendered as predicate text and the list of values that its placeholders refer
to. The text is laid out as a sequence of pieces first; spacing only decides how a marker
is written.
-/

namespace FilterQuery

/-- What the text of a filter consists of. -/
inductive Piece where
  | connective (c : Connective)
  | opening
  | negation
  | closing
  /-- The text of one clause, its placeholders already counted from the first value. -/
  | fragment (f : Fragment)
  deriving Repr, DecidableEq

namespace Piece

def ofMarker (m : Marker) : Piece :=
  match m.kind with
  | .opening => opening
  | .negation => negation

def toText (spacing : Spacing) : Piece → String
  | connective c => " " ++ c.toText ++ " "
  | opening => match spacing with
    | .compact => "("
    | .padded => " ( "
  | negation => match spacing with
    | .compact => "NOT "
    | .padded => " NOT "
  | closing => match spacing with
    | .compact => ")"
    | .padded => " ) "
  | fragment f => f.toText

end Piece

namespace Chain

/-- The markers in front of the clause at `index`. -/
def leadingAt (c : Chain) (index : Nat) : List Piece :=
  (c.leading.filter (·.anchor = index)).map Piece.ofMarker

/-- The closing markers behind the clause at `index`. -/
def trailingAt (c : Chain) (index : Nat) : List Piece :=
  (c.trailing.filter (· = index)).map fun _ => .closing

/-- The pieces of the clauses from `index` on, behind `offset` values. -/
def piecesFrom (c : Chain) (index offset : Nat) : List Clause → List Piece
  | [] => []
  | clause :: rest =>
      (if index = 0 then [] else [.connective clause.connective])
        ++ c.leadingAt index ++ .fragment (clause.fragmentAt offset) :: c.trailingAt index
        ++ c.piecesFrom (index + 1) (offset + clause.values.length) rest

/-- The filter as a sequence of pieces. A marker with no clause to follow is not in it. -/
def pieces (c : Chain) : List Piece :=
  c.piecesFrom 0 0 c.clauses

/-- The text of the filter. Without a clause everything matches. -/
def filterText (c : Chain) (spacing : Spacing) : String :=
  if c.clauses.isEmpty then Condition.trueText
  else String.join (c.pieces.map (·.toText spacing))

def distinctText (c : Chain) : String :=
  if c.distinct.isEmpty then "" else " DISTINCT(" ++ String.intercalate "," c.distinct ++ ")"

def limitText (c : Chain) : String :=
  match c.limit with
  | none => ""
  | some n => " LIMIT(" ++ toString n.toNat ++ ")"

end Chain

/-- Predicate text, and the values that its placeholders refer to by position. -/
structure Predicate where
  expression : String
  values : List Value
  deriving Repr, DecidableEq

/-- Equality of text and values; a NaN among the values equals nothing. -/
def Predicate.equals (p q : Predicate) : Bool :=
  p.expression = q.expression && Value.listEquals p.values q.values

/-- The predicate of a chain: its filter, then the `DISTINCT` and `LIMIT` clauses. -/
def Chain.render (c : Chain) (spacing : Spacing) : Predicate :=
  { expression := c.filterText spacing ++ c.distinctText ++ c.limitText
    values := c.values }

end FilterQuery
