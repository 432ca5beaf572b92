import FilterQuery.Chain.Call
import FilterQuery.Trace

/-! # Queries

A query is a result set together with a chain of calls recorded for it. Nothing is
evaluated until a terminal operation renders the chain and hands it to the result set;
sorting alone is passed on at once.
-/

namespace FilterQuery

/-- Why an operation on a query failed. -/
inductive QueryError where
  | malformed (e : StructureError)
  /-- The result set refused this predicate. -/
  | refused (predicate : Predicate) (failure : Failure)
  deriving Repr, DecidableEq

namespace QueryError

def message : QueryError → String
  | malformed e => "Structure error: " ++ e.message
  | refused predicate failure =>
      "failed to get result, error: " ++ failure.message ++ ";\nquery: \""
        ++ predicate.expression ++ "\";\nvalues: " ++ Value.listToJsonText predicate.values

/-- The messages of the causes behind an error, outermost first. -/
def causes : QueryError → List String
  | malformed e => [e.message]
  | refused _ failure => failure.message :: failure.causes

end QueryError

structure Query (R : Type) where
  results : R
  chain : Chain := {}
  options : Options := {}
  deriving Repr, DecidableEq

/-- What the terminal operations answer. -/
inductive Answer (R Item : Type) where
  | results (r : R)
  | item (i : Option Item)
  | size (n : Nat)
  | value (v : Option Value)
  deriving Repr, DecidableEq

/-- The operations that evaluate a query. -/
inductive Terminal where
  | result
  | first
  | last
  | size
  /-- The first result whose property equals the value. -/
  | findBy (property : String) (value : Value)
  | aggregate (function : Aggregate) (property : Option String)
  deriving Repr, DecidableEq

namespace Query

variable {R Item : Type}

/-- What a call reports: a merge its sizes, a fragment that its values do not fit. -/
def reports (q : Query R) : Call → List Event
  | .raw text values =>
      let span := (Fragment.ofText text).span
      if span = values.length then [] else [.spanDiffers span values.length]
  | .merge received => [.merged q.chain.size received.size]
  | _ => []

/-- The query whose chain was made by one more call. -/
def call (q : Query R) (c : Call) : Traced R (Except QueryError (Query R)) where
  value :=
    match q.chain.apply q.options.groupPolicy c with
    | .ok chain => .ok { q with chain }
    | .error e => .error (.malformed e)
  trace := (q.reports c).map .event

/-- The predicate of the query in the given spacing. -/
def renderWith (q : Query R) (spacing : Spacing) : Traced R Predicate := do
  let predicate := q.chain.render spacing
  Traced.report (.rendered predicate)
  return predicate

/-- The predicate of the query as its options have it. -/
def render (q : Query R) : Traced R Predicate :=
  q.renderWith q.options.spacing

variable [ResultSet R Item]

/-- The query over the sorted result set. -/
def sorted (q : Query R) (property : String) (order : SortOrder) : Traced R (Query R) := do
  Traced.report (.sorting property order)
  let results ← Traced.ask q.results (.sorted property order)
    (ResultSet.sorted q.results property order)
  return { q with results }

/-- The result set narrowed by the predicate of the query. -/
def result (q : Query R) : Traced R (Except QueryError R) := do
  let predicate ← q.render
  Traced.report (.filtering predicate)
  let answer ← Traced.ask q.results (.filtered predicate)
    (ResultSet.filtered q.results predicate.expression predicate.values)
  match answer with
  | .ok results => return .ok results
  | .error failure =>
      Traced.report (.rejected predicate failure)
      return .error (.refused predicate failure)

/-- The member of a result set at an index. -/
def memberAt (index : Nat) (results : R) : Traced R (Option Item) :=
  Traced.ask results (.get index) (ResultSet.get? results index)

/-- The number of members of a result set. -/
def lengthOf (results : R) : Traced R Nat :=
  Traced.ask results .length (ResultSet.length results)

/-- The last member of a result set. An empty one is not asked for it. -/
def lastMember (results : R) : Traced R (Option Item) := do
  match ← lengthOf results with
  | 0 => return none
  | n + 1 => memberAt n results

/-- What the result set computes over its members. -/
def aggregateOf (function : Aggregate) (property : Option String) (results : R) :
    Traced R (Option Value) :=
  Traced.ask results (.aggregate function property)
    (ResultSet.aggregate results function property)

/-- The query for the one member whose property equals the value. -/
def narrow (q : Query R) (property : String) (value : Value) : Query R :=
  { q with chain := (q.chain.compare property (.matching .equal false) value).setLimit 1 }

def first (q : Query R) : Traced R (Except QueryError (Option Item)) :=
  q.result.onSuccess (memberAt 0)

def last (q : Query R) : Traced R (Except QueryError (Option Item)) :=
  q.result.onSuccess lastMember

def size (q : Query R) : Traced R (Except QueryError Nat) :=
  q.result.onSuccess lengthOf

def findBy (q : Query R) (property : String) (value : Value) :
    Traced R (Except QueryError (Option Item)) :=
  (q.narrow property value).first

def aggregate (q : Query R) (function : Aggregate) (property : Option String) :
    Traced R (Except QueryError (Option Value)) :=
  q.result.onSuccess (aggregateOf function property)

/-- Evaluates the query by a terminal operation. -/
def evaluate (q : Query R) : Terminal → Traced R (Except QueryError (Answer R Item))
  | .result => q.result.onSuccess fun results => pure (.results results)
  | .first => q.first.onSuccess fun item => pure (.item item)
  | .last => q.last.onSuccess fun item => pure (.item item)
  | .size => q.size.onSuccess fun n => pure (.size n)
  | .findBy property value => (q.findBy property value).onSuccess fun item => pure (.item item)
  | .aggregate function property =>
      (q.aggregate function property).onSuccess fun value => pure (.value value)

end Query

end FilterQuery
