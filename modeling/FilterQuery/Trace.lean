import FilterQuery.Predicate
import FilterQuery.ResultSet.Basic

/-! # Traces

What an operation does besides its answer: the events it reports, and the requests it makes
of result sets, in the order in which they happen.
-/

namespace FilterQuery

/-- What an operation reports about itself. -/
inductive Event where
  | rendered (predicate : Predicate)
  | filtering (predicate : Predicate)
  | rejected (predicate : Predicate) (failure : Failure)
  | sorting (property : String) (order : SortOrder)
  /-- Two chains were merged, with this many clauses in front and received. -/
  | merged (base received : Nat)
  /-- A fragment asks for another number of values than were bound to it. -/
  | spanDiffers (span bound : Nat)
  deriving Repr, DecidableEq

/-- The level at which an event is reported. -/
inductive Level where
  | trace
  | debug
  deriving Repr, DecidableEq

namespace Event

def level : Event → Level
  | rendered _ | merged _ _ => .trace
  | filtering _ | rejected _ _ | sorting _ _ | spanDiffers _ _ => .debug

def message : Event → String
  | rendered _ => "rendered predicate"
  | filtering _ => "filtering result set"
  | rejected _ _ => "result set rejected predicate"
  | sorting _ _ => "sorting result set"
  | merged _ _ => "merged query chains"
  | spanDiffers _ _ => "raw fragment placeholder count differs from bound values"

/-- The details of an event, by name. -/
def fields : Event → List (String × String)
  | rendered p | filtering p =>
      [("expression", p.expression), ("values", toString p.values.length)]
  | rejected p failure => [("error", failure.message), ("expression", p.expression)]
  | sorting property order =>
      [("property", property), ("descending", if order.isDescending then "true" else "false")]
  | merged base received => [("base", toString base), ("received", toString received)]
  | spanDiffers span bound => [("placeholders", toString span), ("values", toString bound)]

end Event

/-- What can be asked of a result set. -/
inductive Request where
  | filtered (predicate : Predicate)
  | sorted (property : String) (order : SortOrder)
  | length
  | get (index : Nat)
  | aggregate (function : Aggregate) (property : Option String)
  deriving Repr, DecidableEq

/-- One thing that happened: an event, or a request made of the result set `handle`. -/
inductive Entry (R : Type) where
  | event (e : Event)
  | request (handle : R) (r : Request)
  deriving Repr, DecidableEq

/-- An answer, and what happened on the way to it. -/
structure Traced (R α : Type) where
  value : α
  trace : List (Entry R)

namespace Traced

variable {R α β : Type}

instance : Monad (Traced R) where
  pure value := ⟨value, []⟩
  bind x f := ⟨(f x.value).value, x.trace ++ (f x.value).trace⟩

/-- Goes on with the answer of an attempt that succeeded; a failed one ends here. -/
def onSuccess {ε : Type} (x : Traced R (Except ε α)) (f : α → Traced R β) :
    Traced R (Except ε β) :=
  x >>= fun
    | .ok a => .ok <$> f a
    | .error e => pure (.error e)

/-- Reports an event. -/
def report (e : Event) : Traced R Unit :=
  ⟨(), [.event e]⟩

/-- Makes a request of a result set, whose answer is given. -/
def ask (handle : R) (r : Request) (answer : α) : Traced R α :=
  ⟨answer, [.request handle r]⟩

end Traced

end FilterQuery
