import FilterQuery.Query

/-! # Sessions

A session holds queries under names. Its commands make queries from others, which stay as
they are, and evaluate them; a command that fails changes nothing.
-/

namespace FilterQuery

structure Session (R : Type) where
  /-- Every name once. -/
  queries : List (String × Query R) := []
  deriving Repr, DecidableEq

/-- A command. The new query goes under the name `target`, which may be in use. -/
inductive Command (R : Type) where
  /-- A query over a result set, without any calls. -/
  | start (results : R) (options : Options) (target : String)
  | copy (source target : String)
  | call (source : String) (c : Call) (target : String)
  | sorted (source : String) (property : String) (order : SortOrder) (target : String)
  /-- Splices the chain of another query behind that of the source. -/
  | merge (source other target : String)
  /-- A query with default options over the results of the source. -/
  | requery (source target : String)
  | evaluate (source : String) (t : Terminal)
  deriving Repr, DecidableEq

/-- What a command that succeeds answers: the query it made, or an evaluation. -/
inductive Outcome (R Item : Type) where
  | query (q : Query R)
  | answer (a : Answer R Item)
  deriving Repr, DecidableEq

/-- Why a command failed. -/
inductive CommandError where
  | unknownName (name : String)
  | failed (e : QueryError)
  deriving Repr, DecidableEq

namespace Session

variable {R Item : Type}

def find? (s : Session R) (name : String) : Option (Query R) :=
  s.queries.lookup name

def store (s : Session R) (name : String) (q : Query R) : Session R :=
  ⟨(name, q) :: s.queries.filter (·.1 ≠ name)⟩

/-- What a command does with the query that it starts from. -/
def withSource {α : Type} (s : Session R) (name : String)
    (f : Query R → Traced R (Except QueryError α)) : Traced R (Except CommandError α) :=
  match s.find? name with
  | none => pure (.error (.unknownName name))
  | some q => do
    match ← f q with
    | .ok a => return .ok a
    | .error e => return .error (.failed e)

variable [ResultSet R Item]

/-- The query that a command makes, and the name it goes under; or what it evaluates to. -/
def perform (s : Session R) :
    Command R → Traced R (Except CommandError ((Query R × String) ⊕ Answer R Item))
  | .start results options target => pure (.ok (.inl ({ results, options }, target)))
  | .copy source target => s.withSource source fun q => pure (.ok (.inl (q, target)))
  | .call source c target => s.withSource source fun q =>
      (q.call c).onSuccess fun next => pure (.inl (next, target))
  | .sorted source property order target => s.withSource source fun q => do
    return .ok (.inl (← q.sorted property order, target))
  | .merge source other target =>
      match s.find? other with
      | none => pure (.error (.unknownName other))
      | some received => s.withSource source fun q =>
          (q.call (.merge received.chain)).onSuccess fun next => pure (.inl (next, target))
  | .requery source target => s.withSource source fun q =>
      q.result.onSuccess fun results => pure (.inl ({ results }, target))
  | .evaluate source t => s.withSource source fun q =>
      (q.evaluate t).onSuccess fun a => pure (.inr a)

/-- Carries out a command. -/
def step (s : Session R) (c : Command R) :
    Traced R (Except CommandError (Outcome R Item) × Session R) := do
  match ← s.perform c with
  | .ok (.inl (q, name)) => return (.ok (.query q), s.store name q)
  | .ok (.inr a) => return (.ok (.answer a), s)
  | .error e => return (.error e, s)

end Session

end FilterQuery
