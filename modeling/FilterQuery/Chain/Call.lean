import FilterQuery.Chain.Basic
import FilterQuery.Fragment.Lexer

/-! # Calls

The calls that build a chain. Only closing a group can fail, and only under the strict
policy.
-/

namespace FilterQuery

inductive Call where
  | compare (property : String) (test : Comparison) (value : Value)
  | between (property : String) (low high : Value)
  | among (property : String) (values : List Value)
  | constant (truth : Bool)
  | raw (text : String) (values : List Value)
  | connect (connective : Connective)
  | negate
  | openGroup
  | closeGroup
  | distinct (properties : List String)
  | limit (n : UInt64)
  | merge (received : Chain)
  deriving Repr, DecidableEq

namespace Chain

/-- The chain after one more call. -/
def apply (policy : GroupPolicy) (c : Chain) : Call → Except StructureError Chain
  | .compare property test value => .ok (c.compare property test value)
  | .between property low high => .ok (c.between property low high)
  | .among property values => .ok (c.among property values)
  | .constant truth => .ok (c.append (.constant truth))
  | .raw text values => .ok (c.append (.raw (Fragment.ofText text) values))
  | .connect connective => .ok (c.connect connective)
  | .negate => .ok c.negate
  | .openGroup => .ok c.openGroup
  | .closeGroup => c.closeGroup? policy
  | .distinct properties => .ok (c.addDistinct properties)
  | .limit n => .ok (c.setLimit n)
  | .merge received => .ok (c.merge received)

/-- The chain after a list of calls, up to the first that fails. -/
def run (policy : GroupPolicy) (c : Chain) (calls : List Call) : Except StructureError Chain :=
  calls.foldlM (apply policy) c

end Chain

end FilterQuery
