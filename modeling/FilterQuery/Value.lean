import FilterQuery.Json.Basic
import FilterQuery.Number.Decimal
import FilterQuery.Time.Timestamp

/-! # Bound values

The values a predicate can compare against. Integers, floats and decimals stay apart, so
that a store receives the kind of number that the caller supplied.
-/

namespace FilterQuery

inductive Value where
  | null
  | boolean (b : Bool)
  | integer (n : Int64)
  | float (x : Binary64)
  | decimal (d : Decimal)
  | string (s : String)
  | timestamp (t : Timestamp)
  deriving Repr, DecidableEq

namespace Value

/-- The name of a value's kind, for diagnostics. -/
def kindName : Value → String
  | null => "null"
  | boolean _ => "boolean"
  | integer _ => "integer"
  | float _ => "float"
  | decimal _ => "decimal"
  | string _ => "string"
  | timestamp _ => "timestamp"

def isNull : Value → Bool
  | null => true
  | _ => false

/-- An absent value is `null`. -/
def ofOption : Option Value → Value
  | some v => v
  | none => null

/-- Any number as a double. -/
def asFloat? : Value → Option Binary64
  | integer n => some (Binary64.ofInt n.toInt)
  | float x => some x
  | decimal d => some d.toBinary64
  | _ => none

/-- Any number rounded to a 64-bit integer. Floats round halves away from zero and
    saturate; decimals round halves to even and have no integer outside the range. -/
def asInteger? : Value → Option Int64
  | integer n => some n
  | float x => some x.toInt64
  | decimal d => d.toInt64?
  | _ => none

def asString? : Value → Option String
  | string s => some s
  | _ => none

def asTimestamp? : Value → Option Timestamp
  | timestamp t => some t
  | _ => none

/-- Equality within one kind: floats and decimals compare as numbers, so that a NaN is
    not equal to itself, and the other kinds compare as they are. -/
def equals : Value → Value → Bool
  | null, null => true
  | boolean a, boolean b => a = b
  | integer a, integer b => a = b
  | float a, float b => a.equals b
  | decimal a, decimal b => a.equals b
  | string a, string b => a = b
  | timestamp a, timestamp b => a = b
  | _, _ => false

/-- Equality of value lists, position by position. -/
def listEquals : List Value → List Value → Bool
  | [], [] => true
  | x :: xs, y :: ys => x.equals y && listEquals xs ys
  | _, _ => false

/-- The JSON form of a value. Decimals and timestamps have none of their own and are
    strings; a float that is not finite is `null`. -/
def toJson : Value → Json
  | null => .null
  | boolean b => .boolean b
  | integer n => .integer n.toInt
  | float x => if x.isFinite then .float x else .null
  | decimal d => .string d.toText
  | string s => .string s
  | timestamp t => .string t.toText

/-- A list of values as the compact text of a JSON array. -/
def listToJsonText (values : List Value) : String :=
  (Json.array (values.map toJson)).toText

end Value

end FilterQuery
