import FilterQuery.Json.Lexical
import FilterQuery.Json.Numeral
import FilterQuery.Number.Shortest
import FilterQuery.Text.Quoted

/-! # Complaints about documents

A text that gives no options is rejected with the first thing that is wrong with it: either it
is no JSON, or a value in it is not what the options need there. Only for the latter does the
message say where in the text it was noticed.
-/

namespace FilterQuery

/-- A JSON value where another kind was needed. -/
inductive Found where
  | null
  | boolean (b : Bool)
  | number (n : Json.Number)
  | string (s : String)
  | list
  | object
  deriving Repr, DecidableEq

def Found.describe : Found → String
  | null => "null"
  | boolean b => "boolean `" ++ (if b then "true" else "false") ++ "`"
  | number (.integer n) => "integer `" ++ toString n ++ "`"
  | number (.float x) => "floating point `" ++ x.toText ++ "`"
  | string s => "string " ++ Text.quoted s
  | list => "sequence"
  | object => "map"

/-- What a well-formed document holds that options cannot be made from. -/
inductive Complaint where
  | invalidType (found : Found) (expected : String)
  | unknownVariant (name : String) (known : List String)
  | duplicateMember (name : String)
  deriving Repr, DecidableEq

def Complaint.message : Complaint → String
  | invalidType found expected => "invalid type: " ++ found.describe ++ ", expected " ++ expected
  | unknownVariant name known =>
      "unknown variant `" ++ name ++ "`, expected "
        ++ String.intercalate " or " (known.map fun k => "`" ++ k ++ "`")
  | duplicateMember name => "duplicate field `" ++ name ++ "`"

/-- A place in a text: the line, from one, and the number of bytes passed on it. -/
structure Position where
  line : Nat
  column : Nat
  deriving Repr, DecidableEq

/-- The place in `text` with `rest` left of it. -/
def Position.ofRest (text rest : List Char) : Position :=
  let passed := text.take (text.length - rest.length)
  { line := 1 + passed.count '\n'
    column := Json.byteLength (passed.reverse.takeWhile (· ≠ '\n')) }

/-- Why a document was rejected. -/
inductive DocumentError where
  | malformed (p : Json.Problem)
  | unsuitable (c : Complaint) (place : Position)
  deriving Repr, DecidableEq

namespace DocumentError

/-- What is wrong, and for a well-formed text where. -/
def detail : DocumentError → String
  | malformed p => p.message
  | unsuitable c place =>
      c.message ++ " at line " ++ toString place.line ++ " column " ++ toString place.column

def message (e : DocumentError) : String :=
  "Invalid builder options: " ++ e.detail

/-- The messages of the causes behind an error. -/
def causes (e : DocumentError) : List String :=
  [e.detail]

end DocumentError

end FilterQuery
