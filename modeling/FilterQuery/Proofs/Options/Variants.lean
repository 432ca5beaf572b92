import FilterQuery.Options.Document
import FilterQuery.Proofs.Json.Unambiguous

/-! # Variants in a document

A variant is read from a JSON value if the value names it, in one of two ways, and from no other
value.
-/

namespace FilterQuery.Options

open Json

variable {α : Type} {names : List (String × α)}

/-- The variant that a value names. -/
def variant? (names : List (String × α)) : Tree → Option α
  | .string name => names.lookup (String.ofList name)
  | .object [(name, .null)] => names.lookup (String.ofList name)
  | _ => none

variable {s r : List Char}

end FilterQuery.Options
