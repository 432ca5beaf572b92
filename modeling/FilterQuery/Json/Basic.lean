import FilterQuery.Number.Shortest

/-! # JSON text

The JSON values that bound values are shown as, and their compact text.
-/

namespace FilterQuery

inductive Json where
  | null
  | boolean (b : Bool)
  | integer (n : Int)
  /-- A finite double; the others have no JSON number. -/
  | float (x : Binary64)
  | string (s : String)
  | array (items : List Json)
  deriving Repr

namespace Json

/-- The letter of a two-character escape, for the characters that have one. -/
def escapeLetter? : Char → Option Char
  | '"' => some '"'
  | '\\' => some '\\'
  | '\x08' => some 'b'
  | '\x0c' => some 'f'
  | '\n' => some 'n'
  | '\r' => some 'r'
  | '\t' => some 't'
  | _ => none

/-- A character inside a string literal: quote, backslash and the control characters
    below the space are escaped, everything else stands for itself. -/
def escape (c : Char) : List Char :=
  match escapeLetter? c with
  | some letter => ['\\', letter]
  | none =>
      if c.toNat < 32 then
        ['\\', 'u', '0', '0', Nat.digitChar (c.toNat / 16), Nat.digitChar (c.toNat % 16)]
      else [c]

def quote (s : String) : List Char :=
  '"' :: (s.toList.flatMap escape ++ ['"'])

mutual
/-- The compact text of a value, as characters. -/
def chars : Json → List Char
  | null => "null".toList
  | boolean b => (if b then "true" else "false").toList
  | integer n => (toString n).toList
  | float x => x.toText.toList
  | string s => quote s
  | array items => '[' :: (itemChars items ++ [']'])

/-- The items of an array, with commas between them. -/
def itemChars : List Json → List Char
  | [] => []
  | [item] => chars item
  | item :: rest => chars item ++ ',' :: itemChars rest
end

/-- The compact text of a value. -/
def toText (j : Json) : String :=
  String.ofList j.chars

end Json

end FilterQuery
