import FilterQuery.Text.Digits
import FilterQuery.Text.Extender
import FilterQuery.Text.Invisible

/-! # Quoted text

Text in double quotes as diagnostics show it: what cannot be seen by itself is written as an
escape, so that a message stays readable whatever it quotes.
-/

namespace FilterQuery.Text

/-- A character inside quotes. -/
def quoteChar (c : Char) : List Char :=
  match c with
  | '\x00' => ['\\', '0']
  | '\t' => ['\\', 't']
  | '\r' => ['\\', 'r']
  | '\n' => ['\\', 'n']
  | '\\' => ['\\', '\\']
  | '"' => ['\\', '"']
  | _ =>
      if isExtender c || isInvisible c then
        '\\' :: 'u' :: '\x7b' :: (hexadecimal c.toNat ++ ['\x7d'])
      else [c]

def quoted (s : String) : String :=
  String.ofList ('"' :: (s.toList.flatMap quoteChar ++ ['"']))

end FilterQuery.Text
