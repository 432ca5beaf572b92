/-! # Malformed JSON

What can be wrong with a JSON text, as its reader puts it.
-/

namespace FilterQuery.Json

inductive Problem where
  | endInValue
  | endInString
  | endInList
  | endInObject
  | expectedValue
  /-- A misspelt `null`, `true` or `false`. -/
  | expectedWord
  | expectedColon
  | expectedListSeparator
  | expectedObjectSeparator
  | keyNotString
  | trailingComma
  | trailingCharacters
  | invalidNumber
  | numberOutOfRange
  | invalidEscape
  /-- The first half of a surrogate pair without the escape of a second. -/
  | unfinishedSurrogatePair
  /-- Half of a surrogate pair where the other half, or none, has to stand. -/
  | misplacedSurrogate
  | controlCharacter
  deriving Repr, DecidableEq

namespace Problem

def message : Problem → String
  | endInValue => "EOF while parsing a value"
  | endInString => "EOF while parsing a string"
  | endInList => "EOF while parsing a list"
  | endInObject => "EOF while parsing an object"
  | expectedValue => "expected value"
  | expectedWord => "expected ident"
  | expectedColon => "expected `:`"
  | expectedListSeparator => "expected `,` or `]`"
  | expectedObjectSeparator => "expected `,` or `\x7d`"
  | keyNotString => "key must be a string"
  | trailingComma => "trailing comma"
  | trailingCharacters => "trailing characters"
  | invalidNumber => "invalid number"
  | numberOutOfRange => "number out of range"
  | invalidEscape => "invalid escape"
  | unfinishedSurrogatePair => "unexpected end of hex escape"
  | misplacedSurrogate => "lone leading surrogate in hex escape"
  | controlCharacter => "control character (\\u0000-\\u001F) found while parsing a string"

/-- Whether the text ended too early; a longer one might be well-formed. -/
def isUnexpectedEnd : Problem → Bool
  | endInValue | endInString | endInList | endInObject => true
  | _ => false

end Problem

end FilterQuery.Json
