import FilterQuery.Fragment.Lexer

/-! # Reading at a position

A lexer that keeps the whole text and the place it has come to. It gathers text character by
character. At a `$` it reads the digits at once, and goes back to the `$` if text that was gathered
has to be given out before the placeholder.
-/

namespace FilterQuery.Lexer

/-- A text, and the index of the character to read next. -/
structure Cursor where
  input : Array Char
  position : Nat := 0
  deriving Repr, DecidableEq

namespace Cursor

/-- At the front of a text. -/
def ofText (s : String) : Cursor where
  input := s.toList.toArray

/-- The character that is `offset` places ahead. -/
def peek? (c : Cursor) (offset : Nat) : Option Char :=
  c.input[c.position + offset]?

def current? (c : Cursor) : Option Char :=
  c.peek? 0

def skip (c : Cursor) (count : Nat) : Cursor :=
  { c with position := c.position + count }

/-- What is left to read. -/
def rest (c : Cursor) : List Char :=
  c.input.toList.drop c.position

@[simp] theorem skip_zero (c : Cursor) : c.skip 0 = c := rfl

@[simp] theorem skip_skip (c : Cursor) (m n : Nat) : (c.skip m).skip n = c.skip (m + n) := by
  simp [skip, Nat.add_assoc]

theorem peek?_eq (c : Cursor) (offset : Nat) : c.peek? offset = c.rest[offset]? := by
  simp [peek?, rest]

theorem current?_eq (c : Cursor) : c.current? = c.rest.head? := by
  rw [current?, peek?_eq, List.head?_eq_getElem?]

theorem rest_skip (c : Cursor) (count : Nat) : (c.skip count).rest = c.rest.drop count := by
  simp [rest, skip]

theorem length_rest (c : Cursor) : c.rest.length = c.input.size - c.position := by
  simp [rest]

theorem rest_of_current? {c : Cursor} {ch : Char} (h : c.current? = some ch) :
    c.rest = ch :: (c.skip 1).rest := by
  rw [current?_eq] at h
  obtain ⟨tail, whole⟩ := List.head?_eq_some_iff.1 h
  rw [rest_skip, whole, List.drop_one, List.tail_cons]

theorem rest_of_current?_none {c : Cursor} (h : c.current? = none) : c.rest = [] := by
  rwa [current?_eq, List.head?_eq_none_iff] at h

theorem position_lt {c : Cursor} {ch : Char} (h : c.current? = some ch) :
    c.position < c.input.size := by
  have some := congrArg List.length (rest_of_current? h)
  rw [length_rest, List.length_cons] at some
  omega

/-- Adds to the text what is left of a literal behind its opening quote. A backslash takes the
    next character with it, if there is one. -/
def readQuoted (quote : Char) (text : String) (c : Cursor) : String × Cursor :=
  match _h : c.current? with
  | none => (text, c)
  | some ch =>
      if ch = '\\' then
        match (c.skip 1).current? with
        | some escaped => readQuoted quote ((text.push ch).push escaped) (c.skip 2)
        | none => readQuoted quote (text.push ch) (c.skip 1)
      else if ch = quote then (text.push ch, c.skip 1)
      else readQuoted quote (text.push ch) (c.skip 1)
termination_by c.input.size - c.position
decreasing_by all_goals
  have := position_lt _h
  simp only [skip]
  omega

/-- A number with one more digit, as long as a placeholder can have it. -/
def addDigit? (number : Option Nat) (digit : Char) : Option Nat :=
  number.bind fun n =>
    let longer := 10 * n + Text.digitValue digit
    if longer ≤ Token.maxIndex then some longer else none

/-- Moves behind all digits. They have no number if it is too large for a placeholder. -/
def readNumber (number : Option Nat) (c : Cursor) : Option Nat × Cursor :=
  match _h : c.current? with
  | none => (number, c)
  | some ch =>
      if ch.isDigit then readNumber (addDigit? number ch) (c.skip 1) else (number, c)
termination_by c.input.size - c.position
decreasing_by
  have := position_lt _h
  simp only [skip]
  omega

theorem readQuoted_moves (quote : Char) (text : String) (c : Cursor) :
    ∃ count, (c.readQuoted quote text).2 = c.skip count := by
  fun_induction readQuoted quote text c with
  | case1 => exact ⟨0, rfl⟩
  | case2 _ _ _ _ _ ih =>
      obtain ⟨count, moved⟩ := ih
      exact ⟨2 + count, by rw [moved, skip_skip]⟩
  | case4 => exact ⟨1, rfl⟩
  | case3 _ _ _ _ ih | case5 _ _ _ _ _ _ ih =>
      obtain ⟨count, moved⟩ := ih
      exact ⟨1 + count, by rw [moved, skip_skip]⟩

theorem readNumber_moves (number : Option Nat) (c : Cursor) :
    ∃ count, (c.readNumber number).2 = c.skip count := by
  fun_induction readNumber number c with
  | case1 | case3 => exact ⟨0, rfl⟩
  | case2 _ _ _ _ _ ih =>
      obtain ⟨count, moved⟩ := ih
      exact ⟨1 + count, by rw [moved, skip_skip]⟩

/-- Goes on gathering text up to the next placeholder. If there is text in front of it, the text
    is the token, and the placeholder will be read again. -/
def gather (text : String) (c : Cursor) : Option Token × Cursor :=
  match _h : c.current? with
  | none => (if text = "" then none else some (.text text), c)
  | some ch =>
      if isQuote ch then
        let literal := (c.skip 1).readQuoted ch (text.push ch)
        gather literal.1 literal.2
      else if ch = '$' ∧ (c.peek? 1).any Char.isDigit then
        let number := (c.skip 1).readNumber (some 0)
        match number.1 with
        | some n =>
            if text = "" then (some (.placeholder (UInt64.ofNat n)), number.2)
            else (some (.text text), c)
        | none =>
            let digits := c.input.extract c.position number.2.position
            gather (text ++ String.ofList digits.toList) number.2
      else gather (text.push ch) (c.skip 1)
termination_by c.input.size - c.position
decreasing_by
  · obtain ⟨count, moved⟩ := readQuoted_moves ch (text.push ch) (c.skip 1)
    have := position_lt _h
    rw [moved]
    simp only [skip]
    omega
  · obtain ⟨count, moved⟩ := readNumber_moves (some 0) (c.skip 1)
    have := position_lt _h
    rw [moved]
    simp only [skip]
    omega
  · have := position_lt _h
    simp only [skip]
    omega

/-- Reads one token, if there is one. -/
def next (c : Cursor) : Option Token × Cursor :=
  c.gather ""

/-- Asks for a token the given number of times, whether or not there still are any. -/
def calls : Nat → Cursor → List (Option Token) × Cursor
  | 0, c => ([], c)
  | count + 1, c =>
      let (answers, last) := calls count c.next.2
      (c.next.1 :: answers, last)

end Cursor

end FilterQuery.Lexer
