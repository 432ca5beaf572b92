import FilterQuery.Fragment.Basic
import FilterQuery.Text.Digits

/-! # Reading fragments

Predicate text is split into literal text and `$n` placeholders. A quoted string literal is
text, whatever it holds. Reading never fails: a literal that is not closed runs to the end.
-/

namespace FilterQuery.Lexer

/-- Both quotes open a string literal. -/
def isQuote (c : Char) : Bool :=
  c = '"' || c = '\''

/-- The rest of a literal, with its closing quote, and what follows it. A backslash
    protects the next character. -/
def splitQuoted (quote : Char) : List Char → List Char × List Char
  | [] => ([], [])
  | '\\' :: c :: rest =>
      let (literal, after) := splitQuoted quote rest
      ('\\' :: c :: literal, after)
  | c :: rest =>
      if c = quote then ([c], rest)
      else
        let (literal, after) := splitQuoted quote rest
        (c :: literal, after)

/-- Reads the number of a placeholder after its `$`: all the ASCII digits that follow. None
    follow, or their value is no placeholder number: then the `$` is text. -/
def index? (s : List Char) : Option (UInt64 × List Char) :=
  let digits := s.takeWhile Char.isDigit
  if digits ≠ [] ∧ Text.decimalValue digits ≤ Token.maxIndex then
    some (UInt64.ofNat (Text.decimalValue digits), s.dropWhile Char.isDigit)
  else none

/-- Reads a placeholder at the very front. -/
def placeholder? : List Char → Option (UInt64 × List Char)
  | '$' :: rest => index? rest
  | _ => none

theorem splitQuoted_append (quote : Char) (s : List Char) :
    (splitQuoted quote s).1 ++ (splitQuoted quote s).2 = s := by
  fun_induction splitQuoted quote s <;> simp_all

theorem length_splitQuoted_le (quote : Char) (s : List Char) :
    (splitQuoted quote s).2.length ≤ s.length := by
  have h := congrArg List.length (splitQuoted_append quote s)
  simp at h
  omega

/-- The text in front of the first placeholder, and what follows it. -/
def splitText : List Char → List Char × List Char
  | [] => ([], [])
  | c :: rest =>
      if (placeholder? (c :: rest)).isSome then ([], c :: rest)
      else if isQuote c then
        let (text, after) := splitText (splitQuoted c rest).2
        (c :: (splitQuoted c rest).1 ++ text, after)
      else
        let (text, after) := splitText rest
        (c :: text, after)
termination_by s => s.length
decreasing_by
  · have := length_splitQuoted_le c rest
    simp; omega
  · simp

theorem splitText_append (s : List Char) : (splitText s).1 ++ (splitText s).2 = s := by
  fun_induction splitText s with
  | case1 => rfl
  | case2 => simp
  | case3 c rest _ _ text after heq ih =>
      simp only [heq] at ih
      simp [ih, splitQuoted_append]
  | case4 c rest _ _ text after heq ih =>
      simp only [heq] at ih
      simp [ih]

theorem length_index?_le {s rest : List Char} {n : UInt64} (h : index? s = some (n, rest)) :
    rest.length ≤ s.length := by
  simp only [index?] at h
  split at h
  · simp only [Option.some.injEq, Prod.mk.injEq] at h
    rw [← h.2]
    exact (List.dropWhile_suffix _).length_le
  · simp at h

theorem length_placeholder?_lt {s rest : List Char} {n : UInt64}
    (h : placeholder? s = some (n, rest)) : rest.length < s.length := by
  unfold placeholder? at h
  split at h
  · have := length_index?_le h
    simp; omega
  · simp at h

theorem splitText_ne_nil {s : List Char} (hs : s ≠ []) (h : placeholder? s = none) :
    (splitText s).1 ≠ [] := by
  unfold splitText
  split
  · exact absurd rfl hs
  · rw [if_neg (by simp [h])]
    split <;> simp

theorem length_splitText_lt {s : List Char} (hs : s ≠ []) (h : placeholder? s = none) :
    (splitText s).2.length < s.length := by
  have happ := congrArg List.length (splitText_append s)
  have := List.length_pos_iff.2 (splitText_ne_nil hs h)
  simp at happ
  omega

/-- Reads one token. There is none only at the end of the text. -/
def next? (s : List Char) : Option (Token × List Char) :=
  match s with
  | [] => none
  | c :: rest =>
      match placeholder? (c :: rest) with
      | some (n, after) => some (.placeholder n, after)
      | none =>
          let (text, after) := splitText (c :: rest)
          some (.text (String.ofList text), after)

/-- Every token takes something from the text. -/
theorem length_next?_lt {s rest : List Char} {t : Token} (h : next? s = some (t, rest)) :
    rest.length < s.length := by
  unfold next? at h
  split at h
  · simp at h
  · split at h
    · rename_i hp
      simp only [Option.some.injEq, Prod.mk.injEq] at h
      exact h.2 ▸ length_placeholder?_lt hp
    · rename_i hp
      simp only [Option.some.injEq, Prod.mk.injEq] at h
      exact h.2 ▸ length_splitText_lt (by simp) hp

/-- All tokens of a text. -/
def tokens (s : List Char) : List Token :=
  match h : next? s with
  | none => []
  | some (t, rest) =>
      have := length_next?_lt h
      t :: tokens rest
termination_by s.length

/-- Reads tokens one at a time: the given number of steps, and then the rest. -/
def steps : Nat → List Char → List (Option Token) × List Char
  | 0, s => ([], s)
  | n + 1, s =>
      match next? s with
      | none =>
          let (more, rest) := steps n s
          (none :: more, rest)
      | some (t, after) =>
          let (more, rest) := steps n after
          (some t :: more, rest)

end FilterQuery.Lexer

namespace FilterQuery.Fragment

/-- The fragment written as this text. -/
def ofText (s : String) : Fragment :=
  ⟨Lexer.tokens s.toList⟩

end FilterQuery.Fragment
