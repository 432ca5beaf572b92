import FilterQuery.Proofs.Fragment.Reading

/-! # Renumbered text

A text is renumbered by writing its tokens with every placeholder raised. All characters outside
placeholders stay, so that it is read as before: the same literals, and the same placeholders but
for their numbers.
-/

namespace FilterQuery

namespace Lexer

/-- The text with its placeholders raised by `more`. -/
def renumber (more : Nat) (s : List Char) : List Char :=
  (tokens s).flatMap fun t => (t.shift more).toText.toList

theorem toList_toText_shift_ofText (text : String) (more : Nat) :
    ((Fragment.ofText text).shift more).toText.toList = renumber more text.toList := by
  simp [Fragment.toText, Fragment.shift, Fragment.ofText, renumber, String.toList_join,
    List.flatMap_map]

theorem flatMap_pushText (more : Nat) (front : List Char) (ts : List Token) :
    (pushText front ts).flatMap (fun t => (t.shift more).toText.toList) =
      front ++ ts.flatMap fun t => (t.shift more).toText.toList := by
  cases ts with
  | nil => simp [pushText, Token.shift, Token.toText]
  | cons t rest => cases t <;> simp [pushText, Token.shift, Token.toText]

variable {more : Nat}

theorem renumber_nil : renumber more [] = [] := by
  rw [renumber, tokens_nil, List.flatMap_nil]

theorem renumber_placeholder {s rest : List Char} {n : UInt64}
    (h : placeholder? s = some (n, rest)) :
    renumber more s =
      '$' :: (Nat.toDigits 10 (Token.shiftIndex n more).toNat ++ renumber more rest) := by
  simp [renumber, tokens_placeholder h, Token.shift, Token.toText]

theorem renumber_plain {c : Char} {rest : List Char} (h : placeholder? (c :: rest) = none)
    (plain : isQuote c = false) : renumber more (c :: rest) = c :: renumber more rest := by
  rw [renumber, tokens_plain h plain, flatMap_pushText, renumber, List.singleton_append]

theorem renumber_quoted {quote : Char} (h : isQuote quote = true) (rest : List Char) :
    renumber more (quote :: rest) =
      quote :: ((splitQuoted quote rest).1 ++ renumber more (splitQuoted quote rest).2) := by
  rw [renumber, tokens_quoted h, flatMap_pushText, renumber, List.cons_append]

/-! ## Numerals -/

theorem isDigit_toDigits (n : Nat) : ∀ c ∈ Nat.toDigits 10 n, c.isDigit = true :=
  fun _ member => Nat.isDigit_of_mem_toDigits (by decide) (by decide) member

theorem placeholder?_digits {digits rest : List Char} {n : UInt64}
    (only : ∀ c ∈ digits, c.isDigit = true) (some : digits ≠ [])
    (value : Text.decimalValue digits = n.toNat) (h : Bounded rest) :
    placeholder? ('$' :: (digits ++ rest)) = .some (n, rest) := by
  have small := Token.toNat_le_maxIndex n
  simp [placeholder?, index?, takeWhile_digits only h, dropWhile_digits only h, value, some, small]

theorem decimalValue_toDigits (n : Nat) : Text.decimalValue (Nat.toDigits 10 n) = n :=
  Nat.ofDigitChars_toDigits (by decide) (by decide)

theorem placeholder?_numeral (n : UInt64) {rest : List Char} (h : Bounded rest) :
    placeholder? ('$' :: (Nat.toDigits 10 n.toNat ++ rest)) = some (n, rest) :=
  placeholder?_digits (isDigit_toDigits n.toNat) Nat.toDigits_ne_nil
    (decimalValue_toDigits n.toNat) h

theorem decimalValue_zeros (count : Nat) (digits : List Char) :
    Text.decimalValue (List.replicate count '0' ++ digits) = Text.decimalValue digits := by
  induction count with
  | zero => rfl
  | succ more ih => exact ih

theorem placeholder?_zeros (count : Nat) (n : UInt64) {rest : List Char} (h : Bounded rest) :
    placeholder? ('$' :: (List.replicate count '0' ++ Nat.toDigits 10 n.toNat ++ rest)) =
      some (n, rest) := by
  refine placeholder?_digits ?_ ?_ ?_ h
  · intro c member
    rcases List.mem_append.1 member with zero | digit
    · rw [List.eq_of_mem_replicate zero]
      rfl
    · exact isDigit_toDigits n.toNat c digit
  · exact List.append_ne_nil_of_right_ne_nil _ Nat.toDigits_ne_nil
  · rw [decimalValue_zeros, decimalValue_toDigits]

/-! ## Reading a renumbered text -/

/-- The digits in front stay: they belong to no placeholder. -/
theorem takeWhile_renumber (more : Nat) (s : List Char) :
    (renumber more s).takeWhile Char.isDigit = s.takeWhile Char.isDigit := by
  induction s using reading with
  | nil => rw [renumber_nil]
  | placeholder found _ =>
      rw [renumber_placeholder found]
      obtain ⟨digits, rfl, -⟩ := eq_of_placeholder? found
      rfl
  | @quoted quote rest sign _ =>
      have none : quote.isDigit = false := by
        cases digit : quote.isDigit with
        | false => rfl
        | true => rw [isQuote_of_isDigit digit] at sign; cases sign
      rw [renumber_quoted sign]
      simp [none]
  | @plain c rest none plain ih =>
      rw [renumber_plain none plain]
      cases digit : c.isDigit <;> simp [digit, ih]

theorem Bounded.renumber {s : List Char} (h : Bounded s) (more : Nat) : Bounded (renumber more s) := by
  rw [bounded_iff, takeWhile_renumber]
  exact bounded_iff.1 h

theorem placeholder?_renumber {c : Char} {rest : List Char} (h : placeholder? (c :: rest) = none)
    (more : Nat) : placeholder? (c :: renumber more rest) = none := by
  by_cases sign : c = '$'
  · subst sign
    simpa [placeholder?, index?, takeWhile_renumber] using h
  · exact placeholder?_of_ne sign _

/-- A literal is taken as a whole from the renumbered text as well: it has not changed. -/
theorem splitQuoted_renumber {quote : Char} (h : isQuote quote = true) (rest : List Char)
    (more : Nat) :
    splitQuoted quote ((splitQuoted quote rest).1 ++ renumber more (splitQuoted quote rest).2) =
      ((splitQuoted quote rest).1, renumber more (splitQuoted quote rest).2) := by
  rcases literal_or_unclosed quote rest with literal | ⟨nothing, -⟩
  · exact literal.splitQuoted_append (ne_backslash_of_isQuote h) _
  · have whole := splitQuoted_append quote rest
    rw [nothing, List.append_nil] at whole
    rw [nothing, renumber_nil, List.append_nil, whole]
    exact Prod.ext whole nothing

theorem map_shift_pushText (more : Nat) (front : List Char) (ts : List Token) :
    (pushText front ts).map (Token.shift more) = pushText front (ts.map (Token.shift more)) := by
  cases ts with
  | nil => rfl
  | cons t rest => cases t <;> rfl

theorem tokens_renumber (more : Nat) (s : List Char) :
    tokens (renumber more s) = (tokens s).map (Token.shift more) := by
  induction s using reading with
  | nil => simp [renumber_nil, tokens_nil]
  | @placeholder s n rest found ih =>
      obtain ⟨_, _, _, _, bounded, _⟩ := eq_of_placeholder? found
      have read := placeholder?_numeral (Token.shiftIndex n more) (bounded.renumber more)
      rw [renumber_placeholder found, tokens_placeholder read, ih, tokens_placeholder found,
        List.map_cons, Token.shift]
  | @quoted quote rest sign ih =>
      rw [renumber_quoted sign, tokens_quoted sign, splitQuoted_renumber sign, ih,
        tokens_quoted sign, map_shift_pushText]
  | @plain c rest none plain ih =>
      rw [renumber_plain none plain, tokens_plain (placeholder?_renumber none more) plain, ih,
        tokens_plain none plain, map_shift_pushText]

theorem indices_renumber (more : Nat) (s : List Char) :
    indices (renumber more s) = (indices s).map (Token.shiftIndex · more) := by
  have index (t : Token) : (t.shift more).index? = t.index?.map (Token.shiftIndex · more) := by
    cases t <;> rfl
  simp only [indices, tokens_renumber, List.filterMap_map, List.map_filterMap, Function.comp_def, index]

theorem closed_renumber {s : List Char} (closed : Closed s) (more : Nat) :
    Closed (renumber more s) := by
  induction s using reading with
  | nil => rwa [renumber_nil]
  | @placeholder s n rest found ih =>
      obtain ⟨_, _, _, _, bounded, _⟩ := eq_of_placeholder? found
      have read := placeholder?_numeral (Token.shiftIndex n more) (bounded.renumber more)
      rw [renumber_placeholder found, Closed, after_placeholder read]
      exact ih ((after_placeholder found).symm.trans closed)
  | @quoted quote rest sign ih =>
      obtain ⟨literal, later⟩ := closed.of_quoted sign
      rw [renumber_quoted sign, ← List.cons_append]
      exact (literal.closed sign).append (ih later)
  | @plain c rest none plain ih =>
      rw [renumber_plain none plain, closed_cons plain]
      exact ih ((closed_cons plain).1 closed)

end Lexer

/-! ## Fragments read back -/

namespace Fragment

theorem ofText_toText_shift (s : String) (k : Nat) :
    ofText ((ofText s).shift k).toText = (ofText s).shift k := by
  rw [ofText, Lexer.toList_toText_shift_ofText, Lexer.tokens_renumber]
  rfl

/-- A sum past the largest placeholder number shifts as far as that number. -/
theorem shift_min (f : Fragment) (k : Nat) : f.shift (min k Token.maxIndex) = f.shift k := by
  have token (t : Token) : t.shift (min k Token.maxIndex) = t.shift k := by
    cases t with
    | text s => rfl
    | placeholder n =>
        refine congrArg Token.placeholder (UInt64.toNat_inj.1 ?_)
        simp only [Token.toNat_shiftIndex]
        omega
  simp only [shift, token]

theorem ofText_zeros (count : Nat) (n : UInt64) :
    ofText ("$" ++ String.ofList (List.replicate count '0') ++ toString n.toNat) =
      ⟨[.placeholder n]⟩ := by
  have nothing : Lexer.Bounded [] := nofun
  have front := Lexer.placeholder?_zeros count n nothing
  rw [List.append_nil] at front
  simp [ofText, Lexer.tokens_placeholder front, Lexer.tokens_nil]

theorem toText_ofText_zeros (count : Nat) (n : UInt64) :
    ((ofText ("$" ++ String.ofList (List.replicate count '0') ++ toString n.toNat)).shift 0).toText =
      "$" ++ toString n.toNat := by
  rw [ofText_zeros, shift_zero]
  simp [toText, Token.toText]

/-- A text written with its placeholders shifted has the same tokens but for the shift, so that it
    can be read and shifted again as often as need be. What has been read and written once stays
    as it is from then on; the first time, numbers lose the zeros in front of them. -/
theorem shift_reads_back (s : String) (k : Nat) :
    (ofText ((ofText s).shift k).toText).tokens = (ofText s).tokens.map (Token.shift k) ∧
    (∀ j, ((ofText ((ofText s).shift k).toText).shift j).toText =
      ((ofText s).shift (min (k + j) Token.maxIndex)).toText) ∧
    ((ofText ((ofText s).shift 0).toText).shift 0).toText = ((ofText s).shift 0).toText ∧
    (∀ (zeros : Nat) (n : UInt64),
      ((ofText ("$" ++ String.ofList (List.replicate zeros '0') ++ toString n.toNat)).shift 0).toText =
        "$" ++ toString n.toNat) ∧
    ∃ t, ((ofText t).shift 0).toText ≠ t := by
  refine ⟨?_, fun j => ?_, ?_, toText_ofText_zeros, "$" ++ "0" ++ "7", ?_⟩
  · rw [ofText_toText_shift]
    rfl
  · rw [ofText_toText_shift, shift_shift, shift_min]
  · rw [ofText_toText_shift, shift_shift]
  · have written : ((ofText ("$" ++ "0" ++ "7")).shift 0).toText = "$" ++ "7" :=
      toText_ofText_zeros 1 7
    rw [written]
    decide

end Fragment

end FilterQuery
