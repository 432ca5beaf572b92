import FilterQuery.Fragment.Lexer

/-! # String literals

Where a reader stands among the string literals of a text is told by an automaton that looks at
one character after the other. The lexer takes a literal as a whole; both agree about its end.
-/

namespace FilterQuery.Lexer

/-- Where a reader stands: outside the literals, inside one that `quote` has opened, or there
    behind a backslash. -/
inductive Standing where
  | outside
  | inside (quote : Char)
  | escaped (quote : Char)
  deriving Repr, DecidableEq

namespace Standing

def next : Standing → Char → Standing
  | outside, c => if isQuote c then inside c else outside
  | inside quote, c =>
      if c = '\\' then escaped quote else if c = quote then outside else inside quote
  | escaped quote, _ => inside quote

/-- Where a reader stands behind a text. -/
def after (s : Standing) (text : List Char) : Standing :=
  text.foldl next s

@[simp] theorem after_nil (s : Standing) : s.after [] = s := rfl

@[simp] theorem after_cons (s : Standing) (c : Char) (rest : List Char) :
    s.after (c :: rest) = (s.next c).after rest := rfl

theorem after_append (s : Standing) (front back : List Char) :
    s.after (front ++ back) = (s.after front).after back :=
  List.foldl_append

/-- Only a quote leads into a literal. -/
theorem after_outside {text : List Char} (h : ∀ c ∈ text, isQuote c = false) :
    outside.after text = .outside := by
  induction text with
  | nil => rfl
  | cons c rest ih =>
      rw [after_cons, next, h c List.mem_cons_self]
      exact ih fun d member => h d (List.mem_cons_of_mem c member)

end Standing

/-- Every literal of the text is closed in it. -/
def Closed (text : List Char) : Prop :=
  Standing.outside.after text = .outside

instance (text : List Char) : Decidable (Closed text) :=
  inferInstanceAs (Decidable (_ = _))

theorem Closed.append {front back : List Char} (hf : Closed front) (hb : Closed back) :
    Closed (front ++ back) := by
  rw [Closed, Standing.after_append, hf, hb]

theorem closed_cons {c : Char} (plain : isQuote c = false) {rest : List Char} :
    Closed (c :: rest) ↔ Closed rest := by
  simp [Closed, Standing.next, plain]

/-- The rest of a literal behind its opening quote, up to the closing one. -/
inductive Literal (quote : Char) : List Char → Prop where
  | close : Literal quote [quote]
  | escape (c : Char) {rest} : Literal quote rest → Literal quote ('\\' :: c :: rest)
  | char {c rest} : c ≠ '\\' → c ≠ quote → Literal quote rest → Literal quote (c :: rest)

variable {quote : Char}

theorem ne_backslash_of_isQuote (h : isQuote quote = true) : quote ≠ '\\' := by
  rintro rfl
  cases h

theorem splitQuoted_cons {c : Char} (other : c ≠ '\\') (rest : List Char) :
    splitQuoted quote (c :: rest) =
      if c = quote then ([c], rest)
      else (c :: (splitQuoted quote rest).1, (splitQuoted quote rest).2) := by
  rw [splitQuoted]
  rintro d tail rfl
  exact absurd rfl other

theorem Literal.splitQuoted_append {body : List Char} (h : Literal quote body)
    (ne : quote ≠ '\\') (rest : List Char) : splitQuoted quote (body ++ rest) = (body, rest) := by
  induction h with
  | close =>
      rw [List.singleton_append, splitQuoted_cons ne, if_pos rfl]
  | escape c _ ih => simp [splitQuoted, ih]
  | char escape other _ ih =>
      rw [List.cons_append, splitQuoted_cons escape, if_neg other, ih]

theorem Literal.splitQuoted_of_split {s : List Char} (h : Literal quote (splitQuoted quote s).1)
    (ne : quote ≠ '\\') (more : List Char) :
    splitQuoted quote (s ++ more) =
      ((splitQuoted quote s).1, (splitQuoted quote s).2 ++ more) := by
  conv => lhs; rw [← FilterQuery.Lexer.splitQuoted_append quote s, List.append_assoc]
  exact h.splitQuoted_append ne _

theorem Literal.after {body : List Char} (h : Literal quote body) (ne : quote ≠ '\\') :
    (Standing.inside quote).after body = .outside := by
  induction h with
  | close => simp [Standing.next, ne]
  | escape c _ ih => simpa [Standing.next] using ih
  | char escape other _ ih => simpa [Standing.next, escape, other] using ih

theorem Literal.closed {body : List Char} (h : Literal quote body) (sign : isQuote quote = true) :
    Closed (quote :: body) := by
  have inside : Standing.outside.next quote = .inside quote := by simp [Standing.next, sign]
  rw [Closed, Standing.after_cons, inside, h.after (ne_backslash_of_isQuote sign)]

/-- What the lexer takes is a literal, or else it is all there is and no literal ends in it. -/
theorem literal_or_unclosed (quote : Char) (s : List Char) :
    Literal quote (splitQuoted quote s).1 ∨
      (splitQuoted quote s).2 = [] ∧ (Standing.inside quote).after s ≠ .outside := by
  fun_induction splitQuoted quote s with
  | case1 => exact .inr ⟨rfl, by simp⟩
  | case2 c rest literal tail split ih =>
      rw [split] at ih
      rcases ih with closed | ⟨none, unclosed⟩
      · exact .inl (.escape c closed)
      · exact .inr ⟨none, by simpa [Standing.next] using unclosed⟩
  | case3 rest _ => exact .inl .close
  | case4 c rest single other literal tail split ih =>
      rw [split] at ih
      by_cases escape : c = '\\'
      · -- a backslash that protects nothing: the text ends here
        cases rest with
        | nil =>
            cases split
            exact .inr ⟨rfl, by simp [Standing.next, escape]⟩
        | cons d more => exact absurd rfl (single d more escape)
      · rcases ih with closed | ⟨none, unclosed⟩
        · exact .inl (.char escape other closed)
        · exact .inr ⟨none, by simpa [Standing.next, escape, other] using unclosed⟩

end FilterQuery.Lexer
