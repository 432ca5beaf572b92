import FilterQuery.Proofs.Fragment.Literal

/-! # How a text is read

A text is read from its front in three ways: a placeholder, a literal as a whole, or any other
character by itself. That is the recursion behind the tokens of a text, which only gathers what
is not a placeholder. Whatever follows a text that closes its literals is read by itself, as long
as no digit follows that could belong to a placeholder.
-/

namespace FilterQuery

/-- The number of a placeholder. -/
def Token.index? : Token → Option UInt64
  | text _ => none
  | placeholder n => some n

/-- The numbers of the placeholders, in the order of the text. -/
def Fragment.placeholders (f : Fragment) : List UInt64 :=
  f.tokens.filterMap Token.index?

namespace Lexer

/-- The three ways in which a text is read, as an induction. -/
@[elab_as_elim]
theorem reading {P : List Char → Prop} (nil : P [])
    (placeholder : ∀ {s n rest}, placeholder? s = some (n, rest) → P rest → P s)
    (quoted : ∀ {quote rest}, isQuote quote = true → P (splitQuoted quote rest).2 →
      P (quote :: rest))
    (plain : ∀ {c rest}, placeholder? (c :: rest) = none → isQuote c = false → P rest →
      P (c :: rest)) (s : List Char) : P s := by
  generalize bound : s.length = n
  induction n using Nat.strongRecOn generalizing s with
  | ind n ih =>
      subst bound
      cases s with
      | nil => exact nil
      | cons c rest =>
          cases front : placeholder? (c :: rest) with
          | some found => exact placeholder front (ih _ (length_placeholder?_lt front) found.2 rfl)
          | none =>
              cases quote : isQuote c with
              | true =>
                  have shorter := length_splitQuoted_le c rest
                  exact quoted quote (ih _ (Nat.lt_succ_of_le shorter) _ rfl)
              | false => exact plain front quote (ih _ (Nat.lt_succ_self _) rest rfl)

/-! ## The tokens of a text -/

/-- The tokens with text in front, which joins a text that they begin with. -/
def pushText (front : List Char) : List Token → List Token
  | .text s :: rest => .text (String.ofList front ++ s) :: rest
  | rest => .text (String.ofList front) :: rest

theorem tokens_of_next? {s rest : List Char} {t : Token} (h : next? s = some (t, rest)) :
    tokens s = t :: tokens rest := by
  rw [tokens]
  split
  · next none => cases none.symm.trans h
  · next found => cases found.symm.trans h; rfl

theorem tokens_nil : tokens [] = [] := by
  rw [tokens]
  rfl

theorem tokens_placeholder {s rest : List Char} {n : UInt64} (h : placeholder? s = some (n, rest)) :
    tokens s = .placeholder n :: tokens rest := by
  cases s with
  | nil => cases h
  | cons c tail => exact tokens_of_next? (by simp [next?, h])

theorem tokens_text {s : List Char} (some : s ≠ []) (h : placeholder? s = none) :
    tokens s = .text (String.ofList (splitText s).1) :: tokens (splitText s).2 := by
  cases s with
  | nil => exact absurd rfl some
  | cons c tail => exact tokens_of_next? (by simp [next?, h])

theorem placeholder?_of_ne {c : Char} (h : c ≠ '$') (rest : List Char) :
    placeholder? (c :: rest) = none := by
  rw [placeholder?]
  intro tail same
  exact h (List.cons.inj same).1

theorem ne_sign_of_isQuote {c : Char} (h : isQuote c = true) : c ≠ '$' := by
  rintro rfl
  cases h

theorem splitText_nil : splitText [] = ([], []) := by
  rw [splitText]

theorem splitText_placeholder {s : List Char} {found : UInt64 × List Char}
    (h : placeholder? s = some found) : splitText s = ([], s) := by
  cases s with
  | nil => cases h
  | cons c rest => simp [splitText, h]

theorem splitText_plain {c : Char} {rest : List Char} (h : placeholder? (c :: rest) = none)
    (plain : isQuote c = false) :
    splitText (c :: rest) = (c :: (splitText rest).1, (splitText rest).2) := by
  rw [splitText, h]
  simp [plain]

theorem splitText_quoted {quote : Char} (h : isQuote quote = true) (rest : List Char) :
    splitText (quote :: rest) =
      (quote :: (splitQuoted quote rest).1 ++ (splitText (splitQuoted quote rest).2).1,
        (splitText (splitQuoted quote rest).2).2) := by
  rw [splitText, placeholder?_of_ne (ne_sign_of_isQuote h)]
  simp [h]

/-- Text in front of what is left of a text is one token with the text that is left. -/
theorem tokens_gather (front s : List Char) :
    .text (String.ofList (front ++ (splitText s).1)) :: tokens (splitText s).2 =
      pushText front (tokens s) := by
  cases s with
  | nil => simp [splitText_nil, tokens_nil, pushText]
  | cons c rest =>
      cases h : placeholder? (c :: rest) with
      | some found => simp [splitText_placeholder h, tokens_placeholder h, pushText]
      | none =>
          rw [tokens_text (List.cons_ne_nil c rest) h]
          simp [pushText, String.ofList_append]

theorem tokens_plain {c : Char} {rest : List Char} (h : placeholder? (c :: rest) = none)
    (plain : isQuote c = false) : tokens (c :: rest) = pushText [c] (tokens rest) := by
  rw [tokens_text (List.cons_ne_nil c rest) h, splitText_plain h plain, ← tokens_gather,
    List.singleton_append]

theorem tokens_quoted {quote : Char} (h : isQuote quote = true) (rest : List Char) :
    tokens (quote :: rest) =
      pushText (quote :: (splitQuoted quote rest).1) (tokens (splitQuoted quote rest).2) := by
  have none := placeholder?_of_ne (ne_sign_of_isQuote h) rest
  rw [tokens_text (List.cons_ne_nil quote rest) none, splitText_quoted h, ← tokens_gather]

/-! ## The placeholders of a text -/

/-- The numbers of the placeholders that are read. -/
def indices (s : List Char) : List UInt64 :=
  (tokens s).filterMap Token.index?

theorem filterMap_index?_pushText (front : List Char) (ts : List Token) :
    (pushText front ts).filterMap Token.index? = ts.filterMap Token.index? := by
  cases ts with
  | nil => rfl
  | cons t rest => cases t <;> rfl

theorem indices_nil : indices [] = [] := by
  rw [indices, tokens_nil, List.filterMap_nil]

theorem indices_placeholder {s rest : List Char} {n : UInt64} (h : placeholder? s = some (n, rest)) :
    indices s = n :: indices rest := by
  rw [indices, tokens_placeholder h]
  rfl

theorem indices_plain {c : Char} {rest : List Char} (h : placeholder? (c :: rest) = none)
    (plain : isQuote c = false) : indices (c :: rest) = indices rest := by
  rw [indices, tokens_plain h plain, filterMap_index?_pushText, indices]

theorem indices_quoted {quote : Char} (h : isQuote quote = true) (rest : List Char) :
    indices (quote :: rest) = indices (splitQuoted quote rest).2 := by
  rw [indices, tokens_quoted h, filterMap_index?_pushText, indices]

/-! ## What follows a text -/

/-- No digit comes first: a number in front of the text ends there. -/
def Bounded (s : List Char) : Prop :=
  ∀ c ∈ s.head?, c.isDigit = false

theorem bounded_iff {t : List Char} : Bounded t ↔ t.takeWhile Char.isDigit = [] := by
  cases t with
  | nil => simp [Bounded]
  | cons c rest => cases digit : c.isDigit <;> simp [Bounded, digit]

theorem Bounded.dropWhile {t : List Char} (h : Bounded t) : t.dropWhile Char.isDigit = t := by
  cases t with
  | nil => rfl
  | cons c rest => simp [h c rfl]

theorem Bounded.append {s t : List Char} (hs : Bounded s) (ht : Bounded t) : Bounded (s ++ t) := by
  cases s with
  | nil => exact ht
  | cons c rest => exact hs

theorem bounded_append_iff {s : List Char} (some : s ≠ []) (t : List Char) :
    Bounded (s ++ t) ↔ Bounded s := by
  cases s with
  | nil => exact absurd rfl some
  | cons c rest => rfl

theorem bounded_dropWhile (s : List Char) : Bounded (s.dropWhile Char.isDigit) := by
  intro c first
  have stop := List.head?_dropWhile_not Char.isDigit s
  rwa [first] at stop

theorem takeWhile_isDigit_append (s : List Char) {t : List Char} (h : Bounded t) :
    (s ++ t).takeWhile Char.isDigit = s.takeWhile Char.isDigit := by
  induction s with
  | nil => exact bounded_iff.1 h
  | cons c rest ih => cases digit : c.isDigit <;> simp [digit, ih]

theorem dropWhile_isDigit_append (s : List Char) {t : List Char} (h : Bounded t) :
    (s ++ t).dropWhile Char.isDigit = s.dropWhile Char.isDigit ++ t := by
  induction s with
  | nil => exact h.dropWhile
  | cons c rest ih => cases digit : c.isDigit <;> simp [digit, ih]

theorem takeWhile_digits {digits rest : List Char} (only : ∀ c ∈ digits, c.isDigit = true)
    (h : Bounded rest) : (digits ++ rest).takeWhile Char.isDigit = digits := by
  rw [List.takeWhile_append_of_pos only, bounded_iff.1 h, List.append_nil]

theorem dropWhile_digits {digits rest : List Char} (only : ∀ c ∈ digits, c.isDigit = true)
    (h : Bounded rest) : (digits ++ rest).dropWhile Char.isDigit = rest := by
  rw [List.dropWhile_append_of_pos only, h.dropWhile]

theorem index?_append (s : List Char) {t : List Char} (h : Bounded t) :
    index? (s ++ t) = (index? s).map fun found => (found.1, found.2 ++ t) := by
  simp only [index?, takeWhile_isDigit_append s h, dropWhile_isDigit_append s h]
  split <;> rfl

theorem placeholder?_append {s : List Char} (some : s ≠ []) {t : List Char} (h : Bounded t) :
    placeholder? (s ++ t) = (placeholder? s).map fun found => (found.1, found.2 ++ t) := by
  cases s with
  | nil => exact absurd rfl some
  | cons c rest =>
      by_cases sign : c = '$'
      · subst sign
        exact index?_append rest h
      · rw [List.cons_append, placeholder?_of_ne sign, placeholder?_of_ne sign]
        rfl

theorem eq_of_placeholder? {s rest : List Char} {n : UInt64} (h : placeholder? s = some (n, rest)) :
    ∃ digits, s = '$' :: (digits ++ rest) ∧ (∀ c ∈ digits, c.isDigit = true) ∧ digits ≠ [] ∧
      Bounded rest ∧ Text.decimalValue digits = n.toNat := by
  cases s with
  | nil => cases h
  | cons c tail =>
      by_cases sign : c = '$'
      · subst sign
        simp only [placeholder?, index?] at h
        split at h
        · next number =>
            obtain ⟨some, small⟩ := number
            simp only [Option.some.injEq, Prod.mk.injEq] at h
            obtain ⟨rfl, rfl⟩ := h
            refine ⟨_, by rw [List.takeWhile_append_dropWhile], ?_, some, ?_, ?_⟩
            · exact List.all_eq_true.1 List.all_takeWhile
            · exact bounded_dropWhile tail
            · rw [UInt64.toNat_ofNat']
              exact (Nat.mod_eq_of_lt (Nat.lt_of_le_pred (by decide) small)).symm
        · cases h
      · rw [placeholder?_of_ne sign] at h
        cases h

theorem isQuote_of_isDigit {c : Char} (h : c.isDigit = true) : isQuote c = false := by
  cases quote : isQuote c with
  | false => rfl
  | true =>
      simp only [isQuote, Bool.or_eq_true, decide_eq_true_eq] at quote
      rcases quote with rfl | rfl <;> cases h

theorem after_placeholder {s rest : List Char} {n : UInt64} (h : placeholder? s = some (n, rest)) :
    Standing.outside.after s = Standing.outside.after rest := by
  obtain ⟨digits, rfl, only, -⟩ := eq_of_placeholder? h
  have sign : Standing.outside.next '$' = .outside := rfl
  have number := Standing.after_outside fun c member => isQuote_of_isDigit (only c member)
  rw [Standing.after_cons, sign, Standing.after_append, number]

theorem Closed.of_quoted {quote : Char} {rest : List Char} (h : isQuote quote = true)
    (closed : Closed (quote :: rest)) :
    Literal quote (splitQuoted quote rest).1 ∧ Closed (splitQuoted quote rest).2 := by
  have inside : (Standing.inside quote).after rest = .outside := by
    simpa [Closed, Standing.next, h] using closed
  rcases literal_or_unclosed quote rest with literal | ⟨-, unclosed⟩
  · refine ⟨literal, ?_⟩
    rw [← splitQuoted_append quote rest, Standing.after_append,
      literal.after (ne_backslash_of_isQuote h)] at inside
    exact inside
  · exact absurd inside unclosed

/-- A text that closes its literals has its placeholders whatever follows, and what follows has
    its own, as long as no number runs across the seam. -/
theorem indices_append {s t : List Char} (closed : Closed s) (h : Bounded t) :
    indices (s ++ t) = indices s ++ indices t := by
  induction s using reading with
  | nil => simp [indices_nil]
  | @placeholder s n rest found ih =>
      have some : s ≠ [] := by
        rintro rfl
        cases found
      have longer : placeholder? (s ++ t) = .some (n, rest ++ t) := by
        rw [placeholder?_append some h, found]
        rfl
      have later : Closed rest := (after_placeholder found).symm.trans closed
      rw [indices_placeholder longer, indices_placeholder found, ih later, List.cons_append]
  | @quoted quote rest sign ih =>
      obtain ⟨literal, later⟩ := closed.of_quoted sign
      have longer := literal.splitQuoted_of_split (ne_backslash_of_isQuote sign) t
      rw [List.cons_append, indices_quoted sign, indices_quoted sign, longer, ih later]
  | @plain c rest none plain ih =>
      have longer : placeholder? (c :: (rest ++ t)) = .none := by
        rw [← List.cons_append, placeholder?_append (List.cons_ne_nil c rest) h, none]
        rfl
      rw [List.cons_append, indices_plain longer plain, indices_plain none plain,
        ih ((closed_cons plain).1 closed)]

/-! ## Texts without placeholders -/

/-- Neither a quote nor a `$`: a reader passes over the text. -/
def Inert (s : List Char) : Prop :=
  ∀ c ∈ s, c ≠ '$' ∧ isQuote c = false

instance (s : List Char) : Decidable (Inert s) :=
  List.decidableBAll _ s

theorem Inert.append {s t : List Char} (hs : Inert s) (ht : Inert t) : Inert (s ++ t) := by
  intro c member
  rcases List.mem_append.1 member with front | back
  · exact hs c front
  · exact ht c back

theorem Inert.closed {s : List Char} (h : Inert s) : Closed s :=
  Standing.after_outside fun c member => (h c member).2

theorem indices_inert_append {s : List Char} (h : Inert s) (t : List Char) :
    indices (s ++ t) = indices t := by
  induction s with
  | nil => rfl
  | cons c rest ih =>
      obtain ⟨sign, plain⟩ := h c List.mem_cons_self
      rw [List.cons_append, indices_plain (placeholder?_of_ne sign _) plain]
      exact ih fun d member => h d (List.mem_cons_of_mem c member)

/-- Wherever a `$` with digits stands outside the literals, all its digits together are more than
    a placeholder number can be. -/
def Unnumbered (s : List Char) : Prop :=
  ∀ front digits back, s = front ++ '$' :: (digits ++ back) → Closed front → digits ≠ [] →
    (∀ c ∈ digits, c.isDigit = true) → Bounded back → Token.maxIndex < Text.decimalValue digits

/-- Behind a front part that is closed, a text is as unnumbered as the whole. -/
theorem Unnumbered.of_append {front s : List Char} (closed : Closed front)
    (h : Unnumbered (front ++ s)) : Unnumbered s := by
  rintro inner digits back rfl closed' some only bounded
  exact h (front ++ inner) digits back (by rw [List.append_assoc]) (closed.append closed') some only
    bounded

theorem Unnumbered.indices_eq_nil {s : List Char} (h : Unnumbered s) : indices s = [] := by
  induction s using reading with
  | nil => exact indices_nil
  | @placeholder s n rest found _ =>
      obtain ⟨digits, rfl, only, some, bounded, value⟩ := eq_of_placeholder? found
      have large := h [] digits rest rfl rfl some only bounded
      have small := Token.toNat_le_maxIndex n
      omega
  | @quoted quote rest sign ih =>
      rw [indices_quoted sign]
      rcases literal_or_unclosed quote rest with literal | ⟨nothing, -⟩
      · refine ih (Unnumbered.of_append (literal.closed sign) ?_)
        rwa [List.cons_append, splitQuoted_append]
      · rw [nothing, indices_nil]
  | @plain c rest none plain ih =>
      have closed : Closed [c] := (closed_cons plain).2 rfl
      rw [indices_plain none plain]
      exact ih (Unnumbered.of_append closed h)

theorem Inert.unnumbered {s : List Char} (h : Inert s) : Unnumbered s := by
  rintro front digits back rfl
  exact absurd rfl (h '$' (by simp)).1

end Lexer

end FilterQuery
