import FilterQuery.Fragment.Cursor
import FilterQuery.Proofs.Fragment.Representable

/-! # Tokens one call at a time

A cursor goes back to a `$` whose digits it has read if text stands in front of it. It still ends
every call that gives out a token further on than it began, because that text has been gathered in
the same call. So the calls come to an end, and what they give out are the tokens of the text,
wherever one stops calling and goes on later.
-/

namespace FilterQuery.Lexer

theorem push_append_ofList (text : String) (c : Char) (more : List Char) :
    text.push c ++ String.ofList more = text ++ String.ofList (c :: more) := by
  refine String.toList_inj.1 ?_
  simp

theorem splitText_digits {digits : List Char} (only : ∀ c ∈ digits, c.isDigit = true)
    (rest : List Char) :
    splitText (digits ++ rest) = (digits ++ (splitText rest).1, (splitText rest).2) := by
  induction digits with
  | nil => rfl
  | cons c more ih =>
      have digit := only c List.mem_cons_self
      have other : c ≠ '$' := by
        rintro rfl
        cases digit
      rw [List.cons_append, splitText_plain (placeholder?_of_ne other _) (isQuote_of_isDigit digit),
        ih fun d member => only d (List.mem_cons_of_mem c member)]
      rfl

theorem splitText_number {digits rest : List Char}
    (h : placeholder? ('$' :: (digits ++ rest)) = none)
    (only : ∀ c ∈ digits, c.isDigit = true) :
    (splitText ('$' :: (digits ++ rest))).1 = '$' :: digits ++ (splitText rest).1 := by
  rw [splitText_plain h rfl, splitText_digits only]
  rfl

theorem placeholder?_of_bounded {rest : List Char} (h : Bounded rest) :
    placeholder? ('$' :: rest) = none := by
  simp [placeholder?, index?, bounded_iff.1 h]

theorem next?_text {s rest : List Char} {u : String} (h : next? s = some (.text u, rest)) :
    u ≠ "" ∧ ∀ v after, next? rest ≠ some (.text v, after) := by
  rcases next?_eq_some h with ⟨n, same, -⟩ | ⟨first, none, same, rfl⟩
  · cases same
  · cases same
    refine ⟨by simpa using splitText_ne_nil first none, fun v after more => ?_⟩
    rcases next?_eq_some more with ⟨n, other, -⟩ | ⟨some, none, -⟩
    · cases other
    · rcases (stretch_splitText s).ends with last | ⟨-, found, start⟩
      · exact some last
      · cases none.symm.trans start

namespace Cursor

variable {c : Cursor} {text : String} {front back : List Char}

theorem rest_skip_of_append (h : c.rest = front ++ back) : (c.skip front.length).rest = back := by
  rw [rest_skip, h, List.drop_left]

theorem extract_of_append (h : c.rest = front ++ back) :
    (c.input.extract c.position (c.skip front.length).position).toList = front := by
  rw [Array.toList_extract, List.extract_eq_take_drop, skip, Nat.add_sub_cancel_left]
  exact (congrArg (List.take front.length) h).trans List.take_left

theorem any_peek?_iff : (c.peek? 1).any Char.isDigit = true ↔ ¬Bounded (c.skip 1).rest := by
  rw [show c.peek? 1 = (c.skip 1).current? from rfl, current?_eq]
  cases (c.skip 1).rest <;> simp [Bounded]

theorem readQuoted_eq (quote : Char) (text : String) (c : Cursor) :
    c.readQuoted quote text =
      (text ++ String.ofList (splitQuoted quote c.rest).1,
        c.skip (splitQuoted quote c.rest).1.length) := by
  fun_induction readQuoted quote text c with
  | case1 text c last => simp [rest_of_current?_none last, splitQuoted]
  | case2 text c escaped follows current ih =>
      have whole := rest_of_current? current
      rw [rest_of_current? follows, skip_skip] at whole
      rw [ih, whole, splitQuoted, skip_skip, push_append_ofList, push_append_ofList, Nat.add_comm]
      rfl
  | case3 text c last current ih =>
      have whole := rest_of_current? current
      rw [rest_of_current?_none last] at whole
      rw [ih, rest_of_current?_none last, whole, push_append_ofList]
      simp [splitQuoted]
  | case4 text c current other =>
      rw [rest_of_current? current, splitQuoted_cons other, if_pos rfl]
      simp
  | case5 text c ch current other differs ih =>
      rw [ih, rest_of_current? current, splitQuoted_cons other, if_neg differs, skip_skip,
        push_append_ofList, Nat.add_comm]
      rfl

theorem readNumber_eq (number : Option Nat) (c : Cursor) :
    c.readNumber number =
      ((c.rest.takeWhile Char.isDigit).foldl addDigit? number,
        c.skip (c.rest.takeWhile Char.isDigit).length) := by
  fun_induction readNumber number c with
  | case1 number c last => simp [rest_of_current?_none last]
  | case2 number c ch current digit ih =>
      rw [ih, rest_of_current? current, List.takeWhile_cons_of_pos digit, skip_skip, Nat.add_comm]
      rfl
  | case3 number c ch current other => simp [rest_of_current? current, other]

theorem foldl_addDigit?_none (digits : List Char) : digits.foldl addDigit? none = none := by
  induction digits with
  | nil => rfl
  | cons _ _ ih => exact ih

/-- The number that digits make when they are written behind a number. -/
def extended (n : Nat) (digits : List Char) : Nat :=
  digits.foldl (fun n digit => 10 * n + Text.digitValue digit) n

theorem le_extended (n : Nat) (digits : List Char) : n ≤ extended n digits := by
  induction digits generalizing n with
  | nil => exact Nat.le_refl n
  | cons digit more ih =>
      have longer : 10 * n + Text.digitValue digit ≤ extended n (digit :: more) := ih _
      omega

/-- Every digit makes a number larger, so one that is once too large would stay it. -/
theorem foldl_addDigit? {n : Nat} (small : n ≤ Token.maxIndex) (digits : List Char) :
    digits.foldl addDigit? (some n) =
      if extended n digits ≤ Token.maxIndex then some (extended n digits) else none := by
  induction digits generalizing n with
  | nil => simp [extended, small]
  | cons digit more ih =>
      rw [List.foldl_cons, addDigit?, Option.bind_some]
      by_cases fits : 10 * n + Text.digitValue digit ≤ Token.maxIndex
      · simp only [fits, if_true, ih fits]
        rfl
      · have longer : 10 * n + Text.digitValue digit ≤ extended n (digit :: more) :=
          le_extended _ more
        have large : ¬extended n (digit :: more) ≤ Token.maxIndex := by omega
        simp only [fits, large, if_false, foldl_addDigit?_none]

theorem readNumber_zero (c : Cursor) :
    c.readNumber (some 0) =
      let digits := c.rest.takeWhile Char.isDigit
      (if Text.decimalValue digits ≤ Token.maxIndex then some (Text.decimalValue digits) else none,
        c.skip digits.length) := by
  rw [readNumber_eq, foldl_addDigit? (Nat.zero_le _)]
  rfl

/-- At a `$` with digits behind it, the lexer moves behind all of them. They have a number if a
    placeholder begins at the `$`. -/
theorem number_cases (current : c.current? = some '$')
    (follows : (c.peek? 1).any Char.isDigit = true) :
    let number := (c.skip 1).readNumber (some 0)
    (∃ digits, c.rest = '$' :: (digits ++ number.2.rest) ∧ number.2 = c.skip (digits.length + 1) ∧
      ∀ d ∈ digits, d.isDigit = true) ∧
    placeholder? c.rest = number.1.map fun n => (UInt64.ofNat n, number.2.rest) := by
  have first := any_peek?_iff.1 follows
  rw [bounded_iff] at first
  have whole := rest_of_current? current
  generalize tail : (c.skip 1).rest = behind at first whole
  have split := List.takeWhile_append_dropWhile (p := Char.isDigit) (l := behind)
  have later := rest_skip_of_append (tail.trans split.symm)
  simp only [readNumber_zero, tail, whole, placeholder?, index?, later]
  refine ⟨⟨_, congrArg _ split.symm, ?_, List.all_eq_true.1 List.all_takeWhile⟩, ?_⟩
  · rw [skip_skip, Nat.add_comm]
  · by_cases small : Text.decimalValue (behind.takeWhile Char.isDigit) ≤ Token.maxIndex <;>
      simp [first, small]

/-- The token of the text that is gathered, together with all text up to the next placeholder. -/
def taken (text : String) (c : Cursor) : Option Token × Cursor :=
  (some (.text (text ++ String.ofList (splitText c.rest).1)), c.skip (splitText c.rest).1.length)

theorem taken_append (whole : c.rest = front ++ back)
    (split : (splitText c.rest).1 = front ++ (splitText back).1) (text : String) :
    taken (text ++ String.ofList front) (c.skip front.length) = taken text c := by
  simp [taken, rest_skip_of_append whole, split, String.ofList_append, String.append_assoc]

theorem taken_quoted {quote : Char} (current : c.current? = some quote)
    (sign : isQuote quote = true) (text : String) :
    let literal := (c.skip 1).readQuoted quote (text.push quote)
    literal.1 ≠ "" ∧ taken literal.1 literal.2 = taken text c := by
  have whole := rest_of_current? current
  have split := congrArg Prod.fst (splitText_quoted sign (c.skip 1).rest)
  rw [← whole] at split
  rw [← splitQuoted_append quote (c.skip 1).rest, ← List.cons_append] at whole
  rw [readQuoted_eq, push_append_ofList, skip_skip, Nat.add_comm]
  exact ⟨by simp, taken_append whole split text⟩

theorem taken_number (current : c.current? = some '$')
    (follows : (c.peek? 1).any Char.isDigit = true)
    (large : ((c.skip 1).readNumber (some 0)).1 = none) (text : String) :
    let behind := ((c.skip 1).readNumber (some 0)).2
    let digits := String.ofList (c.input.extract c.position behind.position).toList
    text ++ digits ≠ "" ∧ taken (text ++ digits) behind = taken text c := by
  obtain ⟨⟨run, whole, moved, only⟩, none⟩ := number_cases current follows
  rw [large, Option.map_none, whole] at none
  have split := splitText_number none only
  rw [← whole] at split
  rw [← List.cons_append] at whole
  have behind : ((c.skip 1).readNumber (some 0)).2 = c.skip ('$' :: run).length := moved
  rw [behind]
  simp only [extract_of_append whole]
  exact ⟨by simp, taken_append whole split text⟩

theorem taken_plain {ch : Char} (current : c.current? = some ch) (plain : isQuote ch = false)
    (other : ¬(ch = '$' ∧ (c.peek? 1).any Char.isDigit = true)) (text : String) :
    taken (text.push ch) (c.skip 1) = taken text c := by
  have whole := rest_of_current? current
  have none : placeholder? c.rest = none := by
    rw [whole]
    by_cases sign : ch = '$'
    · subst sign
      exact placeholder?_of_bounded (not_not.1 fun digit => other ⟨rfl, any_peek?_iff.2 digit⟩)
    · exact placeholder?_of_ne sign _
  have split := congrArg Prod.fst (splitText_plain (whole ▸ none) plain)
  rw [← whole] at split
  have one : taken (text ++ String.ofList [ch]) (c.skip 1) = taken text c :=
    taken_append whole split text
  rwa [← push_append_ofList, String.ofList_nil, String.append_empty] at one

/-- As soon as text has been gathered, or if it is text that comes first, the token is text. -/
theorem gather_text (h : text ≠ "" ∨ c.rest ≠ [] ∧ placeholder? c.rest = none) :
    c.gather text = taken text c := by
  fun_induction gather text c with
  | case1 text c last =>
      have nothing := rest_of_current?_none last
      have filled : text ≠ "" := h.resolve_right fun more => more.1 nothing
      simp [taken, filled, nothing, splitText_nil]
  | case2 text c quote current sign literal ih =>
      obtain ⟨filled, same⟩ := taken_quoted current sign text
      exact (ih (.inl filled)).trans same
  | case3 c ch current plain sign number n found =>
      obtain ⟨rfl, follows⟩ := sign
      obtain ⟨-, front⟩ := number_cases current follows
      rcases h with filled | ⟨-, none⟩
      · exact absurd rfl filled
      · rw [none, found] at front
        cases front
  | case4 text c ch current plain sign number n found filled =>
      obtain ⟨rfl, follows⟩ := sign
      obtain ⟨-, front⟩ := number_cases current follows
      rw [found] at front
      simp [taken, splitText_placeholder front]
  | case5 text c ch current plain sign number large digits ih =>
      obtain ⟨rfl, follows⟩ := sign
      obtain ⟨filled, same⟩ := taken_number current follows large text
      exact (ih (.inl filled)).trans same
  | case6 text c ch current plain other ih =>
      have same := taken_plain current (Bool.eq_false_iff.2 plain) other text
      exact (ih (.inl String.push_ne_empty)).trans same

theorem gather_placeholder {n : UInt64} (h : placeholder? c.rest = some (n, back)) :
    ∃ front, c.rest = front ++ back ∧ front ≠ [] ∧
      c.gather "" = (some (.placeholder n), c.skip front.length) := by
  obtain ⟨digits, whole, only, first, -⟩ := eq_of_placeholder? h
  have current : c.current? = some '$' := by rw [current?_eq, whole]; rfl
  have follows : (c.peek? 1).any Char.isDigit = true := by
    rw [any_peek?_iff, rest_skip, whole, List.drop_one, List.tail_cons, bounded_append_iff first]
    obtain ⟨d, more, rfl⟩ := List.exists_cons_of_ne_nil first
    simp [Bounded, only d List.mem_cons_self]
  obtain ⟨⟨run, split, moved, -⟩, found⟩ := number_cases current follows
  rw [h, eq_comm, Option.map_eq_some_iff] at found
  obtain ⟨m, number, same⟩ := found
  obtain ⟨rfl, rfl⟩ := Prod.mk.inj same
  refine ⟨'$' :: run, split, List.cons_ne_nil _ _, ?_⟩
  -- of the branches that a call can take, the others are not taken at this `$`
  fun_cases gather "" c with
  | case1 last => cases current.symm.trans last
  | case2 _ sign quote =>
      cases current.symm.trans sign
      cases quote
  | case3 _ _ _ _ read _ value =>
      cases number.symm.trans value
      rw [show read.2 = _ from moved]
      rfl
  | case4 _ _ _ _ _ _ _ filled => exact absurd rfl filled
  | case5 _ _ _ _ _ large => cases number.symm.trans large
  | case6 _ sign _ other =>
      cases current.symm.trans sign
      exact absurd ⟨rfl, follows⟩ other

/-- What a call does. At the end of the text it does nothing. Otherwise it reads the token that the
    lexer reads in the rest of the text, and moves behind what the token was read from. -/
theorem next_cases (c : Cursor) :
    c.rest = [] ∧ c.next = (none, c) ∨
    ∃ t front back, c.rest = front ++ back ∧ front ≠ [] ∧ next? c.rest = some (t, back) ∧
      c.next = (some t, c.skip front.length) := by
  by_cases last : c.rest = []
  · have current : c.current? = none := by rw [current?_eq, last]; rfl
    refine .inl ⟨last, ?_⟩
    rw [next, gather]
    split
    · rfl
    · next more => cases current.symm.trans more
  · right
    obtain ⟨ch, tail, whole⟩ := List.exists_cons_of_ne_nil last
    cases front : placeholder? c.rest with
    | some found =>
        obtain ⟨run, split, first, read⟩ := gather_placeholder front
        refine ⟨.placeholder found.1, run, found.2, split, first, ?_, read⟩
        rw [whole] at front ⊢
        simp only [next?, front]
    | none =>
        have read : c.gather "" = _ := gather_text (.inr ⟨last, front⟩)
        rw [taken, String.empty_append] at read
        refine ⟨_, _, _, (splitText_append c.rest).symm, splitText_ne_nil last front, ?_, read⟩
        rw [whole] at front ⊢
        simp only [next?, front]

/-! ## Progress -/

/-- The position is in the text or at its end. -/
def Within (c : Cursor) : Prop :=
  c.position ≤ c.input.size

theorem rest_eq_nil_iff : c.rest = [] ↔ c.input.size ≤ c.position := by
  simp [rest]

theorem next_advances {t : Token} {d : Cursor} (h : c.next = (some t, d)) :
    d.input = c.input ∧ c.position < d.position ∧ d.Within := by
  obtain ⟨-, none⟩ | ⟨t, front, back, whole, first, -, read⟩ := c.next_cases
  · cases none.symm.trans h
  · cases read.symm.trans h
    have length := congrArg List.length whole
    rw [length_rest, List.length_append] at length
    have := List.length_pos_iff.2 first
    refine ⟨rfl, ?_, ?_⟩
    · simp only [skip]
      omega
    · simp only [Within, skip]
      omega

theorem next_of_rest_nil (h : c.rest = []) : c.next = (none, c) := by
  obtain ⟨-, none⟩ | ⟨_, front, back, whole, first, -⟩ := c.next_cases
  · exact none
  · rw [h, eq_comm, List.append_eq_nil_iff] at whole
    exact absurd whole.1 first

theorem next_eq_none_iff : c.next.1 = none ↔ c.rest = [] := by
  refine ⟨fun h => ?_, fun h => by rw [next_of_rest_nil h]⟩
  obtain ⟨last, -⟩ | ⟨_, _, _, _, _, _, read⟩ := c.next_cases
  · exact last
  · rw [read] at h
    cases h

theorem Within.next (h : c.Within) : c.next.2.input = c.input ∧ c.next.2.Within := by
  obtain ⟨-, none⟩ | ⟨_, _, _, _, _, _, read⟩ := c.next_cases
  · rw [none]
    exact ⟨rfl, h⟩
  · obtain ⟨input, -, within⟩ := next_advances read
    rw [read]
    exact ⟨input, within⟩

theorem Within.calls (h : c.Within) (count : Nat) :
    (c.calls count).2.input = c.input ∧ (c.calls count).2.Within := by
  induction count generalizing c with
  | zero => exact ⟨rfl, h⟩
  | succ count ih =>
      obtain ⟨input, within⟩ := h.next
      obtain ⟨later, inside⟩ := ih within
      exact ⟨later.trans input, inside⟩

theorem calls_of_next_none (h : c.next.1 = none) (count : Nat) :
    c.calls count = (List.replicate count none, c) := by
  have last := next_of_rest_nil (next_eq_none_iff.1 h)
  induction count with
  | zero => rfl
  | succ count ih => simp only [calls, last, ih, List.replicate_succ]

/-! ## The tokens that are given out -/

/-- All tokens up to the end of the text. -/
def tokens (c : Cursor) : List Token :=
  match _h : c.next with
  | (none, _) => []
  | (some t, d) => t :: tokens d
termination_by c.input.size - c.position
decreasing_by
  obtain ⟨input, further, within⟩ := next_advances _h
  rw [Within] at within
  rw [input] at within ⊢
  omega

theorem tokens_eq (c : Cursor) : c.tokens = Lexer.tokens c.rest := by
  fun_induction tokens c with
  | case1 c d read =>
      rw [next_eq_none_iff.1 (congrArg Prod.fst read), tokens_nil]
  | case2 c t d read ih =>
      obtain ⟨-, none⟩ | ⟨t, front, back, whole, -, found, moved⟩ := c.next_cases
      · cases none.symm.trans read
      · cases moved.symm.trans read
        rw [ih, rest_skip_of_append whole, tokens_of_next? found]

theorem length_tokens_le (c : Cursor) : c.tokens.length ≤ c.input.size - c.position := by
  fun_induction tokens c with
  | case1 => exact Nat.zero_le _
  | case2 c t d read ih =>
      obtain ⟨input, further, within⟩ := next_advances read
      rw [Within] at within
      rw [input] at within ih
      rw [List.length_cons]
      omega

theorem calls_eq_steps (count : Nat) (c : Cursor) :
    ((c.calls count).1, (c.calls count).2.rest) = steps count c.rest := by
  induction count generalizing c with
  | zero => rfl
  | succ count ih =>
      obtain ⟨last, none⟩ | ⟨t, front, back, whole, -, found, moved⟩ := c.next_cases
      · have later := ih c
        rw [last] at later
        simp only [calls, none, steps, last, next?, ← later]
      · have later := ih (c.skip front.length)
        rw [rest_skip_of_append whole] at later
        simp only [calls, moved, steps, found, ← later]

theorem tokens_of_next {t : Token} {d : Cursor} (h : c.next = (some t, d)) :
    c.tokens = t :: d.tokens := by
  rw [tokens]
  split
  · next none => cases none.symm.trans h
  · next found =>
      cases found.symm.trans h
      rfl

theorem tokens_of_next_none (h : c.next.1 = none) : c.tokens = [] := by
  rw [tokens_eq, next_eq_none_iff.1 h, tokens_nil]

theorem calls_length_tokens (c : Cursor) :
    (c.calls c.tokens.length).1 = c.tokens.map some ∧
      (c.calls c.tokens.length).2.next.1 = none := by
  fun_induction tokens c with
  | case1 c d read => exact ⟨rfl, congrArg Prod.fst read⟩
  | case2 c t d read ih =>
      simp only [List.length_cons, calls, read, List.map_cons]
      exact ⟨congrArg _ ih.1, ih.2⟩

theorem tokens_resume (count : Nat) (c : Cursor) :
    c.tokens = (c.calls count).1.filterMap id ++ (c.calls count).2.tokens := by
  induction count generalizing c with
  | zero => rfl
  | succ count ih =>
      cases read : c.next with
      | mk answer d =>
          have later := ih d
          cases answer with
          | none =>
              have last := congrArg Prod.fst read
              rw [calls_of_next_none last, tokens_of_next_none last]
              simp
          | some t =>
              rw [tokens_of_next read, later]
              simp [calls, read]

theorem next_text {u : String} (h : c.next.1 = some (.text u)) :
    u ≠ "" ∧ ∀ v, c.next.2.next.1 ≠ some (.text v) := by
  obtain ⟨-, none⟩ | ⟨t, front, back, whole, -, found, read⟩ := c.next_cases
  · rw [none] at h
    cases h
  · rw [read] at h ⊢
    cases h
    obtain ⟨filled, parted⟩ := next?_text found
    refine ⟨filled, fun v more => ?_⟩
    obtain ⟨-, none⟩ | ⟨t, _, after, _, _, found', read'⟩ := (c.skip front.length).next_cases
    · rw [none] at more
      cases more
    · rw [read'] at more
      cases more
      rw [rest_skip_of_append whole] at found'
      exact parted v after found'

/-- However often a cursor has been asked for tokens, its position is in the text or at its end.
    There is a token exactly if it is not at the end, and then the next position is further on, also
    if the cursor goes back to a `$`. No text that is given out is empty, and no two follow each
    other. When there is no token left, there never is one again. All tokens that are left, at most
    one for every character, are given out by as many calls, and the next call gives out none. With
    those that were given out before they are the tokens of the text. The lexer that keeps nothing
    but the rest of the text does the same. -/
theorem calls_advance_and_resume {s : String} {count : Nat} {answers : List (Option Token)}
    {c : Cursor} (h : (ofText s).calls count = (answers, c)) :
    (c.position ≤ s.length ∧ (c.next.1.isSome = true ↔ c.position < s.length) ∧
      (c.next.1.isSome = true → c.position < c.next.2.position)) ∧
    (∀ u, c.next.1 = some (.text u) → u ≠ "" ∧ ∀ v, c.next.2.next.1 ≠ some (.text v)) ∧
    (c.next.1 = none → ∀ more, c.calls more = (List.replicate more none, c)) ∧
    (c.position + c.tokens.length ≤ s.length ∧ (c.calls c.tokens.length).1 = c.tokens.map some ∧
      (c.calls c.tokens.length).2.next.1 = none) ∧
    ((ofText s).tokens = answers.filterMap id ++ c.tokens ∧ (ofText s).tokens.length ≤ s.length) ∧
    steps count s.toList = (answers, c.rest) ∧ c.tokens = Lexer.tokens c.rest ∧
    (ofText s).tokens = (Fragment.ofText s).tokens := by
  have front : (ofText s).rest = s.toList := by simp [ofText, rest]
  have size : (ofText s).input.size = s.length := by simp [ofText, String.length_toList]
  have inside : (ofText s).Within := Nat.zero_le _
  have whole := (ofText s).tokens_resume count
  have stepped := calls_eq_steps count (ofText s)
  obtain ⟨input, within⟩ := inside.calls count
  simp only [h] at whole stepped input within
  rw [Within, input, size] at within
  have more : c.next.1.isSome = true ↔ c.position < s.length := by
    rw [Option.isSome_iff_ne_none, ne_eq, next_eq_none_iff, rest_eq_nil_iff, input, size,
      Nat.not_le]
  refine ⟨⟨within, more, fun answered => ?_⟩, fun u => next_text, calls_of_next_none,
    ⟨?_, c.calls_length_tokens⟩, ⟨whole, ?_⟩, ?_, c.tokens_eq, ?_⟩
  · obtain ⟨t, answer⟩ := Option.isSome_iff_exists.1 answered
    exact (next_advances (Prod.ext answer rfl)).2.1
  · have left := c.length_tokens_le
    rw [input, size] at left
    omega
  · have left := (ofText s).length_tokens_le
    rwa [size] at left
  · rw [← front, ← stepped]
  · rw [tokens_eq, front]
    rfl

/-- Digits that are too many, and directly behind them a placeholder to go back to, which is read
    once more by the next call. The rest is a literal that is not closed. -/
theorem calls_advance_and_resume_going_back :
    ∃ (s : String) (c : Cursor), s = "$99999999999999999999$7'$8" ∧
      (ofText s).calls 1 = ([some (.text "$99999999999999999999")], c) ∧ c.position = 21 ∧
      c.next.1 = some (.placeholder 7) ∧ c.position < c.next.2.position ∧
      (∀ v, c.next.1 ≠ some (.text v)) ∧
      (ofText s).tokens = .text "$99999999999999999999" :: c.tokens := by
  let s := "$99999999999999999999$7'$8"
  have first : ((ofText s).calls 1).1 = [some (.text "$99999999999999999999")] := by decide +kernel
  have second : ((ofText s).calls 1).2.next.1 = some (.placeholder 7) := by decide +kernel
  have called : (ofText s).calls 1 = (_, ((ofText s).calls 1).2) := Prod.ext first rfl
  obtain ⟨-, texts, -⟩ := calls_advance_and_resume (rfl : (ofText s).calls 0 = ([], ofText s))
  obtain ⟨⟨-, -, further⟩, -, -, -, ⟨resumed, -⟩, -⟩ := calls_advance_and_resume called
  refine ⟨s, _, rfl, called, by decide +kernel, second, further ?_, ?_, resumed⟩
  · rw [second]
    rfl
  · exact (texts "$99999999999999999999" (List.cons.inj first).1).2

end Cursor

end FilterQuery.Lexer
