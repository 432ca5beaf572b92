import Mathlib.Data.List.Chain
import FilterQuery.Proofs.Fragment.Renumbered

/-! # Token lists that are read back

Any list of tokens can be written as text. Reading the text gives the same tokens unless something
in it is lost or gets another meaning: texts that are empty or next to each other, digits that join
the number in front of them, numbers inside a text, placeholders that come to stand in a literal.
Nothing else can go wrong, and no text is read as such a list.
-/

namespace FilterQuery

namespace Lexer

/-! ## Stretches of text -/

/-- A text without placeholders that ends where `back` begins: at the very end, or at a placeholder
    outside the literals. -/
structure Stretch (front back : List Char) : Prop where
  unnumbered : Unnumbered front
  ends : back = [] ∨ Closed front ∧ ∃ found, placeholder? back = some found

variable {front back : List Char}

theorem bounded_of_placeholder? {s : List Char} {found : UInt64 × List Char}
    (h : placeholder? s = some found) : Bounded s := by
  obtain ⟨digits, rfl, -⟩ := eq_of_placeholder? h
  rintro c ⟨⟩
  rfl

theorem Stretch.bounded (h : Stretch front back) : Bounded back := by
  rcases h.ends with rfl | ⟨-, found, start⟩
  · nofun
  · exact bounded_of_placeholder? start

/-- Where a number is spelled outside the literals, it is read. -/
theorem unnumbered_iff {s : List Char} : Unnumbered s ↔ indices s = [] := by
  refine ⟨Unnumbered.indices_eq_nil, ?_⟩
  rintro none inner digits rest rfl closed some only bounded
  by_contra small
  have value : Text.decimalValue digits = (UInt64.ofNat (Text.decimalValue digits)).toNat := by
    rw [UInt64.toNat_ofNat']
    exact (Nat.mod_eq_of_lt (Nat.lt_of_le_pred (by decide) (Nat.le_of_not_lt small))).symm
  have found := placeholder?_digits only some value bounded
  rw [indices_append closed (bounded_of_placeholder? found), indices_placeholder found] at none
  simp at none

theorem unnumbered_nil : Unnumbered [] :=
  unnumbered_iff.2 indices_nil

theorem unnumbered_quoted {quote : Char} (h : isQuote quote = true) (rest : List Char) :
    Unnumbered (quote :: rest) ↔ Unnumbered (splitQuoted quote rest).2 := by
  rw [unnumbered_iff, indices_quoted h, unnumbered_iff]

theorem unnumbered_plain {c : Char} {rest : List Char} (h : placeholder? (c :: rest) = none)
    (plain : isQuote c = false) : Unnumbered (c :: rest) ↔ Unnumbered rest := by
  rw [unnumbered_iff, indices_plain h plain, unnumbered_iff]

theorem stretch_splitText (s : List Char) : Stretch (splitText s).1 (splitText s).2 := by
  induction s using reading with
  | nil =>
      rw [splitText_nil]
      exact ⟨unnumbered_nil, .inl rfl⟩
  | placeholder found _ =>
      rw [splitText_placeholder found]
      exact ⟨unnumbered_nil, .inr ⟨rfl, _, found⟩⟩
  | @quoted quote rest sign ih =>
      rw [splitText_quoted sign]
      rcases literal_or_unclosed quote rest with literal | ⟨nothing, -⟩
      · have whole := literal.splitQuoted_append (ne_backslash_of_isQuote sign)
          (splitText (splitQuoted quote rest).2).1
        refine ⟨?_, ih.ends.imp_right fun ⟨closed, start⟩ => ⟨?_, start⟩⟩
        · rw [List.cons_append, unnumbered_quoted sign, whole]
          exact ih.unnumbered
        · exact (literal.closed sign).append closed
      · -- the literal reaches to the end of the text
        have whole := splitQuoted_append quote rest
        rw [nothing, List.append_nil] at whole
        rw [nothing, splitText_nil, List.append_nil, whole]
        refine ⟨?_, .inl rfl⟩
        rw [unnumbered_quoted sign, nothing]
        exact unnumbered_nil
  | @plain c rest none plain ih =>
      have shorter := placeholder?_append (List.cons_ne_nil c (splitText rest).1) ih.bounded
      rw [List.cons_append, splitText_append, none, eq_comm, Option.map_eq_none_iff] at shorter
      rw [splitText_plain none plain]
      refine ⟨(unnumbered_plain shorter plain).2 ih.unnumbered, ?_⟩
      exact ih.ends.imp_right fun ⟨closed, start⟩ => ⟨(closed_cons plain).2 closed, start⟩

theorem Stretch.splitText_append (h : Stretch front back) :
    splitText (front ++ back) = (front, back) := by
  induction front using reading with
  | nil =>
      rcases h.ends with rfl | ⟨-, found, start⟩
      · exact splitText_nil
      · exact splitText_placeholder start
  | placeholder found _ =>
      have none := h.unnumbered.indices_eq_nil
      rw [indices_placeholder found] at none
      cases none
  | @quoted quote rest sign ih =>
      have inner := (unnumbered_quoted sign rest).1 h.unnumbered
      rw [List.cons_append, splitText_quoted sign]
      rcases h.ends with rfl | ⟨closed, start⟩
      · have later := ih ⟨inner, .inl rfl⟩
        rw [List.append_nil] at later
        simp only [List.append_nil, later, List.cons_append, splitQuoted_append]
      · obtain ⟨literal, closed⟩ := closed.of_quoted sign
        have later := ih ⟨inner, .inr ⟨closed, start⟩⟩
        rw [literal.splitQuoted_of_split (ne_backslash_of_isQuote sign)]
        simp only [later, List.cons_append, splitQuoted_append]
  | @plain c rest none plain ih =>
      have longer := placeholder?_append (List.cons_ne_nil c rest) h.bounded
      rw [none, Option.map_none, List.cons_append] at longer
      have inner : Stretch rest back := by
        refine ⟨(unnumbered_plain none plain).1 h.unnumbered, ?_⟩
        exact h.ends.imp_right fun ⟨closed, start⟩ => ⟨(closed_cons plain).1 closed, start⟩
      rw [List.cons_append, splitText_plain longer plain, ih inner]

theorem next?_eq_some {s rest : List Char} {t : Token} (h : next? s = some (t, rest)) :
    (∃ n, t = .placeholder n ∧ placeholder? s = some (n, rest)) ∨
      s ≠ [] ∧ placeholder? s = none ∧ t = .text (String.ofList (splitText s).1) ∧
        rest = (splitText s).2 := by
  cases s with
  | nil => cases h
  | cons c tail =>
      cases front : placeholder? (c :: tail) with
      | some found =>
          simp only [next?, front, Option.some.injEq, Prod.mk.injEq] at h
          obtain ⟨rfl, rfl⟩ := h
          exact .inl ⟨_, rfl, rfl⟩
      | none =>
          simp only [next?, front, Option.some.injEq, Prod.mk.injEq] at h
          obtain ⟨rfl, rfl⟩ := h
          exact .inr ⟨List.cons_ne_nil c tail, rfl, rfl, rfl⟩

end Lexer

/-! ## Lists of tokens -/

open Lexer

namespace Token

def isText : Token → Bool
  | text _ => true
  | placeholder _ => false

@[simp] theorem isText_text (s : String) : (text s).isText = true := rfl

@[simp] theorem isText_placeholder (n : UInt64) : (placeholder n).isText = false := rfl

end Token

/-- The token lists that some text has. -/
@[mk_iff]
structure Representable (ts : List Token) : Prop where
  /-- No text is empty. -/
  filled : ∀ s, .text s ∈ ts → s ≠ ""
  /-- No two texts are next to each other. -/
  parted : ts.IsChain fun a b => a.isText = false ∨ b.isText = false
  /-- A text directly behind a placeholder does not begin with a digit. -/
  bounded : ts.IsChain fun a b => a.isText = false → ∀ s, b = .text s → Bounded s.toList
  /-- No text spells a placeholder outside its literals. -/
  unnumbered : ∀ s, .text s ∈ ts → Unnumbered s.toList
  /-- A text that is not the last token closes its literals. -/
  closed : ∀ s, .text s ∈ ts.dropLast → Closed s.toList

theorem representable_nil : Representable [] := by
  simp [representable_iff]

theorem representable_text {s : String} {ts : List Token} :
    Representable (.text s :: ts) ↔
      (s ≠ "" ∧ Unnumbered s.toList ∧
        (ts = [] ∨ Closed s.toList ∧ ∃ n rest, ts = .placeholder n :: rest)) ∧
      Representable ts := by
  cases ts with
  | nil => simp [representable_iff]
  | cons t rest =>
      cases t with
      | text u => simp [representable_iff]
      | placeholder n =>
          simp [representable_iff]
          tauto

theorem representable_placeholder {n : UInt64} {ts : List Token} :
    Representable (.placeholder n :: ts) ↔
      (∀ s rest, ts = .text s :: rest → Bounded s.toList) ∧ Representable ts := by
  cases ts with
  | nil => simp [representable_iff]
  | cons t rest =>
      cases t with
      | text u =>
          simp [representable_iff]
          tauto
      | placeholder m => simp [representable_iff]

namespace Lexer

/-- The text that is written for a list of tokens. -/
def spelled (ts : List Token) : List Char :=
  ts.flatMap fun t => t.toText.toList

theorem spelled_text (s : String) (ts : List Token) :
    spelled (.text s :: ts) = s.toList ++ spelled ts := by
  simp [spelled, Token.toText]

theorem spelled_placeholder (n : UInt64) (ts : List Token) :
    spelled (.placeholder n :: ts) = '$' :: (Nat.toDigits 10 n.toNat ++ spelled ts) := by
  simp [spelled, Token.toText]

theorem bounded_spelled {n : UInt64} {ts : List Token} (h : Representable (.placeholder n :: ts)) :
    Bounded (spelled ts) := by
  obtain ⟨behind, inner⟩ := representable_placeholder.1 h
  cases ts with
  | nil => nofun
  | cons t rest =>
      cases t with
      | text s =>
          have some : s.toList ≠ [] := by simpa using inner.filled s List.mem_cons_self
          rw [spelled_text, bounded_append_iff some]
          exact behind s rest rfl
      | placeholder m =>
          rw [spelled_placeholder]
          rintro c ⟨⟩
          rfl

/-- What is written for a text and its successors is a stretch in front of the rest. -/
theorem stretch_spelled {s : String} {ts : List Token} (h : Representable (.text s :: ts)) :
    Stretch s.toList (spelled ts) := by
  obtain ⟨⟨-, unnumbered, ends⟩, inner⟩ := representable_text.1 h
  refine ⟨unnumbered, ?_⟩
  rcases ends with rfl | ⟨closed, n, rest, rfl⟩
  · exact .inl rfl
  · rw [spelled_placeholder]
    exact .inr ⟨closed, _, placeholder?_numeral n (bounded_spelled inner)⟩

theorem tokens_spelled {ts : List Token} (h : Representable ts) : tokens (spelled ts) = ts := by
  induction ts with
  | nil => exact tokens_nil
  | cons t rest ih =>
      cases t with
      | text s =>
          obtain ⟨⟨filled, -⟩, inner⟩ := representable_text.1 h
          have some : s.toList ≠ [] := by simpa using filled
          have split := (stretch_spelled h).splitText_append
          have none : placeholder? (s.toList ++ spelled rest) = none := by
            cases found : placeholder? (s.toList ++ spelled rest) with
            | none => rfl
            | some number =>
                rw [splitText_placeholder found] at split
                exact absurd (Prod.ext_iff.1 split).1.symm some
          rw [spelled_text, tokens_text (List.append_ne_nil_of_left_ne_nil some _) none, split,
            ih inner, String.ofList_toList]
      | placeholder n =>
          obtain ⟨-, inner⟩ := representable_placeholder.1 h
          rw [spelled_placeholder, tokens_placeholder (placeholder?_numeral n (bounded_spelled h)),
            ih inner]

theorem toList_of_tokens {s : List Char} {u : String} {rest : List Token}
    (h : tokens s = .text u :: rest) : u.toList = (splitText s).1 := by
  cases s with
  | nil =>
      rw [tokens_nil] at h
      cases h
  | cons c tail =>
      cases front : placeholder? (c :: tail) with
      | some found =>
          rw [tokens_placeholder front] at h
          cases h
      | none =>
          rw [tokens_text (List.cons_ne_nil c tail) front] at h
          obtain ⟨first, -⟩ := List.cons.inj h
          rw [← Token.text.inj first, String.toList_ofList]

theorem representable_tokens (s : List Char) : Representable (tokens s) := by
  fun_induction tokens s with
  | case1 => exact representable_nil
  | case2 s t rest read _ ih =>
      rcases next?_eq_some read with ⟨n, rfl, found⟩ | ⟨some, none, rfl, rfl⟩
      · refine representable_placeholder.2 ⟨fun u more first => ?_, ih⟩
        obtain ⟨_, _, _, _, bounded, _⟩ := eq_of_placeholder? found
        have start := toList_of_tokens first
        by_cases empty : u.toList = []
        · rw [empty]
          nofun
        · rw [← splitText_append rest, ← start, bounded_append_iff empty] at bounded
          exact bounded
      · have stretch := stretch_splitText s
        refine representable_text.2 ⟨⟨?_, ?_, ?_⟩, ih⟩
        · simpa using splitText_ne_nil some none
        · simpa using stretch.unnumbered
        · rcases stretch.ends with last | ⟨closed, found, start⟩
          · rw [last, tokens_nil]
            exact .inl rfl
          · rw [tokens_placeholder start, String.toList_ofList]
            exact .inr ⟨closed, _, _, rfl⟩

end Lexer

namespace Fragment

theorem toList_toText (ts : List Token) : (Fragment.mk ts).toText.toList = Lexer.spelled ts := by
  simp [toText, Lexer.spelled, String.toList_join, List.flatMap_map]

/-- A list of tokens that is written and read again comes back unchanged exactly if no text in it
    is empty, follows another text, follows a placeholder with a digit, spells a placeholder
    outside its literals, or leaves a literal open in front of other tokens. The lists that do are
    those that some text is read as. -/
theorem ofText_toText_eq_iff_representable (ts : List Token) :
    (ofText ((Fragment.mk ts).shift 0).toText = ⟨ts⟩ ↔ Representable ts) ∧
    ((∃ s, (ofText s).tokens = ts) ↔ Representable ts) := by
  have back : Representable ts → ofText (Fragment.mk ts).toText = ⟨ts⟩ := fun h => by
    rw [ofText, toList_toText, Lexer.tokens_spelled h]
  refine ⟨⟨fun same => ?_, fun h => ?_⟩, ⟨?_, fun h => ?_⟩⟩
  · have image := Lexer.representable_tokens ((Fragment.mk ts).shift 0).toText.toList
    rwa [show Lexer.tokens _ = ts from congrArg Fragment.tokens same] at image
  · rw [shift_zero]
    exact back h
  · rintro ⟨s, rfl⟩
    exact Lexer.representable_tokens s.toList
  · exact ⟨_, congrArg Fragment.tokens (back h)⟩

end Fragment

end FilterQuery
