import FilterQuery.Proofs.Fragment.Reading
import FilterQuery.Proofs.Json.Grammar

/-! # Reading strings and numbers

The readers of strings and of numbers read what the grammar says, up to where it ends, and nothing
is read in two ways.
-/

namespace FilterQuery.Json

/-! ## Strings -/

theorem hexValue?_of_mem {c : Char} {n : Nat} (h : (c, n) ∈ hexDigits) :
    hexValue? c = some n := by
  have all : ∀ d ∈ hexDigits, hexValue? d.1 = some d.2 := by decide
  exact all _ h

theorem length_le_byteLength (s : List Char) : s.length ≤ byteLength s := by
  induction s with
  | nil => exact Nat.le_refl 0
  | cons c rest ih =>
      have := c.utf8Size_pos
      simp only [List.length_cons, byteLength]
      omega

theorem Hex.readHex_append {n : Nat} {digits : List Char} (h : Hex n digits) (s : List Char) :
    readHex (digits ++ s) = .ok (n, s) := by
  cases h with
  | digits ha hb hc hd =>
      rename_i a b c d i j k l
      have enough := length_le_byteLength [a, b, c, d]
      have enough' : ¬ byteLength [a, b, c, d] < 4 := by simpa using enough
      simp [readHex, enough', hexValue?_of_mem ha, hexValue?_of_mem hb, hexValue?_of_mem hc,
        hexValue?_of_mem hd]

theorem unescapeLetter?_of_mem {letter c : Char} (h : (letter, c) ∈ escapes) :
    unescapeLetter? letter = some c ∧ letter ≠ 'u' := by
  have all : ∀ e ∈ escapes, unescapeLetter? e.1 = some e.2 ∧ e.1 ≠ 'u' := by decide
  exact all _ h

/-- A character is no half of a surrogate pair. -/
theorem toNat_cases (c : Char) : c.toNat < 0xD800 ∨ 0xDFFF < c.toNat ∧ c.toNat < 0x110000 :=
  c.valid

theorem EscapeText.readEscape_append {c : Char} {t : List Char} (h : EscapeText c t)
    (s : List Char) : readEscape (t ++ s) = .ok (c, s) := by
  have range := toNat_cases c
  cases h with
  | letter stands =>
      obtain ⟨stands, no_unit⟩ := unescapeLetter?_of_mem stands
      rw [List.singleton_append, readEscape, stands]
      exact no_unit
  | unit digits =>
      have below : ¬ (0xDC00 ≤ c.toNat ∧ c.toNat ≤ 0xDFFF) := by omega
      have above : ¬ (0xD800 ≤ c.toNat ∧ c.toNat ≤ 0xDBFF) := by omega
      simp only [List.cons_append, readEscape, digits.readHex_append, below, above, if_false,
        Char.ofNat_toNat]
  | pair large high low =>
      have not_low : ¬ (0xDC00 ≤ 0xD800 + (c.toNat - 0x10000) / 0x400 ∧
          0xD800 + (c.toNat - 0x10000) / 0x400 ≤ 0xDFFF) := by omega
      have is_high : 0xD800 ≤ 0xD800 + (c.toNat - 0x10000) / 0x400 ∧
          0xD800 + (c.toNat - 0x10000) / 0x400 ≤ 0xDBFF := by omega
      have is_low : 0xDC00 ≤ 0xDC00 + (c.toNat - 0x10000) % 0x400 ∧
          0xDC00 + (c.toNat - 0x10000) % 0x400 ≤ 0xDFFF := by omega
      have whole : (0xD800 + (c.toNat - 0x10000) / 0x400 - 0xD800) * 0x400
          + (0xDC00 + (c.toNat - 0x10000) % 0x400 - 0xDC00) + 0x10000 = c.toNat := by omega
      simp only [List.cons_append, List.append_assoc, readEscape, high.readHex_append, not_low,
        if_false, if_pos is_high, readLowSurrogate, low.readHex_append, if_pos is_low, whole,
        Char.ofNat_toNat]

theorem CharText.readString_append {c : Char} {t : List Char} (h : CharText c t)
    (s : List Char) : readString (t ++ s) = (readString s).map fun r => (c :: r.1, r.2) := by
  cases h with
  | plain quote backslash printable =>
      rw [List.singleton_append, readString]
      · rw [if_neg (Nat.not_lt.2 printable)]
        cases readString s <;> rfl
      · exact quote
      · exact backslash
  | escape text =>
      rw [List.cons_append, readString]
      split
      · rename_i problem
        rw [text.readEscape_append] at problem
        cases problem
      · rename_i read
        rw [text.readEscape_append] at read
        cases read
        cases readString s <;> rfl

theorem StringText.readString_eq {content s r : List Char} (h : StringText content s r) :
    readString s = .ok (content, r) := by
  induction h with
  | close => rw [readString]
  | char text _ ih => rw [text.readString_append, ih]; rfl

theorem skipString_escape {s after : List Char} (h : skipEscape s = .ok after) :
    skipString ('\\' :: s) = skipString after := by
  rw [skipString]
  split
  · rename_i problem
    rw [h] at problem
    cases problem
  · rename_i skipped
    rw [h] at skipped
    cases skipped
    rfl

theorem skipEscape_of_mem {letter c : Char} (h : (letter, c) ∈ escapes) (s : List Char) :
    skipEscape (letter :: s) = .ok s := by
  obtain ⟨stands, no_unit⟩ := unescapeLetter?_of_mem h
  rw [skipEscape, stands]
  · rfl
  · exact no_unit

theorem Hex.skipEscape_append {n : Nat} {digits : List Char} (h : Hex n digits) (s : List Char) :
    skipEscape ('u' :: (digits ++ s)) = .ok s := by
  rw [skipEscape, h.readHex_append]
  rfl

theorem CharText.skipString_append {c : Char} {t : List Char} (h : CharText c t)
    (s : List Char) : skipString (t ++ s) = skipString s := by
  cases h with
  | plain quote backslash printable =>
      rw [List.singleton_append, skipString]
      · rw [if_neg (Nat.not_lt.2 printable)]
      · exact quote
      · exact backslash
  | escape text =>
      cases text with
      | letter stands => exact skipString_escape (skipEscape_of_mem stands s)
      | unit digits => exact skipString_escape (digits.skipEscape_append s)
      | pair _ high low =>
          -- the halves of a pair are skipped apart
          simp only [List.cons_append, List.append_assoc]
          rw [skipString_escape (high.skipEscape_append _),
            skipString_escape (low.skipEscape_append s)]

theorem StringText.skipString_eq {content s r : List Char} (h : StringText content s r) :
    skipString s = .ok r := by
  induction h with
  | close => rw [skipString]
  | char text _ ih => rw [text.skipString_append, ih]

/-! ## Numbers -/

open Lexer (Bounded)

theorem Ended.bounded {s : List Char} (h : Ended s) : Bounded s :=
  fun c first => (h c first).1

/-- Behind the fraction stands neither a digit nor a point. -/
theorem ExponentText.first {exponent : Option (Bool × List Char)} {e r : List Char}
    (h : ExponentText exponent e) (ended : Ended r) :
    ∀ c ∈ (e ++ r).head?, c.isDigit = false ∧ c ≠ '.' := by
  cases h with
  | absent => exact fun c first => ⟨(ended c first).1, (ended c first).2.1⟩
  | present mark _ _ =>
      have apart : ∀ c ∈ ['e', 'E'], c.isDigit = false ∧ c ≠ '.' := by simp
      simpa using apart _ mark

theorem FractionText.bounded {digits f s : List Char} (h : FractionText digits f)
    (bounded : Bounded s) : Bounded (f ++ s) := by
  cases h with
  | absent => exact bounded
  | present _ => simp [Bounded]

namespace Numeral

variable (atEnd : Problem)

theorem readDigits_append {digits s : List Char} (h : DigitRun digits) (bounded : Bounded s) :
    readDigits atEnd (digits ++ s) = .ok (digits, s) := by
  obtain ⟨some, all⟩ := h
  cases digits with
  | nil => exact absurd rfl some
  | cons c rest =>
      obtain ⟨first, later⟩ := List.forall_mem_cons.1 all
      simp [readDigits, first, Lexer.takeWhile_digits later bounded,
        Lexer.dropWhile_digits later bounded]

theorem readFraction_append {digits f s : List Char} (h : FractionText digits f)
    (first : ∀ c ∈ s.head?, c.isDigit = false ∧ c ≠ '.') :
    readFraction atEnd (f ++ s) = .ok (digits, s) := by
  cases h with
  | absent =>
      rw [List.nil_append, readFraction]
      rintro rest rfl
      exact (first '.' rfl).2 rfl
  | present all => exact readDigits_append atEnd all fun c member => (first c member).1

theorem splitSign_append {negative : Bool} {sign digits s : List Char}
    (h : (negative, sign) ∈ exponentSigns) (all : DigitRun digits) :
    splitSign (sign ++ (digits ++ s)) = (negative, digits ++ s) := by
  obtain ⟨some, all⟩ := all
  cases digits with
  | nil => exact absurd rfl some
  | cons c rest =>
      have digit := all c List.mem_cons_self
      simp only [exponentSigns, List.mem_cons, Prod.mk.injEq, List.not_mem_nil, or_false] at h
      obtain ⟨rfl, rfl⟩ | ⟨rfl, rfl⟩ | ⟨rfl, rfl⟩ := h
      · rw [List.nil_append, splitSign]
        · rintro _ same
          cases same
          cases digit
        · rintro _ same
          cases same
          cases digit
      · rfl
      · rfl

theorem readExponent_append {exponent : Option (Bool × List Char)} {e r : List Char}
    (h : ExponentText exponent e) (ended : Ended r) :
    readExponent atEnd (e ++ r) = .ok (exponent, r) := by
  cases h with
  | absent =>
      cases r with
      | nil => rfl
      | cons c rest =>
          obtain ⟨-, -, lower, upper⟩ := ended c rfl
          simp [readExponent, lower, upper]
  | present mark signed all =>
      simp only [List.mem_cons, List.not_mem_nil, or_false] at mark
      simp only [List.cons_append, List.append_assoc, readExponent, if_pos mark,
        splitSign_append signed all, readDigits_append atEnd all ended.bounded]

end Numeral

theorem NumeralText.read_append {n : Numeral} {t r : List Char} (h : NumeralText n t)
    (ended : Ended r) (atEnd : Problem) : Numeral.read atEnd (t ++ r) = .ok (n, r) := by
  cases h with
  | parts whole alone fraction exponent =>
      rename_i negative digits places power f e
      have behind := exponent.first ended
      have bounded : Bounded (f ++ (e ++ r)) := fraction.bounded fun c first => (behind c first).1
      have zero : ¬ (digits.head? = some '0' ∧ digits ≠ ['0']) := fun h => h.2 (alone h.1)
      cases negative with
      | true =>
          simp only [if_true, List.cons_append, List.nil_append, List.append_assoc,
            Numeral.read, Numeral.readDigits_append atEnd whole bounded, if_neg zero,
            Numeral.readFraction_append atEnd fraction behind,
            Numeral.readExponent_append atEnd exponent ended]
      | false =>
          obtain ⟨d, more, rfl⟩ := List.exists_cons_of_ne_nil whole.1
          have no_minus : d ≠ '-' := by
            rintro rfl
            cases whole.2 '-' List.mem_cons_self
          simp only [Bool.false_eq_true, if_false, List.nil_append, List.append_assoc]
          unfold Numeral.read
          split
          rename_i signed
          split at signed
          · rename_i minus
            cases minus
            exact absurd rfl no_minus
          · cases signed
            simp only [Numeral.readDigits_append atEnd whole bounded, if_neg zero,
              Numeral.readFraction_append atEnd fraction behind,
              Numeral.readExponent_append atEnd exponent ended]

end FilterQuery.Json
