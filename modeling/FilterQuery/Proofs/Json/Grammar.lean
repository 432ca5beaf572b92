import FilterQuery.Json.Lexical
import FilterQuery.Json.Numeral

/-! # The grammar of JSON text

What JSON text says, told by its grammar and not by a reader of it. A part of a text is what stands
between two positions, and a position is what is left of the text from there on. The same value has
many texts: blanks may stand around it, and a string may write any of its characters as an escape.
-/

namespace FilterQuery.Json

/-- The value that a text says. Numbers keep the parts they are written in. -/
inductive Tree where
  | null
  | boolean (b : Bool)
  | number (n : Numeral)
  | string (content : List Char)
  | array (items : List Tree)
  | object (members : List (List Char × Tree))

/-! ## Blanks and strings -/

def blanks : List Char :=
  [' ', '\t', '\n', '\r']

/-- From the first position to the second there are only blanks. -/
inductive Blanks : List Char → List Char → Prop where
  | none {s} : Blanks s s
  | more {c s r} : c ∈ blanks → Blanks s r → Blanks (c :: s) r

/-- The letters that stand for a character behind a backslash. -/
def escapes : List (Char × Char) :=
  [('"', '"'), ('\\', '\\'), ('/', '/'), ('b', '\x08'), ('f', '\x0c'), ('n', '\n'), ('r', '\r'),
    ('t', '\t')]

def hexDigits : List (Char × Nat) :=
  "0123456789abcdef".toList.zipIdx ++ "ABCDEF".toList.zipIdx 10

/-- Four hexadecimal digits of either case. -/
inductive Hex : Nat → List Char → Prop where
  | digits {a b c d : Char} {i j k l : Nat} : (a, i) ∈ hexDigits → (b, j) ∈ hexDigits →
      (c, k) ∈ hexDigits → (d, l) ∈ hexDigits → Hex (((i * 16 + j) * 16 + k) * 16 + l) [a, b, c, d]

/-- What stands behind a backslash. A character of more than sixteen bits takes two escapes, the
    halves of a surrogate pair. -/
inductive EscapeText : Char → List Char → Prop where
  | letter {letter c} : (letter, c) ∈ escapes → EscapeText c [letter]
  | unit {c digits} : Hex c.toNat digits → EscapeText c ('u' :: digits)
  | pair {c high low} : 0x10000 ≤ c.toNat →
      Hex (0xD800 + (c.toNat - 0x10000) / 0x400) high →
      Hex (0xDC00 + (c.toNat - 0x10000) % 0x400) low →
      EscapeText c ('u' :: (high ++ '\\' :: 'u' :: low))

/-- The texts of one character inside a string. -/
inductive CharText : Char → List Char → Prop where
  | plain {c} : c ≠ '"' → c ≠ '\\' → 32 ≤ c.toNat → CharText c [c]
  | escape {c t} : EscapeText c t → CharText c ('\\' :: t)

/-- A string from behind its opening quote to behind its closing one. -/
inductive StringText : List Char → List Char → List Char → Prop where
  | close {r} : StringText [] ('"' :: r) r
  | char {c t content s r} : CharText c t → StringText content s r →
      StringText (c :: content) (t ++ s) r

def DigitRun (s : List Char) : Prop :=
  s ≠ [] ∧ ∀ c ∈ s, c.isDigit = true

inductive FractionText : List Char → List Char → Prop where
  | absent : FractionText [] []
  | present {digits} : DigitRun digits → FractionText digits ('.' :: digits)

/-- The ways of writing the sign of an exponent. -/
def exponentSigns : List (Bool × List Char) :=
  [(false, []), (false, ['+']), (true, ['-'])]

inductive ExponentText : Option (Bool × List Char) → List Char → Prop where
  | absent : ExponentText none []
  | present {mark negative sign digits} : mark ∈ ['e', 'E'] → (negative, sign) ∈ exponentSigns →
      DigitRun digits → ExponentText (some (negative, digits)) (mark :: (sign ++ digits))

/-- A zero in front stands alone in front of the point. -/
inductive NumeralText : Numeral → List Char → Prop where
  | parts {negative whole fraction exponent f e} : DigitRun whole →
      (whole.head? = some '0' → whole = ['0']) → FractionText fraction f →
      ExponentText exponent e →
      NumeralText { negative, whole, fraction, exponent }
        ((if negative then ['-'] else []) ++ (whole ++ (f ++ e)))

/-! ## Values -/

/-- The key of a member, up to behind its colon. -/
inductive Key : List Char → List Char → List Char → Prop where
  | quoted {key s₁ s₂ s₃ r} : Blanks s₁ ('"' :: s₂) → StringText key s₂ s₃ → Blanks s₃ (':' :: r) →
      Key key s₁ r

/-- What a part of a text can be. -/
inductive Form where
  | value (t : Tree)
  /-- A value with blanks around it. -/
  | padded (t : Tree)
  /-- What stands between the brackets of an array. -/
  | items (ts : List Tree)
  /-- What stands between the braces of an object. -/
  | members (ms : List (List Char × Tree))

inductive Reads : Form → List Char → List Char → Prop where
  | nullWord {r} : Reads (.value .null) ('n' :: 'u' :: 'l' :: 'l' :: r) r
  | trueWord {r} : Reads (.value (.boolean true)) ('t' :: 'r' :: 'u' :: 'e' :: r) r
  | falseWord {r} : Reads (.value (.boolean false)) ('f' :: 'a' :: 'l' :: 's' :: 'e' :: r) r
  | number {n t r} : NumeralText n t → Reads (.value (.number n)) (t ++ r) r
  | string {content s r} : StringText content s r → Reads (.value (.string content)) ('"' :: s) r
  | array {ts s r} : Reads (.items ts) s (']' :: r) → Reads (.value (.array ts)) ('[' :: s) r
  | object {ms s r} : Reads (.members ms) s ('\x7d' :: r) →
      Reads (.value (.object ms)) ('\x7b' :: s) r
  | padded {t s₁ s₂ s₃ r} : Blanks s₁ s₂ → Reads (.value t) s₂ s₃ → Blanks s₃ r →
      Reads (.padded t) s₁ r
  | noItems {s r} : Blanks s r → Reads (.items []) s r
  | lastItem {t s r} : Reads (.padded t) s r → Reads (.items [t]) s r
  | item {t u ts s₁ s₂ r} : Reads (.padded t) s₁ (',' :: s₂) → Reads (.items (u :: ts)) s₂ r →
      Reads (.items (t :: u :: ts)) s₁ r
  | noMembers {s r} : Blanks s r → Reads (.members []) s r
  | lastMember {key t s₁ s₂ r} : Key key s₁ s₂ → Reads (.padded t) s₂ r →
      Reads (.members [(key, t)]) s₁ r
  | member {key t m ms s₁ s₂ s₃ r} : Key key s₁ s₂ → Reads (.padded t) s₂ (',' :: s₃) →
      Reads (.members (m :: ms)) s₃ r → Reads (.members ((key, t) :: m :: ms)) s₁ r

/-- The text says the value, and nothing else. -/
def Says (text : String) (t : Tree) : Prop :=
  Reads (.padded t) text.toList []

theorem Reads.unpadded {t : Tree} {s r : List Char} (h : Reads (.padded t) s r) :
    ∃ s' r', Blanks s s' ∧ Reads (.value t) s' r' ∧ Blanks r' r := by
  cases h with
  | padded front value behind => exact ⟨_, _, front, value, behind⟩

/-! ## What follows -/

theorem isBlank_iff {c : Char} : isBlank c = true ↔ c ∈ blanks := by
  simp only [isBlank, blanks, Bool.or_eq_true, decide_eq_true_eq, List.mem_cons, List.not_mem_nil,
    or_false, or_assoc]
  exact or_congr_right or_left_comm

/-- Where no blank stands, all blanks in front have been skipped. -/
theorem Blanks.skipBlanks_eq {s r : List Char} (h : Blanks s r)
    (first : ∀ c ∈ r.head?, isBlank c = false) : skipBlanks s = r := by
  induction h with
  | none =>
      rename_i s
      cases s with
      | nil => rfl
      | cons c s => exact List.dropWhile_cons_of_neg (by simpa using first c rfl)
  | more blank _ ih => exact (List.dropWhile_cons_of_pos (isBlank_iff.2 blank)).trans (ih first)

/-- No character of a number stands at the position. -/
def Ended (s : List Char) : Prop :=
  ∀ c ∈ s.head?, c.isDigit = false ∧ c ≠ '.' ∧ c ≠ 'e' ∧ c ≠ 'E'

theorem Blanks.ended {s r : List Char} (h : Blanks s r) (ended : Ended r) : Ended s := by
  cases h with
  | none => exact ended
  | more blank _ =>
      have apart : ∀ c ∈ blanks, c.isDigit = false ∧ c ≠ '.' ∧ c ≠ 'e' ∧ c ≠ 'E' := by simp [blanks]
      simpa [Ended] using apart _ blank

end FilterQuery.Json
