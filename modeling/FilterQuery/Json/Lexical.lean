import FilterQuery.Json.Problem

/-! # Lexical parts of JSON text

Readers of blanks, words and strings. A reader takes what it reads from the front of the
text and answers with the rest, so a position in a text is what is left from there on.
-/

namespace FilterQuery.Json

def isBlank (c : Char) : Bool :=
  c = ' ' || c = '\n' || c = '\t' || c = '\r'

/-- The text from its first character that is no blank. -/
def skipBlanks (s : List Char) : List Char :=
  s.dropWhile isBlank

/-- Reads the given word. -/
def readWord : List Char → List Char → Except Problem (List Char)
  | [], s => .ok s
  | _ :: _, [] => .error .endInValue
  | w :: word, c :: rest => if c = w then readWord word rest else .error .expectedWord

/-- The character that a backslash and this letter stand for. -/
def unescapeLetter? : Char → Option Char
  | '"' => some '"'
  | '\\' => some '\\'
  | '/' => some '/'
  | 'b' => some '\x08'
  | 'f' => some '\x0c'
  | 'n' => some '\n'
  | 'r' => some '\r'
  | 't' => some '\t'
  | _ => none

def hexValue? (c : Char) : Option Nat :=
  if '0' ≤ c ∧ c ≤ '9' then some (c.toNat - 48)
  else if 'a' ≤ c ∧ c ≤ 'f' then some (c.toNat - 87)
  else if 'A' ≤ c ∧ c ≤ 'F' then some (c.toNat - 55)
  else none

/-- The length of a text in UTF-8. -/
def byteLength : List Char → Nat
  | [] => 0
  | c :: rest => c.utf8Size + byteLength rest

/-- Reads the four digits of a `\u` escape. Four bytes have to follow; only then does it
    matter what they are. -/
def readHex (s : List Char) : Except Problem (Nat × List Char) :=
  if byteLength (s.take 4) < 4 then .error .endInString
  else
    match s with
    | a :: b :: c :: d :: rest =>
        match hexValue? a, hexValue? b, hexValue? c, hexValue? d with
        | some a, some b, some c, some d => .ok (((a * 16 + b) * 16 + c) * 16 + d, rest)
        | _, _, _, _ => .error .invalidEscape
    | _ => .error .invalidEscape

/-- Reads the second half of a surrogate pair, an escape of its own. -/
def readLowSurrogate (high : Nat) : List Char → Except Problem (Char × List Char)
  | [] => .error .endInString
  | ['\\'] => .error .endInString
  | '\\' :: 'u' :: s =>
      match readHex s with
      | .error p => .error p
      | .ok (low, rest) =>
          if 0xDC00 ≤ low ∧ low ≤ 0xDFFF then
            .ok (Char.ofNat ((high - 0xD800) * 0x400 + (low - 0xDC00) + 0x10000), rest)
          else .error .misplacedSurrogate
  | _ => .error .unfinishedSurrogatePair

/-- Reads an escape after its backslash. Surrogates have to come in pairs. -/
def readEscape : List Char → Except Problem (Char × List Char)
  | [] => .error .endInString
  | 'u' :: s =>
      match readHex s with
      | .error p => .error p
      | .ok (n, rest) =>
          if 0xDC00 ≤ n ∧ n ≤ 0xDFFF then .error .misplacedSurrogate
          else if 0xD800 ≤ n ∧ n ≤ 0xDBFF then readLowSurrogate n rest
          else .ok (Char.ofNat n, rest)
  | c :: rest =>
      match unescapeLetter? c with
      | some d => .ok (d, rest)
      | none => .error .invalidEscape

/-- Skips an escape after its backslash. Any four hexadecimal digits do. -/
def skipEscape : List Char → Except Problem (List Char)
  | [] => .error .endInString
  | 'u' :: s => (readHex s).map (·.2)
  | c :: rest => if (unescapeLetter? c).isSome then .ok rest else .error .invalidEscape

theorem length_readHex_le {s rest : List Char} {n : Nat} (h : readHex s = .ok (n, rest)) :
    rest.length ≤ s.length := by
  unfold readHex at h
  split at h
  · simp at h
  · split at h
    · split at h
      · simp only [Except.ok.injEq, Prod.mk.injEq] at h
        simp [← h.2]
        omega
      · simp at h
    · simp at h

theorem length_readLowSurrogate_le {high : Nat} {s rest : List Char} {c : Char}
    (h : readLowSurrogate high s = .ok (c, rest)) : rest.length ≤ s.length := by
  unfold readLowSurrogate at h
  split at h
  · simp at h
  · simp at h
  · split at h
    · simp at h
    · rename_i hx
      split at h
      · simp only [Except.ok.injEq, Prod.mk.injEq] at h
        have := length_readHex_le hx
        simp [← h.2]
        omega
      · simp at h
  · simp at h

theorem length_readEscape_le {s rest : List Char} {c : Char} (h : readEscape s = .ok (c, rest)) :
    rest.length ≤ s.length := by
  unfold readEscape at h
  split at h
  · simp at h
  · split at h
    · simp at h
    · rename_i hx
      have := length_readHex_le hx
      split at h
      · simp at h
      · split at h
        · have := length_readLowSurrogate_le h
          simp; omega
        · simp only [Except.ok.injEq, Prod.mk.injEq] at h
          simp [← h.2]; omega
  · split at h
    · simp only [Except.ok.injEq, Prod.mk.injEq] at h
      simp [← h.2]
    · simp at h

theorem length_skipEscape_le {s rest : List Char} (h : skipEscape s = .ok rest) :
    rest.length ≤ s.length := by
  unfold skipEscape at h
  split at h
  · simp at h
  · rename_i s
    cases hx : readHex s with
    | error p => simp [hx, Except.map] at h
    | ok r =>
        obtain ⟨n, after⟩ := r
        simp only [hx, Except.map, Except.ok.injEq] at h
        have := length_readHex_le hx
        simp [← h]; omega
  · split at h
    · simp only [Except.ok.injEq] at h
      simp [← h]
    · simp at h

/-- Reads a string after its opening quote: its content, and what follows the closing
    quote. -/
def readString (s : List Char) : Except Problem (List Char × List Char) :=
  match s with
  | [] => .error .endInString
  | '"' :: rest => .ok ([], rest)
  | '\\' :: rest =>
      match h : readEscape rest with
      | .error p => .error p
      | .ok (c, after) =>
          have := length_readEscape_le h
          match readString after with
          | .error p => .error p
          | .ok (content, rest) => .ok (c :: content, rest)
  | c :: rest =>
      if c.toNat < 32 then .error .controlCharacter
      else
        match readString rest with
        | .error p => .error p
        | .ok (content, rest) => .ok (c :: content, rest)
termination_by s.length

/-- Skips a string after its opening quote. -/
def skipString (s : List Char) : Except Problem (List Char) :=
  match s with
  | [] => .error .endInString
  | '"' :: rest => .ok rest
  | '\\' :: rest =>
      match h : skipEscape rest with
      | .error p => .error p
      | .ok after =>
          have := length_skipEscape_le h
          skipString after
  | c :: rest => if c.toNat < 32 then .error .controlCharacter else skipString rest
termination_by s.length

theorem length_skipBlanks_le (s : List Char) : (skipBlanks s).length ≤ s.length :=
  (List.dropWhile_suffix _).length_le

theorem length_readWord_le {word s rest : List Char} (h : readWord word s = .ok rest) :
    rest.length ≤ s.length := by
  fun_induction readWord word s with
  | case1 => simp_all
  | case2 => simp at h
  | case3 w word rest' ih => have := ih h; simp; omega
  | case4 => simp at h

theorem length_readString_lt {s content rest : List Char}
    (h : readString s = .ok (content, rest)) : rest.length < s.length := by
  fun_induction readString s generalizing content rest <;> simp_all
  all_goals omega

theorem length_skipString_lt {s rest : List Char} (h : skipString s = .ok rest) :
    rest.length < s.length := by
  fun_induction skipString s <;> simp_all
  all_goals omega

end FilterQuery.Json
