import FilterQuery.Json.Lexical
import FilterQuery.Json.Numeral

/-! # Skipping JSON values

A value of any kind and depth is checked and passed over. The lists and objects that are
open around the reader are kept as a stack, so nesting costs no recursion.
-/

namespace FilterQuery.Json

inductive Enclosure where
  | list
  | object
  deriving Repr, DecidableEq

namespace Enclosure

def closer : Enclosure → Char
  | list => ']'
  | object => '\x7d'

/-- The problem of a text that ends inside. -/
def endProblem : Enclosure → Problem
  | list => .endInList
  | object => .endInObject

/-- The problem of two items without a comma. -/
def separatorProblem : Enclosure → Problem
  | list => .expectedListSeparator
  | object => .expectedObjectSeparator

end Enclosure

/-- Skips a number, whatever its size. -/
def skipNumeral (s : List Char) : Except Problem (List Char) :=
  (Numeral.read .invalidNumber s).map (·.2)

/-- Skips a value without parts, or just the bracket that opens one with parts. -/
def skipFront (s : List Char) : Except Problem (Option Enclosure × List Char) :=
  match skipBlanks s with
  | [] => .error .endInValue
  | '[' :: rest => .ok (some .list, rest)
  | '\x7b' :: rest => .ok (some .object, rest)
  | '"' :: rest => (skipString rest).map (none, ·)
  | 'n' :: rest => (readWord "ull".toList rest).map (none, ·)
  | 't' :: rest => (readWord "rue".toList rest).map (none, ·)
  | 'f' :: rest => (readWord "alse".toList rest).map (none, ·)
  | c :: rest =>
      if c = '-' ∨ c.isDigit then (skipNumeral (c :: rest)).map (none, ·)
      else .error .expectedValue

/-- Skips the key of a member, and its colon. -/
def skipKey (s : List Char) : Except Problem (List Char) :=
  match skipBlanks s with
  | [] => .error .endInObject
  | c :: rest =>
      if c = '"' then
        match skipString rest with
        | .error p => .error p
        | .ok rest =>
            match skipBlanks rest with
            | [] => .error .endInObject
            | c :: rest => if c = ':' then .ok rest else .error .expectedColon
      else .error .keyNotString

/-- Skips what comes in front of the value of an item: a key, in an object. -/
def skipToValue (e : Enclosure) (s : List Char) : Except Problem (List Char) :=
  match e with
  | .list => .ok s
  | .object => skipKey s

/-- Skips what comes between two values: closing brackets, and then a comma, and in an
    object the next key. `fresh` says that a bracket has just been opened, so that no comma is
    due. The answer is what is still open around the next value, nothing if there is none. -/
def skipBetween (fresh : Bool) (around : List Enclosure) (s : List Char) :
    Except Problem (List Enclosure × List Char) :=
  match around with
  | [] => .ok ([], s)
  | e :: outer =>
      match skipBlanks s with
      | [] => .error e.endProblem
      | c :: rest =>
          if c = e.closer then skipBetween false outer rest
          else if fresh ∨ c = ',' then
            (skipToValue e (if fresh then c :: rest else rest)).map (e :: outer, ·)
          else .error e.separatorProblem

theorem length_skipNumeral_lt {s rest : List Char} (h : skipNumeral s = .ok rest) :
    rest.length < s.length := by
  unfold skipNumeral at h
  cases hn : Numeral.read .invalidNumber s with
  | error p => simp [hn, Except.map] at h
  | ok r =>
      obtain ⟨numeral, after⟩ := r
      simp only [hn, Except.map, Except.ok.injEq] at h
      exact h ▸ Numeral.length_read_lt hn

theorem length_skipFront_lt {s rest : List Char} {e : Option Enclosure}
    (h : skipFront s = .ok (e, rest)) : rest.length < s.length := by
  have hb := length_skipBlanks_le s
  have hmap {x : Except Problem (List Char)} (hx : x.map (none, ·) = .ok (e, rest)) :
      x = .ok rest := by
    cases x with
    | error p => simp [Except.map] at hx
    | ok r =>
        simp only [Except.map, Except.ok.injEq, Prod.mk.injEq] at hx
        exact congrArg Except.ok hx.2
  unfold skipFront at h
  split at h <;> rename_i heq <;> simp only [heq, List.length_cons] at hb
  · simp at h
  · simp only [Except.ok.injEq, Prod.mk.injEq] at h
    rw [← h.2]
    omega
  · simp only [Except.ok.injEq, Prod.mk.injEq] at h
    rw [← h.2]
    omega
  · exact Nat.lt_of_lt_of_le (length_skipString_lt (hmap h)) (by omega)
  · exact Nat.lt_of_le_of_lt (length_readWord_le (hmap h)) (by omega)
  · exact Nat.lt_of_le_of_lt (length_readWord_le (hmap h)) (by omega)
  · exact Nat.lt_of_le_of_lt (length_readWord_le (hmap h)) (by omega)
  · split at h
    · exact Nat.lt_of_lt_of_le (length_skipNumeral_lt (hmap h)) (by simpa using hb)
    · simp at h

theorem length_skipKey_le {s rest : List Char} (h : skipKey s = .ok rest) :
    rest.length ≤ s.length := by
  have hb := length_skipBlanks_le s
  unfold skipKey at h
  split at h
  · simp at h
  · rename_i heq
    simp only [heq, List.length_cons] at hb
    split at h
    · split at h
      · simp at h
      · rename_i after hs
        have hlt := length_skipString_lt hs
        have hb' := length_skipBlanks_le after
        split at h
        · simp at h
        · rename_i heq'
          simp only [heq', List.length_cons] at hb'
          split at h
          · simp only [Except.ok.injEq] at h
            rw [← h]
            omega
          · simp at h
    · simp at h

theorem length_skipToValue_le {e : Enclosure} {s rest : List Char}
    (h : skipToValue e s = .ok rest) : rest.length ≤ s.length := by
  unfold skipToValue at h
  split at h
  · simp_all
  · exact length_skipKey_le h

theorem length_skipBetween_le {fresh : Bool} {around more : List Enclosure} {s rest : List Char}
    (h : skipBetween fresh around s = .ok (more, rest)) : rest.length ≤ s.length := by
  induction around generalizing fresh s with
  | nil => simp_all [skipBetween]
  | cons e outer ih =>
      have hb := length_skipBlanks_le s
      unfold skipBetween at h
      split at h
      · simp at h
      · rename_i c tail heq
        simp only [heq, List.length_cons] at hb
        split at h
        · have := ih h; omega
        · split at h
          · cases hk : skipToValue e (if fresh then c :: tail else tail) with
            | error p => simp [hk, Except.map] at h
            | ok r =>
                simp only [hk, Except.map, Except.ok.injEq, Prod.mk.injEq] at h
                have hle := length_skipToValue_le hk
                rw [← h.2]
                split at hle
                · simp only [List.length_cons] at hle
                  omega
                · omega
          · simp at h

/-- Skips values until everything open around the reader is closed. -/
def skipValue (around : List Enclosure) (s : List Char) : Except Problem (List Char) :=
  match hf : skipFront s with
  | .error p => .error p
  | .ok (opened, rest) =>
      match hb : skipBetween opened.isSome (opened.toList ++ around) rest with
      | .error p => .error p
      | .ok ([], rest) => .ok rest
      | .ok (e :: outer, rest) =>
          have := length_skipFront_lt hf
          have := length_skipBetween_le hb
          skipValue (e :: outer) rest
termination_by s.length

theorem length_skipValue_lt {around : List Enclosure} {s rest : List Char}
    (h : skipValue around s = .ok rest) : rest.length < s.length := by
  fun_induction skipValue around s with
  | case1 => simp at h
  | case2 => simp at h
  | case3 around s opened tail hf after hb =>
      have := length_skipFront_lt hf
      have := length_skipBetween_le hb
      simp only [Except.ok.injEq] at h
      subst h
      omega
  | case4 around s opened tail hf e outer after hb h1 h2 ih =>
      have := ih h
      omega

end FilterQuery.Json
