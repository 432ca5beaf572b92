import FilterQuery.Json.Skip
import FilterQuery.Proofs.Json.Unambiguous
import Mathlib.Data.List.DropRight

/-! # Skipping values

A value of any kind and depth is skipped from where it begins to where the grammar says that it
ends. The stack of what is open around it is left as it was.
-/

namespace FilterQuery.Json

/-! ## Steps of the reader -/

/-- What is left to be skipped behind a value, or behind the bracket that opens one. -/
def proceed (fresh : Bool) (around : List Enclosure) (s : List Char) :
    Except Problem (List Char) :=
  match skipBetween fresh around s with
  | .error p => .error p
  | .ok ([], rest) => .ok rest
  | .ok (e :: outer, rest) => skipValue (e :: outer) rest

/-- Skips the rest of what has been opened last, from where a value is due. -/
def enter (e : Enclosure) (outer : List Enclosure) (s : List Char) : Except Problem (List Char) :=
  match skipToValue e s with
  | .error p => .error p
  | .ok rest => skipValue (e :: outer) rest

theorem skipValue_of_front {opened : Option Enclosure} {s rest : List Char}
    (h : skipFront s = .ok (opened, rest)) (around : List Enclosure) :
    skipValue around s = proceed opened.isSome (opened.toList ++ around) rest := by
  rw [skipValue]
  split
  · rename_i problem
    rw [h] at problem
    cases problem
  · rename_i front
    rw [h] at front
    cases front
    unfold proceed
    split <;> rename_i between <;> simp only [between]

theorem skipValue_of_problem {p : Problem} {s : List Char} (h : skipFront s = .error p)
    (around : List Enclosure) : skipValue around s = .error p := by
  rw [skipValue]
  split
  · rename_i problem
    exact congrArg _ (Except.error.inj (problem.symm.trans h))
  · rename_i front
    rw [h] at front
    cases front

variable {e : Enclosure} {outer : List Enclosure} {s s' r : List Char}

theorem proceed_closer (fresh : Bool) (h : skipBlanks s = e.closer :: r) :
    proceed fresh (e :: outer) s = proceed false outer r := by
  unfold proceed
  rw [skipBetween, h]
  simp only [if_true]

theorem proceed_comma (h : skipBlanks s = ',' :: r) :
    proceed false (e :: outer) s = enter e outer r := by
  have comma : ',' ≠ e.closer := by cases e <;> decide
  unfold proceed enter
  rw [skipBetween, h]
  cases next : skipToValue e r <;> simp [comma, next, Except.map]

theorem skipFront_congr (same : skipBlanks s = skipBlanks s') : skipFront s = skipFront s' := by
  rw [skipFront, skipFront, same]

theorem skipValue_congr (same : skipBlanks s = skipBlanks s') (around : List Enclosure) :
    skipValue around s = skipValue around s' := by
  cases front : skipFront s' with
  | error p =>
      rw [skipValue_of_problem front, skipValue_of_problem ((skipFront_congr same).trans front)]
  | ok found =>
      obtain ⟨opened, rest⟩ := found
      rw [skipValue_of_front front, skipValue_of_front ((skipFront_congr same).trans front)]

theorem enter_congr (same : skipBlanks s = skipBlanks s') : enter e outer s = enter e outer s' := by
  cases e with
  | list => exact skipValue_congr same _
  | object =>
      unfold enter
      rw [skipToValue, skipToValue, skipKey, skipKey, same]

theorem proceed_congr (same : skipBlanks s = skipBlanks s') (fresh : Bool) :
    proceed fresh (e :: outer) s = proceed fresh (e :: outer) s' := by
  unfold proceed
  rw [skipBetween, skipBetween, same]

/-- Behind an opening bracket a value is due, unless it is closed. -/
theorem proceed_fresh {c : Char} (front : skipBlanks s = c :: r) (opens : c ≠ e.closer) :
    proceed true (e :: outer) s = enter e outer s := by
  have same : skipBlanks (c :: r) = skipBlanks s := by
    rw [← front]
    exact List.dropWhile_idempotent isBlank s
  rw [← enter_congr same]
  unfold proceed enter
  rw [skipBetween, front]
  cases next : skipToValue e (c :: r) <;> simp [opens, next, Except.map]

/-! ## Values -/

theorem skipValue_of_plain (h : skipFront s = .ok (none, r)) (around : List Enclosure) :
    skipValue around s = proceed false around r :=
  skipValue_of_front h around

theorem skipValue_of_opening (h : skipFront s = .ok (some e, r)) (around : List Enclosure) :
    skipValue around s = proceed true (e :: around) r :=
  skipValue_of_front h around

theorem skipFront_string {content : List Char} (text : StringText content s r) :
    skipFront ('"' :: s) = .ok (none, r) := by
  change (skipString s).map (none, ·) = _
  rw [text.skipString_eq]
  rfl

theorem skipFront_number {n : Numeral} {t : List Char} (text : NumeralText n t) (ended : Ended r) :
    skipFront (t ++ r) = .ok (none, r) := by
  have front : skipBlanks (t ++ r) = t ++ r := (Reads.number text).skipBlanks_eq .none
  have numeral : skipNumeral (t ++ r) = .ok r := by
    rw [skipNumeral, text.read_append ended]
    rfl
  obtain ⟨c, tail, rfl, leads⟩ := text.first
  have first : c = '-' ∨ c.isDigit = true := by simpa using leads
  unfold skipFront
  rw [front]
  split
  -- no other kind of value begins like a number
  case h_8 =>
    rename_i same
    cases same
    rw [if_pos first]
    exact congrArg _ numeral
  all_goals
    rename_i same
    cases same
  all_goals cases leads

theorem Key.skipKey_eq {key : List Char} (h : Key key s r) : skipKey s = .ok r := by
  obtain ⟨front, text, behind⟩ := h
  have colon := behind.skipBlanks_cons (by decide)
  have quote := front.skipBlanks_cons (by decide)
  simp only [skipKey, quote, if_true, text.skipString_eq, colon]

theorem Key.enter_eq {key : List Char} (h : Key key s r) (outer : List Enclosure) :
    enter .object outer s = skipValue (.object :: outer) r := by
  unfold enter
  rw [skipToValue, h.skipKey_eq]

/-- What an enclosure holds is skipped up to its bracket, and the bracket with it. -/
def Held (e : Enclosure) (s r : List Char) : Prop :=
  ∀ rest outer, r = e.closer :: rest → enter e outer s = proceed false outer rest

/-- A part of a text that is skipped as a whole. -/
def Form.Skipped (s r : List Char) : Form → Prop
  | value _ => Ended r → ∀ around, skipValue around s = proceed false around r
  | padded _ => Stops r → ∀ e outer, skipValue (e :: outer) s = proceed false (e :: outer) r
  | items ts => ts ≠ [] → Held .list s r
  | members ms => ms ≠ [] → Held .object s r

theorem skipped_array {ts : List Tree} (items : Reads (.items ts) s (']' :: r))
    (ih : (Form.items ts).Skipped s (']' :: r)) :
    (Form.value (.array ts)).Skipped ('[' :: s) r := by
  intro _ around
  rw [skipValue_of_opening rfl]
  cases items with
  | noItems blanks => exact proceed_closer true (blanks.skipBlanks_cons (by decide))
  | lastItem item | item item _ =>
      obtain ⟨c, tail, front, opens⟩ := item.opens
      rw [proceed_fresh front (by rintro rfl; exact opens (by decide))]
      exact ih (List.cons_ne_nil _ _) _ _ rfl

theorem skipped_object {ms : List (List Char × Tree)}
    (members : Reads (.members ms) s ('\x7d' :: r))
    (ih : (Form.members ms).Skipped s ('\x7d' :: r)) :
    (Form.value (.object ms)).Skipped ('\x7b' :: s) r := by
  intro _ around
  rw [skipValue_of_opening rfl]
  cases members with
  | noMembers blanks => exact proceed_closer true (blanks.skipBlanks_cons (by decide))
  | lastMember key _ | member key _ _ =>
      obtain ⟨tail, front⟩ := key.skipBlanks_eq
      rw [proceed_fresh front (by decide)]
      exact ih (List.cons_ne_nil _ _) _ _ rfl

/-- Every part is skipped as a whole, whatever is open around it. The induction is on what the text
    says, so the stack of the reader is followed for any stack at once. -/
theorem Reads.skipped {f : Form} (h : Reads f s r) : f.Skipped s r := by
  induction h with
  | nullWord => exact fun _ => skipValue_of_plain rfl
  | trueWord => exact fun _ => skipValue_of_plain rfl
  | falseWord => exact fun _ => skipValue_of_plain rfl
  | number text => exact fun ended => skipValue_of_plain (skipFront_number text ended)
  | string text => exact fun _ => skipValue_of_plain (skipFront_string text)
  | array items ih => exact skipped_array items ih
  | object members ih => exact skipped_object members ih
  | padded front value behind ih =>
      intro stops e outer
      have start := (value.skipBlanks_eq front).trans (value.skipBlanks_eq .none).symm
      have rest := (stops.skipBlanks_eq behind).trans (stops.skipBlanks_eq .none).symm
      rw [skipValue_congr start, ih (behind.ended stops.ended), proceed_congr rest]
  | noItems blanks => exact fun some => absurd rfl some
  | lastItem item ih =>
      rintro - rest outer rfl
      change skipValue (.list :: outer) _ = _
      rw [ih (stops_cons (by decide))]
      exact proceed_closer false rfl
  | item item items ih ihs =>
      rintro - rest outer same
      change skipValue (.list :: outer) _ = _
      rw [ih (stops_cons (by decide)), proceed_comma rfl]
      exact ihs (List.cons_ne_nil _ _) _ _ same
  | noMembers blanks => exact fun some => absurd rfl some
  | lastMember key value ih =>
      rintro - rest outer rfl
      rw [key.enter_eq, ih (stops_cons (by decide))]
      exact proceed_closer false rfl
  | member key value members ih ihs =>
      rintro - rest outer same
      rw [key.enter_eq, ih (stops_cons (by decide)), proceed_comma rfl]
      exact ihs (List.cons_ne_nil _ _) _ _ same

end FilterQuery.Json
