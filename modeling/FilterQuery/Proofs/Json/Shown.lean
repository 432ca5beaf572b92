import FilterQuery.Proofs.Json.Numerals
import FilterQuery.Proofs.Json.Unambiguous
import FilterQuery.Proofs.Time.Written
import FilterQuery.Value
import Mathlib.Data.List.Basic

/-! # Value lists as JSON text

The text that a list of values is shown as says an array, and nothing else: one item for each value,
in their order, whatever stands in their strings.
-/

namespace FilterQuery

open Json

/-- What a value is shown as. -/
inductive Shows : Value → Tree → Prop where
  | null : Shows .null .null
  | boolean {b} : Shows (.boolean b) (.boolean b)
  | integer {i n} : n.toRat = i.toInt → Shows (.integer i) (.number n)
  | finite {x n} : x.isFinite = true → Shows (.float x) (.number n)
  | notFinite {x} : x.isFinite = false → Shows (.float x) .null
  /-- The text of a decimal is itself a numeral, with all of the decimal's places. -/
  | decimal {d n} : NumeralText n d.toText.toList → d.WrittenAs n →
      Shows (.decimal d) (.string d.toText.toList)
  | string {s} : Shows (.string s) (.string s.toList)
  /-- The text of a timestamp denotes it as RFC 3339 has it. -/
  | timestamp {t} : t.WrittenAs t.toText.toList → Shows (.timestamp t) (.string t.toText.toList)

/-! ## Strings -/

namespace Json

theorem mem_escapes_of_escapeLetter? {c letter : Char} (h : escapeLetter? c = some letter) :
    (letter, c) ∈ escapes := by
  unfold escapeLetter? at h
  split at h
  all_goals first
    | cases h; decide
    | cases h

theorem escapeLetter?_quote {c : Char} (h : escapeLetter? c = none) : c ≠ '"' ∧ c ≠ '\\' := by
  constructor <;> (rintro rfl; cases h)

theorem digitChar_mem_hexDigits {n : Nat} (h : n < 16) : (Nat.digitChar n, n) ∈ hexDigits := by
  have all : ∀ n < 16, (Nat.digitChar n, n) ∈ hexDigits := by decide
  exact all n h

theorem charText_escape (c : Char) : CharText c (escape c) := by
  unfold escape
  split
  · rename_i letter
    exact .escape (.letter (mem_escapes_of_escapeLetter? letter))
  · rename_i none
    obtain ⟨quote, backslash⟩ := escapeLetter?_quote none
    split
    · rename_i control
      have hex := Hex.digits (digitChar_mem_hexDigits (Nat.zero_lt_succ 15))
        (digitChar_mem_hexDigits (Nat.zero_lt_succ 15))
        (digitChar_mem_hexDigits (by omega : c.toNat / 16 < 16))
        (digitChar_mem_hexDigits (Nat.mod_lt c.toNat (by decide)))
      rw [show ((0 * 16 + 0) * 16 + c.toNat / 16) * 16 + c.toNat % 16 = c.toNat by omega] at hex
      exact .escape (.unit hex)
    · rename_i printable
      exact .plain quote backslash (Nat.not_lt.1 printable)

theorem stringText_flatMap_escape (content r : List Char) :
    StringText content (content.flatMap escape ++ '"' :: r) r := by
  induction content with
  | nil => exact .close
  | cons c content ih =>
      rw [List.flatMap_cons, List.append_assoc]
      exact .char (charText_escape c) ih

theorem reads_quote (s : String) (r : List Char) :
    Reads (.value (.string s.toList)) (quote s ++ r) r := by
  rw [quote, List.cons_append, List.append_assoc]
  exact .string (stringText_flatMap_escape s.toList r)

end Json

/-! ## Items -/

theorem exists_shown (v : Value) :
    ∃ t, Shows v t ∧ ∀ r, Reads (.value t) (v.toJson.chars ++ r) r := by
  cases v with
  | null => exact ⟨_, .null, fun r => .nullWord⟩
  | boolean b =>
      cases b with
      | true => exact ⟨_, .boolean, fun r => .trueWord⟩
      | false => exact ⟨_, .boolean, fun r => .falseWord⟩
  | integer i =>
      obtain ⟨n, text, value⟩ := exists_numeral_int i.toInt
      exact ⟨_, .integer value, fun r => .number text⟩
  | float x =>
      cases finite : x.isFinite with
      | true =>
          obtain ⟨n, text⟩ := x.exists_numeral
          refine ⟨.number n, .finite finite, fun r => ?_⟩
          rw [Value.toJson, if_pos finite]
          exact .number text
      | false =>
          refine ⟨_, .notFinite finite, fun r => ?_⟩
          rw [Value.toJson, if_neg (by simp [finite])]
          exact .nullWord
  | decimal d =>
      obtain ⟨n, text, written⟩ := d.exists_numeral
      exact ⟨_, .decimal text written, reads_quote d.toText⟩
  | string s => exact ⟨_, .string, reads_quote s⟩
  | timestamp t => exact ⟨_, .timestamp t.writtenAs_toText, reads_quote t.toText⟩

theorem Json.Reads.tight {t : Tree} {s r : List Char} (h : Reads (.value t) s r) :
    Reads (.padded t) s r :=
  .padded .none h .none

theorem exists_items (values : List Value) :
    ∃ ts, List.Forall₂ Shows values ts ∧
      ∀ r, Reads (.items ts) (itemChars (values.map Value.toJson) ++ r) r := by
  induction values with
  | nil => exact ⟨[], .nil, fun r => .noItems .none⟩
  | cons v values ih =>
      obtain ⟨t, shown, value⟩ := exists_shown v
      obtain ⟨ts, all, items⟩ := ih
      cases values with
      | nil =>
          cases all
          exact ⟨[t], .cons shown .nil, fun r => .lastItem (value r).tight⟩
      | cons w values =>
          cases all with
          | cons first rest =>
              refine ⟨_, .cons shown (.cons first rest), fun r => ?_⟩
              rw [List.map_cons, List.map_cons, itemChars, List.append_assoc]
              · exact .item (value _).tight (items r)
              · exact List.cons_ne_nil _ _

theorem exists_array (values : List Value) :
    ∃ ts, List.Forall₂ Shows values ts ∧ Says (Value.listToJsonText values) (.array ts) := by
  obtain ⟨ts, all, items⟩ := exists_items values
  refine ⟨ts, all, .tight ?_⟩
  rw [Value.listToJsonText, toText, String.toList_ofList, chars]
  exact .array (items [']'])

theorem eq_of_shows_strings {xs : List String} {ts : List Tree}
    (h : List.Forall₂ Shows (xs.map .string) ts) : ts = xs.map fun s => .string s.toList := by
  induction xs generalizing ts with
  | nil =>
      cases h
      rfl
  | cons s xs ih =>
      cases h with
      | cons shown rest =>
          cases shown
          rw [ih rest]
          rfl

/-- The text of a list of values says one array and nothing else, with an item for each value in
    their order: a string has its content whatever its characters, a finite number is never null,
    and decimals and timestamps are strings that denote them. So lists of strings that are shown
    alike are the same. -/
theorem listToJsonText_unambiguous :
    (∀ values : List Value, ∃ ts, List.Forall₂ Shows values ts ∧
      ∀ t, Says (Value.listToJsonText values) t ↔ t = .array ts) ∧
    Function.Injective fun xs : List String => Value.listToJsonText (xs.map .string) := by
  refine ⟨fun values => ?_, fun xs ys same => ?_⟩
  · obtain ⟨ts, all, read⟩ := exists_array values
    exact ⟨ts, all, fun t => ⟨read.unique, fun h => h ▸ read⟩⟩
  · obtain ⟨ts, all, read⟩ := exists_array (xs.map .string)
    obtain ⟨us, all', read'⟩ := exists_array (ys.map .string)
    simp only at same
    rw [same] at read
    cases read'.unique read
    have contents := (eq_of_shows_strings all).symm.trans (eq_of_shows_strings all')
    have one : Function.Injective fun s : String => Tree.string s.toList :=
      fun _ _ equal => String.toList_injective (Tree.string.inj equal)
    exact one.list_map contents

end FilterQuery
