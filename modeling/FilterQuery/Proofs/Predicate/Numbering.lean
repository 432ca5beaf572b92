import FilterQuery.Proofs.Chain.Pieces

/-! # Numbers of placeholders

The text of a filter and its list of values are made in two passes over the clauses. They
agree because both count values, never placeholders: a clause is shifted by the values in
front of it, whatever its own text or that of any other clause asks for.
-/

namespace FilterQuery

def Piece.fragment? : Piece → Option Fragment
  | fragment f => some f
  | _ => none

namespace Condition

/-- Whether raw text asks for no more values than were bound to it. -/
def fits : Condition → Bool
  | raw fragment values => fragment.span ≤ values.length
  | comparison _ _ _ | constant _ => true

theorem span_le_of_fits {k : Condition} (h : k.fits = true) :
    k.fragment.span ≤ k.values.length := by
  cases k with
  | comparison | constant => exact Nat.le_refl _
  | raw => exact of_decide_eq_true h

end Condition

theorem Fragment.span_le {f : Fragment} {t : Token} (h : t ∈ f.tokens) : t.span ≤ f.span := by
  obtain ⟨tokens⟩ := f
  simp only [span] at h ⊢
  induction tokens with
  | nil => cases h
  | cons first rest ih =>
      rcases List.mem_cons.1 h with rfl | later
      · exact Nat.le_max_left _ _
      · exact Nat.le_trans (ih later) (Nat.le_max_right _ _)

namespace Chain

variable {c d : Chain} {i : Nat} {clause : Clause}

/-- The number of values of the clauses in front of the clause at `index`. -/
def offset (c : Chain) (index : Nat) : Nat :=
  ((c.clauses.take index).flatMap Clause.values).length

/-- The predicate text has `f` in the place of the clause at `index`: behind the fragments of as
    many clauses. -/
def Prints (c : Chain) (index : Nat) (f : Fragment) : Prop :=
  ∃ front back, (front.filterMap Piece.fragment?).length = index ∧
    c.pieces = front ++ .fragment f :: back ∧
    ∀ spacing, (c.render spacing).expression =
      String.join (front.map (·.toText spacing)) ++ f.toText
        ++ String.join (back.map (·.toText spacing)) ++ c.distinctText ++ c.limitText

/-! ## The place of a clause -/

theorem clauses_split (place : c.clauses[i]? = some clause) :
    c.clauses = c.clauses.take i ++ clause :: c.clauses.drop (i + 1) := by
  obtain ⟨below, rfl⟩ := List.getElem?_eq_some_iff.1 place
  rw [← List.drop_eq_getElem_cons below, List.take_append_drop]

theorem fragments_leadingAt (c : Chain) (index : Nat) :
    (c.leadingAt index).filterMap Piece.fragment? = [] := by
  rw [leadingAt, List.filterMap_map, List.filterMap_eq_nil_iff]
  rintro ⟨kind, anchor⟩ _
  cases kind <;> rfl

theorem fragments_trailingAt (c : Chain) (index : Nat) :
    (c.trailingAt index).filterMap Piece.fragment? = [] := by
  rw [trailingAt, List.filterMap_map, List.filterMap_eq_nil_iff]
  intro _ _
  rfl

/-- What stands in front of a clause: its connective, if it is not the first, and its marks. -/
def frontAt (c : Chain) (index : Nat) (clause : Clause) : List Piece :=
  (if index = 0 then [] else [.connective clause.connective]) ++ c.leadingAt index

theorem fragments_frontAt (c : Chain) (index : Nat) (clause : Clause) :
    (c.frontAt index clause).filterMap Piece.fragment? = [] := by
  rw [frontAt, List.filterMap_append, fragments_leadingAt, List.append_nil]
  by_cases first : index = 0 <;> simp only [first, if_true, if_false] <;> rfl

theorem piecesFrom_cons (c : Chain) (index offset : Nat) (clause : Clause) (rest : List Clause) :
    c.piecesFrom index offset (clause :: rest) =
      c.frontAt index clause ++ .fragment (clause.fragmentAt offset) ::
        (c.trailingAt index ++ c.piecesFrom (index + 1) (offset + clause.values.length) rest) := by
  simp [piecesFrom, frontAt]

theorem length_fragments_piecesFrom (c : Chain) (index offset : Nat) (clauses : List Clause) :
    ((c.piecesFrom index offset clauses).filterMap Piece.fragment?).length = clauses.length := by
  induction clauses generalizing index offset with
  | nil => rfl
  | cons clause rest ih =>
      rw [piecesFrom_cons]
      simp [fragments_frontAt, fragments_trailingAt, Piece.fragment?, ih]

theorem piecesFrom_append (c : Chain) (index offset : Nat) (first second : List Clause) :
    c.piecesFrom index offset (first ++ second) =
      c.piecesFrom index offset first
        ++ c.piecesFrom (index + first.length)
          (offset + (first.flatMap Clause.values).length) second := by
  simp only [piecesFrom_eq_rowFrom, Layout.rowFrom_append]

theorem prints_clause (place : c.clauses[i]? = some clause) :
    c.Prints i (clause.fragmentAt (c.offset i)) := by
  have below : i < c.clauses.length := (List.getElem?_eq_some_iff.1 place).1
  have position : (c.clauses.take i).length = i :=
    List.length_take_of_le (Nat.le_of_lt below)
  have pieces : c.pieces = c.piecesFrom 0 0 (c.clauses.take i) ++
      c.piecesFrom i (c.offset i) (clause :: c.clauses.drop (i + 1)) := by
    calc
      c.pieces = c.piecesFrom 0 0 (c.clauses.take i ++ clause :: c.clauses.drop (i + 1)) :=
        congrArg (c.piecesFrom 0 0) (clauses_split place)
      _ = _ := by rw [piecesFrom_append, position, Nat.zero_add, Nat.zero_add, offset]
  rw [piecesFrom_cons, ← List.append_assoc] at pieces
  refine ⟨_, _, ?_, pieces, fun spacing => ?_⟩
  · rw [List.filterMap_append, fragments_frontAt, List.append_nil, length_fragments_piecesFrom,
      position]
  · have some : c.clauses ≠ [] := by
      intro none
      simp [none] at place
    simp only [render, filterText, List.isEmpty_eq_false_iff.2 some, Bool.false_eq_true, if_false,
      pieces, List.map_append, List.map_cons, String.join_append, String.join_cons, Piece.toText,
      String.append_assoc]

/-! ## The values behind the numbers -/

theorem values_split (place : c.clauses[i]? = some clause) :
    ∃ rest, c.values = (c.clauses.take i).flatMap Clause.values ++ (clause.values ++ rest) := by
  refine ⟨(c.clauses.drop (i + 1)).flatMap Clause.values, ?_⟩
  calc
    c.values = (c.clauses.take i ++ clause :: c.clauses.drop (i + 1)).flatMap Clause.values :=
      congrArg (List.flatMap Clause.values) (clauses_split place)
    _ = _ := by rw [List.flatMap_append, List.flatMap_cons]

theorem offset_add_length_le (place : c.clauses[i]? = some clause) :
    c.offset i + clause.values.length ≤ c.values.length := by
  obtain ⟨rest, split⟩ := values_split place
  simp only [split, offset, List.length_append]
  omega

theorem getElem?_values (place : c.clauses[i]? = some clause) {n : Nat}
    (bound : n < clause.values.length) : c.values[c.offset i + n]? = clause.values[n]? := by
  obtain ⟨rest, split⟩ := values_split place
  rw [split, offset, List.getElem?_append_right (Nat.le_add_right _ _), Nat.add_sub_cancel_left,
    List.getElem?_append_left bound]

theorem offset_congr (same : d.clauses.map (·.values.length) = c.clauses.map (·.values.length))
    (i : Nat) : d.offset i = c.offset i := by
  have sum (c : Chain) : c.offset i = ((c.clauses.map (·.values.length)).take i).sum := by
    rw [offset, List.length_flatMap, List.map_take]
  rw [sum, sum, same]

end Chain

/-- A placeholder asks for more values than its number, unless it has the largest one. -/
theorem Token.lt_span {n : UInt64} (h : n.toNat ≠ maxIndex) : n.toNat < (placeholder n).span := by
  have largest := toNat_le_maxIndex n
  rw [span, toNat_shiftIndex]
  omega

/-- Every placeholder denotes a value of its own clause, as long as no more values are bound than
    numbers can tell apart. Where another clause stands, and what its text asks for, makes no
    difference as long as it binds as many values. A number that the clause has bound no value
    for denotes none of its values, nor any in front of it. If the clause binds what it asks for,
    then every number denotes some value; the exception would be a clause with `maxIndex` values,
    more than any memory holds, for which the largest number passes as bound. -/
theorem placeholder_denotes_own_value {c : Chain} (few : c.values.length ≤ Token.maxIndex) {i : Nat}
    {clause : Clause} (place : c.clauses[i]? = some clause) :
    c.Prints i (clause.fragmentAt (c.offset i)) ∧
    (∀ d : Chain, d.clauses[i]? = some clause →
      d.clauses.map (·.values.length) = c.clauses.map (·.values.length) →
      d.Prints i (clause.fragmentAt (c.offset i))) ∧
    ∀ (k : Nat) (n : UInt64), clause.condition.fragment.tokens[k]? = some (.placeholder n) →
      ∃ p, (clause.fragmentAt (c.offset i)).tokens[k]? = some (.placeholder p) ∧
        (n.toNat < clause.values.length →
          p.toNat = c.offset i + n.toNat ∧
          ∀ spacing, (c.render spacing).values[p.toNat]? = clause.values[n.toNat]?) ∧
        (clause.values.length ≤ n.toNat → c.offset i + clause.values.length ≤ p.toNat) ∧
        (clause.condition.fits = true →
          p.toNat < c.values.length ∨ clause.values.length = Token.maxIndex) := by
  have within := Chain.offset_add_length_le place
  refine ⟨Chain.prints_clause place, ?_, ?_⟩
  · intro d place' same
    rw [← Chain.offset_congr same]
    exact Chain.prints_clause place'
  · intro k n token
    have printed := Token.toNat_shiftIndex n (c.offset i)
    refine ⟨Token.shiftIndex n (c.offset i), ?_, ?_, ?_, ?_⟩
    · simp [Clause.fragmentAt, Fragment.shift, token, Token.shift]
    · intro bound
      have exact_ : (Token.shiftIndex n (c.offset i)).toNat = c.offset i + n.toNat := by omega
      refine ⟨exact_, fun spacing => ?_⟩
      rw [exact_]
      exact Chain.getElem?_values place bound
    · intro unbound
      omega
    · intro fits
      have span : (Token.placeholder n).span ≤ clause.values.length :=
        Nat.le_trans (Fragment.span_le (List.mem_of_getElem? token))
          (Condition.span_le_of_fits fits)
      by_cases largest : n.toNat = Token.maxIndex
      · right
        rw [Token.span, Token.toNat_shiftIndex] at span
        omega
      · left
        have := Token.lt_span largest
        omega

/-- Behind raw text that asks for six values and binds one, placeholders keep their values. -/
theorem placeholder_denotes_own_value_mismatched :
    ∃ c : Chain, c.values.length ≤ Token.maxIndex ∧
      c.clauses[1]? = some ⟨.or, .raw ⟨[.placeholder 5]⟩ [.boolean false]⟩ ∧
      c.clauses[2]? = some ⟨.and, .raw ⟨[.placeholder 1, .placeholder 0]⟩ [.null, .boolean true]⟩ ∧
      c.Prints 2 ⟨[.placeholder 3, .placeholder 2]⟩ ∧
      (c.render .compact).values[3]? = some (.boolean true) := by
  let c : Chain :=
    { clauses := [⟨.and, .comparison "age" (.order .less) .null⟩,
        ⟨.or, .raw ⟨[.placeholder 5]⟩ [.boolean false]⟩,
        ⟨.and, .raw ⟨[.placeholder 1, .placeholder 0]⟩ [.null, .boolean true]⟩] }
  have few : c.values.length ≤ Token.maxIndex := by decide
  obtain ⟨prints, -, numbers⟩ := placeholder_denotes_own_value few (i := 2) rfl
  obtain ⟨_, token, own, -⟩ := numbers 0 1 rfl
  cases token
  exact ⟨c, few, rfl, rfl, prints, (own (by decide)).2 .compact⟩

end FilterQuery
