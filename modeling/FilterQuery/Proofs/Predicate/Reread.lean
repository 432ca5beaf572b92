import FilterQuery.Proofs.Fragment.Renumbered
import FilterQuery.Proofs.Predicate.Merged
import FilterQuery.Proofs.Predicate.Numbering

/-! # Reading a predicate back

The text of a predicate, read as a whole, has the placeholders of its clauses and no others. Only
the texts that come from outside have to be closed: then no literal runs across a seam. No number
does, since what follows a clause never begins with a digit.
-/

namespace FilterQuery

open Lexer

/-- Whether the literals in raw text are closed. Other calls bring no predicate text. -/
def Call.ClosedRaw : Call → Prop
  | .raw text _ => Closed text.toList
  | _ => True

/-- A name that a reader passes over: its literals are closed, and there are no placeholders. -/
def Lexer.Quiet (s : String) : Prop :=
  Closed s.toList ∧ Unnumbered s.toList

theorem Lexer.Inert.quiet {s : String} (h : Inert s.toList) : Quiet s :=
  ⟨h.closed, h.unnumbered⟩

theorem Lexer.indices_quiet_append {s : String} (h : Quiet s) {t : List Char} (bounded : Bounded t) :
    indices (s.toList ++ t) = indices t := by
  rw [indices_append h.1 bounded, h.2.indices_eq_nil, List.nil_append]

/-! ## Clauses -/

namespace Condition

/-- Raw text in a condition is closed. -/
def ClosedRaw : Condition → Prop
  | .raw fragment _ => ∃ text, fragment = Fragment.ofText text ∧ Closed text.toList
  | _ => True

/-- Raw text is closed, and a property is no placeholder. -/
structure Sound (k : Condition) : Prop where
  raw : k.ClosedRaw
  property : ∀ property test value, k = .comparison property test value → Quiet property

theorem inert_test (test : Comparison) : Inert (" " ++ test.toText ++ " ").toList := by
  rcases test with ⟨⟨⟩⟩ | ⟨⟨⟩, ⟨⟩⟩ <;> decide

theorem inert_constant (truth : Bool) : Inert (if truth then trueText else falseText).toList := by
  cases truth <;> decide

theorem closed_numeral (n : Nat) : Closed ('$' :: Nat.toDigits 10 n) := by
  refine (closed_cons (by decide)).2 (Standing.after_outside fun c member => ?_)
  exact isQuote_of_isDigit (isDigit_toDigits n c member)

theorem toList_comparison (property : String) (test : Comparison) (value : Value) (offset : Nat) :
    ((Condition.comparison property test value).fragment.shift offset).toText.toList =
      property.toList ++ ((" " ++ test.toText ++ " ").toList
        ++ '$' :: Nat.toDigits 10 (Token.shiftIndex 0 offset).toNat) := by
  simp [fragment, Fragment.shift, Fragment.toText, Token.shift, Token.toText, String.join_cons]

theorem closed_and_indices {k : Condition} (h : k.Sound) (offset : Nat) :
    Closed (k.fragment.shift offset).toText.toList ∧
      indices (k.fragment.shift offset).toText.toList =
        k.fragment.placeholders.map (Token.shiftIndex · offset) := by
  cases k with
  | comparison property test value =>
      have quiet := h.property property test value rfl
      have inert := inert_test test
      have bounded : Bounded ((" " ++ test.toText ++ " ").toList
          ++ '$' :: Nat.toDigits 10 (Token.shiftIndex 0 offset).toNat) := by
        simp [Bounded, String.toList_append]
      have read := placeholder?_numeral (Token.shiftIndex 0 offset) (bounded_iff.2 List.takeWhile_nil)
      rw [List.append_nil] at read
      rw [toList_comparison]
      refine ⟨quiet.1.append (inert.closed.append (closed_numeral _)), ?_⟩
      rw [indices_quiet_append quiet bounded, indices_inert_append inert, indices_placeholder read,
        indices_nil]
      rfl
  | constant truth =>
      have inert := inert_constant truth
      have text : ((Condition.constant truth).fragment.shift offset).toText.toList =
          (if truth then trueText else falseText).toList := by
        simp [fragment, Fragment.shift, Fragment.toText, Token.shift, Token.toText, String.join_cons]
      rw [text]
      exact ⟨inert.closed, inert.unnumbered.indices_eq_nil⟩
  | raw fragment values =>
      obtain ⟨text, rfl, closed⟩ := h.raw
      rw [Condition.fragment, toList_toText_shift_ofText]
      exact ⟨closed_renumber closed offset, indices_renumber offset text.toList⟩

end Condition

/-! ## Pieces -/

theorem Piece.inert_toText {p : Piece} (h : p.fragment? = none) (spacing : Spacing) :
    Inert (p.toText spacing).toList ∧ Bounded (p.toText spacing).toList := by
  cases p with
  | fragment => cases h
  | connective k =>
      cases k <;> cases spacing <;> exact ⟨by decide, by simp [Bounded, toText, String.toList_append]⟩
  | opening | negation | closing => cases spacing <;> exact ⟨by decide, by simp [Bounded, toText]⟩

namespace Chain

/-- The characters of pieces in a spacing. -/
def charsOf (spacing : Spacing) (pieces : List Piece) : List Char :=
  pieces.flatMap fun p => (p.toText spacing).toList

theorem toList_textOf (spacing : Spacing) (pieces : List Piece) :
    (textOf spacing pieces).toList = charsOf spacing pieces := by
  simp [textOf, charsOf, String.toList_join, List.flatMap_map]

theorem inert_charsOf (spacing : Spacing) {pieces : List Piece}
    (marks : pieces.filterMap Piece.fragment? = []) :
    Inert (charsOf spacing pieces) ∧ Bounded (charsOf spacing pieces) := by
  rw [List.filterMap_eq_nil_iff] at marks
  induction pieces with
  | nil => exact ⟨by simp [Inert, charsOf], by simp [Bounded, charsOf]⟩
  | cons p rest ih =>
      obtain ⟨inert, bounded⟩ := p.inert_toText (marks p List.mem_cons_self) spacing
      obtain ⟨later, bounded'⟩ := ih fun q member => marks q (List.mem_cons_of_mem p member)
      exact ⟨inert.append later, bounded.append bounded'⟩

theorem bounded_piecesFrom (c : Chain) {index : Nat} (inner : index ≠ 0) (offset : Nat)
    (clauses : List Clause) (spacing : Spacing) :
    Bounded (charsOf spacing (c.piecesFrom index offset clauses)) := by
  cases clauses with
  | nil => simp [Bounded, charsOf, piecesFrom]
  | cons clause rest =>
      simp [Bounded, charsOf, piecesFrom, inner, Piece.toText, String.toList_append]

variable {c : Chain}

/-- The placeholders that the clauses ask for, counted from the values in front of each. -/
def placeholders (c : Chain) : List UInt64 :=
  c.clauses.zipIdx.flatMap fun x =>
    x.1.condition.fragment.placeholders.map (Token.shiftIndex · (c.offset x.2))

theorem indices_piecesFrom (sound : ∀ clause ∈ c.clauses, clause.condition.Sound) {tail : List Char}
    (bounded : Bounded tail) (spacing : Spacing) (front clauses : List Clause)
    (split : c.clauses = front ++ clauses) :
    indices (charsOf spacing (c.piecesFrom front.length (front.flatMap Clause.values).length clauses)
        ++ tail) =
      ((clauses.zipIdx front.length).flatMap fun x =>
        x.1.condition.fragment.placeholders.map (Token.shiftIndex · (c.offset x.2))) ++ indices tail := by
  induction clauses generalizing front with
  | nil => simp [piecesFrom, charsOf]
  | cons clause rest ih =>
      have here : c.offset front.length = (front.flatMap Clause.values).length := by
        simp [offset, split]
      have next : c.clauses = (front ++ [clause]) ++ rest := by simp [split]
      have later := ih (front ++ [clause]) next
      obtain ⟨closed, own⟩ := Condition.closed_and_indices
        (sound clause (by simp [split])) (front.flatMap Clause.values).length
      obtain ⟨before, -⟩ := inert_charsOf spacing (fragments_frontAt c front.length clause)
      obtain ⟨behind, ends⟩ := inert_charsOf spacing (fragments_trailingAt c front.length)
      have joins := bounded_piecesFrom c (Nat.succ_ne_zero front.length)
        ((front.flatMap Clause.values).length + clause.values.length) rest spacing
      have laid : charsOf spacing (c.piecesFrom front.length (front.flatMap Clause.values).length
            (clause :: rest)) ++ tail =
          charsOf spacing (c.frontAt front.length clause)
            ++ ((clause.condition.fragment.shift (front.flatMap Clause.values).length).toText.toList
              ++ (charsOf spacing (c.trailingAt front.length)
                ++ (charsOf spacing (c.piecesFrom (front.length + 1)
                  ((front.flatMap Clause.values).length + clause.values.length) rest) ++ tail))) := by
        rw [piecesFrom_cons]
        simp [charsOf, Piece.toText, Clause.fragmentAt]
      simp only [List.length_append, List.length_singleton, List.flatMap_append,
        List.flatMap_singleton] at later
      rw [laid, indices_inert_append before,
        indices_append closed (ends.append (joins.append bounded)), indices_inert_append behind, later,
        own, List.zipIdx_cons, List.flatMap_cons, here, List.append_assoc]

theorem indices_filterText (sound : ∀ clause ∈ c.clauses, clause.condition.Sound) {tail : List Char}
    (bounded : Bounded tail) (spacing : Spacing) :
    indices ((c.filterText spacing).toList ++ tail) = c.placeholders ++ indices tail := by
  by_cases none : c.clauses = []
  · have inert : Inert Condition.trueText.toList := by decide
    simp [filterText, none, placeholders, indices_inert_append inert]
  · rw [filterText_eq_textOf none, toList_textOf]
    exact indices_piecesFrom sound bounded spacing [] c.clauses rfl

/-! ## The clauses behind the filter -/

theorem indices_intercalate {properties : List String} (quiet : ∀ p ∈ properties, Quiet p)
    {tail : List Char} (bounded : Bounded tail) :
    indices ((String.intercalate "," properties).toList ++ tail) = indices tail := by
  rw [String.toList_intercalate]
  induction properties with
  | nil => simp
  | cons property rest ih =>
      have here := quiet property List.mem_cons_self
      have others : ∀ p ∈ rest, Quiet p := fun p member => quiet p (List.mem_cons_of_mem property member)
      cases rest with
      | nil => simpa using indices_quiet_append here bounded
      | cons second rest =>
          have comma : Inert ",".toList := by decide
          have joined : ",".toList.intercalate ((property :: second :: rest).map String.toList) ++ tail =
              property.toList ++ (",".toList
                ++ (",".toList.intercalate ((second :: rest).map String.toList) ++ tail)) := by
            simp [List.intercalate_cons_cons]
          rw [joined, indices_quiet_append here (by simp [Bounded]), indices_inert_append comma]
          exact ih others

theorem inert_limitText (c : Chain) : Inert c.limitText.toList ∧ Bounded c.limitText.toList := by
  cases limit : c.limit with
  | none => exact ⟨by simp [limitText, limit, Inert], by simp [limitText, limit, Bounded]⟩
  | some n =>
      have text : c.limitText.toList = " LIMIT(".toList ++ (Nat.toDigits 10 n.toNat ++ ")".toList) := by
        simp [limitText, limit, String.toList_append]
      have number : Inert (Nat.toDigits 10 n.toNat) := by
        intro d member
        have digit := isDigit_toDigits n.toNat d member
        refine ⟨?_, isQuote_of_isDigit digit⟩
        rintro rfl
        cases digit
      rw [text]
      exact ⟨Inert.append (by decide) (number.append (by decide)), by simp [Bounded]⟩

/-- The `DISTINCT` and `LIMIT` clauses have no placeholder, and do not begin with a digit. -/
theorem indices_tail (quiet : ∀ p ∈ c.distinct, Quiet p) :
    indices (c.distinctText.toList ++ c.limitText.toList) = [] ∧
      Bounded (c.distinctText.toList ++ c.limitText.toList) := by
  obtain ⟨inert, bounded⟩ := c.inert_limitText
  have nothing := inert.unnumbered.indices_eq_nil
  by_cases none : c.distinct = []
  · simpa [distinctText, none] using ⟨nothing, bounded⟩
  · have text : c.distinctText.toList ++ c.limitText.toList =
        " DISTINCT(".toList ++ ((String.intercalate "," c.distinct).toList
          ++ (")".toList ++ c.limitText.toList)) := by
      simp [distinctText, none, String.toList_append]
    have opens : Inert " DISTINCT(".toList := by decide
    have closes : Inert ")".toList := by decide
    rw [text]
    refine ⟨?_, by simp [Bounded]⟩
    rw [indices_inert_append opens, indices_intercalate quiet (by simp [Bounded]),
      indices_inert_append closes, nothing]

/-! ## Chains -/

theorem condition_of_mem_withFirst {k : Connective} {clauses : List Clause} {clause : Clause}
    (member : clause ∈ withFirst k clauses) : ∃ other ∈ clauses, other.condition = clause.condition := by
  cases clauses with
  | nil => cases member
  | cons first rest =>
      rcases List.mem_cons.1 member with rfl | later
      · exact ⟨first, List.mem_cons_self, rfl⟩
      · exact ⟨clause, List.mem_cons_of_mem first later, rfl⟩

end Chain

theorem Call.ClosedRaw.of_mem_steps {call : Call} (closed : call.ClosedRaw) {k : Condition}
    (member : .append k ∈ call.steps) : k.ClosedRaw := by
  cases k with
  | comparison | constant => trivial
  | raw fragment values =>
      cases call with
      | raw text =>
          simp only [steps, List.mem_singleton, Step.append.injEq, Condition.raw.injEq] at member
          exact ⟨text, member.1, closed⟩
      | among property values =>
          cases values with
          | nil => simp [steps] at member
          | cons first rest => simp [steps, Step.equal, Step.orEqual] at member
      | _ => simp [steps] at member

namespace Chain

theorem Built.closedRaw {c : Chain} (built : c.Built Call.ClosedRaw) :
    ∀ clause ∈ c.clauses, clause.condition.ClosedRaw := by
  refine built.keep (P := fun c => ∀ clause ∈ c.clauses, clause.condition.ClosedRaw) ?_ ?_ ?_
  · intro clause none
    cases none
  · intro policy c call s closed member before _
    cases s with
    | append k =>
        intro clause here
        rcases List.mem_append.1 here with old | new
        · exact before clause old
        · obtain rfl := List.mem_singleton.1 new
          exact closed.of_mem_steps member
    | connect | negate | openGroup | closeGroup | distinct | limit => exact before
  · intro c m hc hm clause member
    rcases List.mem_append.1 member with front | back
    · exact hc clause front
    · obtain ⟨other, received, same⟩ := condition_of_mem_withFirst back
      rw [← same]
      exact hm other received

/-- The text that is rendered is read as the placeholders of the clauses, each raised by the
    number of the values in front. -/
theorem placeholders_read_back {c : Chain} (built : c.Built Call.ClosedRaw)
    (properties : ∀ clause ∈ c.clauses, ∀ property test value,
      clause.condition = .comparison property test value → Quiet property)
    (distinct : ∀ property ∈ c.distinct, Quiet property) (spacing : Spacing) :
    (Fragment.ofText (c.render spacing).expression).placeholders = c.placeholders := by
  have sound : ∀ clause ∈ c.clauses, clause.condition.Sound := fun clause member =>
    ⟨built.closedRaw clause member, properties clause member⟩
  obtain ⟨nothing, bounded⟩ := indices_tail distinct
  have parts : (c.render spacing).expression.toList =
      (c.filterText spacing).toList ++ (c.distinctText.toList ++ c.limitText.toList) := by
    simp [render, String.toList_append]
  have read : (Fragment.ofText (c.render spacing).expression).placeholders =
      indices (c.render spacing).expression.toList := rfl
  rw [read, parts, indices_filterText sound bounded, nothing, List.append_nil]

/-- A literal hides its `$5`, and neither a `$` by itself nor a number that is too large is a
    placeholder. -/
theorem placeholders_read_back_merged :
    ∃ m c,
      run .lenient {} [.closeGroup, .compare "name" (.matching .equal false) (.string "$7"),
        .connect .or, .raw "x = '$5' and y = $1 or $ $18446744073709551616" [.null, .null]] = .ok m ∧
      run .strict {} [.negate, .compare "age" (.order .greaterOrEqual) (.integer 18),
        .distinct ["city", "state"], .limit 10, .merge m] = .ok c ∧
      (Fragment.ofText (c.render .compact).expression).placeholders = [0, 1, 3] := by
  have received : Built Call.ClosedRaw _ := Built.new.run .lenient
    [.closeGroup, .compare "name" (.matching .equal false) (.string "$7"),
      .connect .or, .raw "x = '$5' and y = $1 or $ $18446744073709551616" [.null, .null]]
    (by simp [Call.ClosedRaw]; decide) (by simp) rfl
  have built : Built Call.ClosedRaw _ := Built.new.run .strict
    [.negate, .compare "age" (.order .greaterOrEqual) (.integer 18),
      .distinct ["city", "state"], .limit 10, .merge _]
    (by simp [Call.ClosedRaw]) (by simpa using received) rfl
  refine ⟨_, _, rfl, rfl, ?_⟩
  rw [placeholders_read_back built ?_ ?_]
  · decide +kernel
  · intro clause member property test value kind
    simp only [Chain.compare, merge, append, negate, closeGroup, withFirst, connect, addDistinct,
      setLimit, List.nil_append, List.cons_append, List.mem_cons, List.not_mem_nil, or_false] at member
    rcases member with rfl | rfl | rfl
    · cases kind
      exact Inert.quiet (by decide)
    · cases kind
      exact Inert.quiet (by decide)
    · cases kind
  · intro property member
    simp only [Chain.compare, merge, append, negate, closeGroup, connect, addDistinct, setLimit,
      List.nil_append, List.append_nil, List.mem_cons, List.not_mem_nil, or_false] at member
    rcases member with rfl | rfl
    · exact Inert.quiet (by decide)
    · exact Inert.quiet (by decide)

end Chain

end FilterQuery
