import Mathlib.Data.List.Chain
import FilterQuery.Proofs.Fragment.Reading

/-! # The lexer as an automaton

A text can be read in one pass: what a character means depends on where the reader stands, and
only outside the literals does a `$` look ahead, at the digits that follow it. The lexer, which
takes literals and stretches of text as wholes, finds the same tokens. They account for every
character of the text, in its order.
-/

namespace FilterQuery.Lexer

/-! ## The automaton -/

/-- What a character of the text is, or a `$` together with its digits. -/
inductive Mark where
  | char (c : Char)
  | number (digits : List Char)
  deriving Repr, DecidableEq

/-- The characters that were marked. -/
def Mark.source : Mark → List Char
  | char c => [c]
  | number digits => '$' :: digits

/-- The digits, if there are any, are the number of a placeholder. -/
def InRange (digits : List Char) : Prop :=
  digits ≠ [] ∧ Text.decimalValue digits < UInt64.size

instance (digits : List Char) : Decidable (InRange digits) :=
  inferInstanceAs (Decidable (_ ∧ _))

/-- Reads a text from left to right. Outside the literals a `$` is read together with all digits
    behind it: they are a placeholder, or else all of them are text. -/
def Standing.scan : Standing → List Char → List Mark
  | _, [] => []
  | outside, '$' :: rest =>
      let digits := rest.takeWhile Char.isDigit
      let later := outside.scan (rest.dropWhile Char.isDigit)
      if InRange digits then .number digits :: later else ('$' :: digits).map .char ++ later
  | s, c :: rest => .char c :: (s.next c).scan rest
termination_by _ text => text.length
decreasing_by
  · exact Nat.lt_succ_of_le (List.dropWhile_suffix _).length_le
  · exact Nat.lt_succ_self _

/-- A token as it stands in the text: a run of text, or a `$` and the digits behind it. -/
inductive Lexeme where
  | text (run : List Char)
  | placeholder (digits : List Char)
  deriving Repr, DecidableEq

namespace Lexeme

/-- The characters that the token was read from. -/
def source : Lexeme → List Char
  | text run => run
  | placeholder digits => '$' :: digits

def token : Lexeme → Token
  | text run => .text (String.ofList run)
  | placeholder digits => .placeholder (UInt64.ofNat (Text.decimalValue digits))

def isText : Lexeme → Bool
  | text _ => true
  | placeholder _ => false

/-- A run of text is not empty; the digits of a placeholder are digits, and its number exists. -/
def WellFormed : Lexeme → Prop
  | text run => run ≠ []
  | placeholder digits => InRange digits ∧ ∀ c ∈ digits, c.isDigit = true

end Lexeme

/-- Gathers the characters between placeholders into runs, as long as they can be. -/
def gather : List Mark → List Lexeme
  | [] => []
  | .number digits :: rest => .placeholder digits :: gather rest
  | .char c :: rest =>
      match gather rest with
      | .text run :: later => .text (c :: run) :: later
      | later => .text [c] :: later

/-- What the automaton reads in a text. -/
def scanned (s : List Char) : List Lexeme :=
  gather (Standing.outside.scan s)

/-! ## Steps of the automaton -/

theorem scan_cons {s : Standing} {c : Char} (h : s = .outside → c ≠ '$') (rest : List Char) :
    s.scan (c :: rest) = .char c :: (s.next c).scan rest := by
  rw [Standing.scan]
  rintro rfl rfl
  exact h rfl rfl

theorem scan_digits {digits : List Char} (only : ∀ c ∈ digits, c.isDigit = true) (rest : List Char) :
    Standing.outside.scan (digits ++ rest) = digits.map .char ++ Standing.outside.scan rest := by
  induction digits with
  | nil => rfl
  | cons c more ih =>
      have digit := only c List.mem_cons_self
      have other : c ≠ '$' := by
        rintro rfl
        cases digit
      have stay : Standing.outside.next c = .outside := by
        simp [Standing.next, isQuote_of_isDigit digit]
      rw [List.cons_append, scan_cons (fun _ => other), stay,
        ih fun d member => only d (List.mem_cons_of_mem c member)]
      rfl

theorem scan_placeholder {s rest : List Char} {n : UInt64} (h : placeholder? s = some (n, rest)) :
    ∃ digits, Standing.outside.scan s = .number digits :: Standing.outside.scan rest ∧
      Text.decimalValue digits = n.toNat := by
  obtain ⟨digits, rfl, only, some, bounded, value⟩ := eq_of_placeholder? h
  have fits : InRange digits := ⟨some, value ▸ n.toNat_lt_size⟩
  refine ⟨digits, ?_, value⟩
  rw [Standing.scan]
  simp only [takeWhile_digits only bounded, dropWhile_digits only bounded, fits, if_true]

theorem scan_plain {c : Char} {rest : List Char} (h : placeholder? (c :: rest) = none)
    (plain : isQuote c = false) :
    Standing.outside.scan (c :: rest) = .char c :: Standing.outside.scan rest := by
  by_cases sign : c = '$'
  · subst sign
    have large : ¬InRange (rest.takeWhile Char.isDigit) := by
      intro fits
      have small : Text.decimalValue (rest.takeWhile Char.isDigit) ≤ Token.maxIndex :=
        Nat.le_pred_of_lt fits.2
      simp [placeholder?, index?, fits.1, small] at h
    have whole := scan_digits (List.all_eq_true.1 (List.all_takeWhile (l := rest)))
      (rest.dropWhile Char.isDigit)
    rw [List.takeWhile_append_dropWhile] at whole
    rw [Standing.scan, whole]
    simp only [large, if_false, List.map_cons, List.cons_append]
  · rw [scan_cons (fun _ => sign), Standing.next, plain]
    rfl

/-- The automaton passes through a literal character by character, up to where it ends. -/
theorem scan_inside {quote : Char} (ne : quote ≠ '\\') (s : List Char) :
    (Standing.inside quote).scan s =
      (splitQuoted quote s).1.map .char ++ Standing.outside.scan (splitQuoted quote s).2 := by
  have leave : (Standing.inside quote).next quote = .outside := by simp [Standing.next, ne]
  fun_induction splitQuoted quote s with
  | case1 => simp [Standing.scan]
  | case2 c rest literal after split ih =>
      have protect : (Standing.inside quote).next '\\' = .escaped quote := by simp [Standing.next]
      rw [scan_cons (s := .inside quote) (by simp), protect,
        scan_cons (s := .escaped quote) (by simp)]
      simpa [split, Standing.next] using ih
  | case3 rest _ =>
      rw [scan_cons (s := .inside quote) (by simp), leave]
      rfl
  | case4 c rest single other literal after split ih =>
      rw [scan_cons (s := .inside quote) (by simp)]
      by_cases escape : c = '\\'
      · -- a backslash that protects nothing: the text ends here
        cases rest with
        | nil =>
            cases split
            simp [Standing.scan]
        | cons d more => exact absurd rfl (single d more escape)
      · simpa [split, Standing.next, escape, other] using ih

theorem scan_quoted {quote : Char} (h : isQuote quote = true) (rest : List Char) :
    Standing.outside.scan (quote :: rest) =
      (quote :: (splitQuoted quote rest).1).map .char ++
        Standing.outside.scan (splitQuoted quote rest).2 := by
  have inside : Standing.outside.next quote = .inside quote := by simp [Standing.next, h]
  rw [scan_cons (fun _ => ne_sign_of_isQuote h), inside, scan_inside (ne_backslash_of_isQuote h)]
  rfl

/-! ## Runs of text -/

theorem pushText_pushText {front back : List Char} (ts : List Token) :
    pushText front (pushText back ts) = pushText (front ++ back) ts := by
  cases ts with
  | nil => simp [pushText, String.ofList_append]
  | cons t rest => cases t <;> simp [pushText, String.ofList_append, String.append_assoc]

theorem map_token_gather_char (c : Char) (marks : List Mark) :
    (gather (.char c :: marks)).map Lexeme.token = pushText [c] ((gather marks).map Lexeme.token) := by
  rw [gather]
  cases gather marks with
  | nil => rfl
  | cons first later =>
      cases first with
      | text run => simp [pushText, Lexeme.token]
      | placeholder digits => rfl

theorem map_token_gather (c : Char) (run : List Char) (marks : List Mark) :
    (gather ((c :: run).map .char ++ marks)).map Lexeme.token =
      pushText (c :: run) ((gather marks).map Lexeme.token) := by
  induction run generalizing c with
  | nil => exact map_token_gather_char c marks
  | cons d more ih =>
      rw [List.map_cons, List.cons_append, map_token_gather_char, ih d, pushText_pushText]
      rfl

theorem tokens_eq_map_scanned (s : List Char) : tokens s = (scanned s).map Lexeme.token := by
  induction s using reading with
  | nil => simp [tokens_nil, scanned, Standing.scan, gather]
  | placeholder found ih =>
      obtain ⟨digits, step, value⟩ := scan_placeholder found
      rw [tokens_placeholder found, ih, scanned, scanned, step, gather, List.map_cons, Lexeme.token,
        value, UInt64.ofNat_toNat]
  | @quoted quote rest sign ih =>
      rw [tokens_quoted sign, ih, scanned, scanned, scan_quoted sign, map_token_gather]
  | @plain c rest none plain ih =>
      rw [tokens_plain none plain, ih, scanned, scanned, scan_plain none plain, map_token_gather_char]

/-! ## Nothing is lost -/

theorem flatMap_source_scan (s : Standing) (text : List Char) :
    (s.scan text).flatMap Mark.source = text := by
  have single (run : List Char) : (run.map Mark.char).flatMap Mark.source = run := by
    simp [List.flatMap_map, Mark.source]
  fun_induction Standing.scan s text with
  | case1 => rfl
  | case2 rest digits later fits ih =>
      simp only [List.flatMap_cons, Mark.source, List.cons_append, later, digits, ih]
      rw [List.takeWhile_append_dropWhile]
  | case3 rest digits later large ih =>
      simp only [List.flatMap_append, single, List.cons_append, later, digits, ih]
      rw [List.takeWhile_append_dropWhile]
  | case4 s c rest _ ih => simp [Mark.source, ih]

theorem flatMap_source_gather (marks : List Mark) :
    (gather marks).flatMap Lexeme.source = marks.flatMap Mark.source := by
  fun_induction gather marks with
  | case1 => rfl
  | case2 digits rest ih => simp [Lexeme.source, Mark.source, ih]
  | case3 c rest run later split ih => simp_all [Lexeme.source, Mark.source]
  | case4 c rest later ih => simp [Lexeme.source, Mark.source, ih]

/-! ## Runs are as long as they can be -/

/-- Of two tokens next to each other, one is a placeholder. -/
def Parted (a b : Lexeme) : Prop :=
  a.isText = false ∨ b.isText = false

theorem isChain_gather (marks : List Mark) : (gather marks).IsChain Parted := by
  fun_induction gather marks with
  | case1 => exact .nil
  | case2 digits rest ih => exact List.isChain_cons.2 ⟨fun _ _ => .inl rfl, ih⟩
  | case3 c rest run later split ih =>
      -- the run in front has grown, and what follows it has not changed
      rw [split] at ih
      obtain ⟨next, after⟩ := List.isChain_cons.1 ih
      exact List.isChain_cons.2 ⟨next, after⟩
  | case4 c rest none ih =>
      refine List.isChain_cons.2 ⟨fun lexeme first => .inr ?_, ih⟩
      obtain ⟨later, whole⟩ := List.head?_eq_some_iff.1 first
      cases lexeme with
      | text run => exact absurd whole (none run later)
      | placeholder digits => rfl

theorem wellFormed_gather {marks : List Mark}
    (numbers : ∀ digits, .number digits ∈ marks → (Lexeme.placeholder digits).WellFormed) :
    ∀ lexeme ∈ gather marks, lexeme.WellFormed := by
  fun_induction gather marks with
  | case1 => nofun
  | case2 digits rest ih =>
      simp only [List.mem_cons, forall_eq_or_imp]
      exact ⟨numbers digits List.mem_cons_self,
        ih fun other member => numbers other (List.mem_cons_of_mem _ member)⟩
  | case3 c rest run later split ih =>
      have inner := ih fun other member => numbers other (List.mem_cons_of_mem _ member)
      simp only [split, List.mem_cons, forall_eq_or_imp] at inner ⊢
      exact ⟨List.cons_ne_nil c run, inner.2⟩
  | case4 c rest none ih =>
      simp only [List.mem_cons, forall_eq_or_imp]
      exact ⟨List.cons_ne_nil c [], ih fun other member => numbers other (List.mem_cons_of_mem _ member)⟩

theorem wellFormed_number (s : Standing) (text : List Char) :
    ∀ digits, .number digits ∈ s.scan text → (Lexeme.placeholder digits).WellFormed := by
  fun_induction Standing.scan s text with
  | case1 => nofun
  | case2 rest digits later fits ih =>
      rintro found (_ | ⟨_, member⟩)
      · exact ⟨fits, List.all_eq_true.1 List.all_takeWhile⟩
      · exact ih found member
  | case3 rest digits later large ih =>
      intro found member
      rcases List.mem_append.1 member with front | behind
      · simp at front
      · exact ih found behind
  | case4 s c rest _ ih =>
      rintro found (_ | ⟨_, member⟩)
      exact ih found member

/-- The tokens of a text are those that the automaton reads. Put together again, the characters
    they were read from are the text; every run of text reaches from one placeholder to the next,
    and every placeholder has a number that its digits spell. -/
theorem tokens_ofText_eq_scanned (s : String) :
    (Fragment.ofText s).tokens = (scanned s.toList).map Lexeme.token ∧
    (scanned s.toList).flatMap Lexeme.source = s.toList ∧
    (scanned s.toList).IsChain Parted ∧
    ∀ lexeme ∈ scanned s.toList, lexeme.WellFormed := by
  refine ⟨tokens_eq_map_scanned s.toList, ?_, isChain_gather _, ?_⟩
  · rw [scanned, flatMap_source_gather, flatMap_source_scan]
  · exact wellFormed_gather (wellFormed_number .outside s.toList)

/-- Quotes behind a backslash and of the other kind, a number with leading zeros, one that is too
    large, and a literal that is not closed and ends in a backslash. -/
theorem tokens_ofText_eq_scanned_awkward :
    ∃ s : String, s = "'\\'\"$1'$007$$99999999999999999999\"$2\\" ∧
      scanned s.toList = [.text "'\\'\"$1'".toList, .placeholder ['0', '0', '7'],
        .text "$$99999999999999999999\"$2\\".toList] ∧
      (Fragment.ofText s).tokens =
        [.text "'\\'\"$1'", .placeholder 7, .text "$$99999999999999999999\"$2\\"] ∧
      (Lexeme.placeholder ['0', '0', '7']).WellFormed := by
  refine ⟨_, rfl, ?_⟩
  obtain ⟨same, -, -, formed⟩ :=
    tokens_ofText_eq_scanned "'\\'\"$1'$007$$99999999999999999999\"$2\\"
  have read : scanned "'\\'\"$1'$007$$99999999999999999999\"$2\\".toList =
      [.text "'\\'\"$1'".toList, .placeholder ['0', '0', '7'],
        .text "$$99999999999999999999\"$2\\".toList] := by decide +kernel
  refine ⟨read, ?_, ?_⟩
  · rw [same, read]
    decide
  · refine formed _ ?_
    rw [read]
    exact List.mem_cons_of_mem _ List.mem_cons_self

end FilterQuery.Lexer
