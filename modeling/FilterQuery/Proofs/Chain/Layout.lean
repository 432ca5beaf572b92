import FilterQuery.Predicate
import FilterQuery.Proofs.Chain.Step

/-! # Layouts

A filter is laid out clause by clause: its connective and the marks anchored to its index in
front of a clause, the marks that follow it behind. Nothing here depends on what the marks
are, so the pieces of a predicate can be laid out with or without knowing their groups. The
row grows only at its end, whatever is recorded: that is what lets a filter be read, or
written, in the order of the calls.
-/

namespace FilterQuery

/-- The symbols that a filter is laid out in: besides marks, connectives and fragments. -/
class Alphabet (σ : Type) where
  connective : Connective → σ
  fragment : Fragment → σ

instance : Alphabet Piece where
  connective := .connective
  fragment := .fragment

/-- Clauses, and the marks in front of them and behind them with the indices of the clauses. -/
structure Layout (σ : Type) where
  clauses : List Clause := []
  leading : List (Nat × σ) := []
  trailing : List (Nat × σ) := []

/-- The marks at one clause, in the order in which they were made. -/
def marksAt {σ : Type} (marks : List (Nat × σ)) (index : Nat) : List σ :=
  (marks.filter (·.1 = index)).map (·.2)

namespace Layout

variable {σ : Type}

def rowFrom [Alphabet σ] (leading trailing : List (Nat × σ)) (index offset : Nat) :
    List Clause → List σ
  | [] => []
  | clause :: rest =>
      (if index = 0 then [] else [Alphabet.connective clause.connective])
        ++ marksAt leading index
        ++ Alphabet.fragment (clause.fragmentAt offset) :: marksAt trailing index
        ++ rowFrom leading trailing (index + 1) (offset + clause.values.length) rest

def row [Alphabet σ] (l : Layout σ) : List σ :=
  rowFrom l.leading l.trailing 0 0 l.clauses

def size (l : Layout σ) : Nat :=
  l.clauses.length

def offset (l : Layout σ) : Nat :=
  (l.clauses.flatMap Clause.values).length

/-- The marks that wait for the next clause. -/
def waiting (l : Layout σ) : List σ :=
  marksAt l.leading l.size

/-- What joins the next clause: nothing if it is the first. -/
def joint [Alphabet σ] (l : Layout σ) (pending : Connective) : List σ :=
  if l.clauses.isEmpty then [] else [Alphabet.connective pending]

def append (l : Layout σ) (pending : Connective) (condition : Condition) : Layout σ :=
  { l with clauses := l.clauses ++ [⟨pending, condition⟩] }

/-- A mark in front of the next clause. -/
def lead (l : Layout σ) (mark : σ) : Layout σ :=
  { l with leading := l.leading ++ [(l.size, mark)] }

def trail (l : Layout σ) (mark : σ) : Layout σ :=
  { l with trailing := l.trailing ++ [(l.size - 1, mark)] }

/-- Another layout behind this one, its symbols rewritten by `f`. -/
def splice (l : Layout σ) (pending : Connective) (f : σ → σ) (received : Layout σ) : Layout σ where
  clauses := l.clauses ++ Chain.withFirst pending received.clauses
  leading := l.leading ++ received.leading.map fun mark => (mark.1 + l.size, f mark.2)
  trailing := l.trailing ++ received.trailing.map fun mark => (mark.1 + l.size, f mark.2)

def map {τ : Type} (g : σ → τ) (l : Layout σ) : Layout τ where
  clauses := l.clauses
  leading := l.leading.map fun mark => (mark.1, g mark.2)
  trailing := l.trailing.map fun mark => (mark.1, g mark.2)

/-- Marks stand in front of a clause or of the next one, and behind clauses that exist. -/
structure Anchored (l : Layout σ) : Prop where
  leading : ∀ mark ∈ l.leading, mark.1 ≤ l.size
  trailing : ∀ mark ∈ l.trailing, mark.1 < l.size

end Layout

/-! ## Marks at an index -/

section Marks

variable {σ τ : Type}

@[simp] theorem marksAt_append (first second : List (Nat × σ)) (index : Nat) :
    marksAt (first ++ second) index = marksAt first index ++ marksAt second index := by
  simp [marksAt]

@[simp] theorem marksAt_self (index : Nat) (mark : σ) : marksAt [(index, mark)] index = [mark] := by
  simp [marksAt]

theorem marksAt_eq_nil {marks : List (Nat × σ)} {index : Nat}
    (h : ∀ mark ∈ marks, mark.1 ≠ index) : marksAt marks index = [] := by
  simpa [marksAt] using h

theorem marksAt_map (g : σ → τ) (marks : List (Nat × σ)) (index : Nat) :
    marksAt (marks.map fun mark => (mark.1, g mark.2)) index = (marksAt marks index).map g := by
  simp [marksAt, List.filter_map, Function.comp_def]

theorem marksAt_moved (f : σ → σ) (marks : List (Nat × σ)) (base index : Nat) :
    marksAt (marks.map fun mark => (mark.1 + base, f mark.2)) (index + base) =
      (marksAt marks index).map f := by
  simp [marksAt, List.filter_map, Function.comp_def]

theorem marksAt_moved_of_lt (f : σ → σ) (marks : List (Nat × σ)) {base index : Nat}
    (h : index < base) : marksAt (marks.map fun mark => (mark.1 + base, f mark.2)) index = [] := by
  apply marksAt_eq_nil
  simp only [List.mem_map]
  rintro _ ⟨mark, _, rfl⟩
  simp only
  omega

/-- What is said of members and their places, but not of the places, is said of the members. -/
theorem map_zipIdx_of_fst {α β : Type} {f : α × Nat → β} {g : α → β} (h : ∀ x, f x = g x.1)
    (xs : List α) : xs.zipIdx.map f = xs.map g := by
  calc
    xs.zipIdx.map f = (xs.zipIdx.map Prod.fst).map g := by
      rw [List.map_map]
      exact List.map_congr_left fun x _ => h x
    _ = xs.map g := by rw [List.zipIdx_map_fst]

end Marks

namespace Clause

theorem shift_fragmentAt (clause : Clause) (offset more : Nat) :
    (clause.fragmentAt offset).shift more = clause.fragmentAt (offset + more) :=
  Fragment.shift_shift _ offset more

end Clause

namespace Layout

/-! ## Anchors -/

section Anchors

variable {σ : Type} {l m : Layout σ}

theorem waiting_append (h : l.Anchored) (pending : Connective) (condition : Condition) :
    (l.append pending condition).waiting = [] := by
  apply marksAt_eq_nil
  intro mark member
  have := h.leading mark member
  simp only [size, append, List.length_append, List.length_singleton] at this ⊢
  omega

theorem waiting_lead (l : Layout σ) (mark : σ) : (l.lead mark).waiting = l.waiting ++ [mark] := by
  change marksAt (l.leading ++ [(l.size, mark)]) l.size = _
  simp [waiting]

theorem Anchored.append (h : l.Anchored) (pending : Connective) (condition : Condition) :
    (l.append pending condition).Anchored := by
  have size_append : (l.append pending condition).size = l.size + 1 := by
    simp [Layout.append, size]
  constructor
  · intro mark member
    have := h.leading mark member
    omega
  · intro mark member
    have := h.trailing mark member
    omega

theorem Anchored.lead (h : l.Anchored) (mark : σ) : (l.lead mark).Anchored := by
  refine ⟨?_, h.trailing⟩
  simp only [Layout.lead, List.mem_append, List.mem_singleton]
  rintro other (member | rfl)
  · exact h.leading other member
  · exact Nat.le_refl _

theorem Anchored.trail (h : l.Anchored) (some : l.size ≠ 0) (mark : σ) :
    (l.trail mark).Anchored := by
  refine ⟨h.leading, ?_⟩
  simp only [Layout.trail, List.mem_append, List.mem_singleton]
  rintro other (member | rfl)
  · exact h.trailing other member
  · exact Nat.sub_one_lt some

theorem size_splice (l : Layout σ) (pending : Connective) (f : σ → σ) (m : Layout σ) :
    (l.splice pending f m).size = l.size + m.size := by
  simp [splice, size]

theorem Anchored.splice (h : l.Anchored) (received : m.Anchored) (pending : Connective)
    (f : σ → σ) : (l.splice pending f m).Anchored := by
  constructor
  · rw [size_splice]
    simp only [Layout.splice, List.mem_append, List.mem_map]
    rintro mark (member | ⟨inner, member, rfl⟩)
    · have := h.leading mark member
      omega
    · have := received.leading inner member
      simp only
      omega
  · rw [size_splice]
    simp only [Layout.splice, List.mem_append, List.mem_map]
    rintro mark (member | ⟨inner, member, rfl⟩)
    · have := h.trailing mark member
      omega
    · have := received.trailing inner member
      simp only
      omega

theorem waiting_splice (h : l.Anchored) (pending : Connective) (f : σ → σ) (m : Layout σ) :
    (l.splice pending f m).waiting =
      (if m.size = 0 then l.waiting else []) ++ m.waiting.map f := by
  have moved := marksAt_moved f m.leading l.size m.size
  rw [Nat.add_comm] at moved
  rw [waiting, size_splice]
  simp only [splice, marksAt_append, moved]
  by_cases none : m.size = 0
  · simp [none, waiting]
  · have before : marksAt l.leading (l.size + m.size) = [] := by
      apply marksAt_eq_nil
      intro mark member
      have := h.leading mark member
      omega
    simp [none, before, waiting]

end Anchors

/-! ## Rows -/

section Rows

variable {σ : Type} [Alphabet σ]

theorem rowFrom_append (leading trailing : List (Nat × σ)) (index offset : Nat)
    (first second : List Clause) :
    rowFrom leading trailing index offset (first ++ second) =
      rowFrom leading trailing index offset first
        ++ rowFrom leading trailing (index + first.length)
          (offset + (first.flatMap Clause.values).length) second := by
  induction first generalizing index offset with
  | nil => simp [rowFrom]
  | cons clause rest ih =>
      have position : index + 1 + rest.length = index + (rest.length + 1) := by omega
      simp [rowFrom, ih, position, Nat.add_assoc]

theorem rowFrom_congr {leading leading' trailing trailing' : List (Nat × σ)} {index offset : Nat}
    {clauses : List Clause}
    (h : ∀ k, index ≤ k → k < index + clauses.length →
      marksAt leading k = marksAt leading' k ∧ marksAt trailing k = marksAt trailing' k) :
    rowFrom leading trailing index offset clauses =
      rowFrom leading' trailing' index offset clauses := by
  induction clauses generalizing index offset with
  | nil => rfl
  | cons clause rest ih =>
      simp only [List.length_cons] at h
      obtain ⟨before, behind⟩ := h index (by omega) (by omega)
      have later : ∀ k, index + 1 ≤ k → k < index + 1 + rest.length →
          marksAt leading k = marksAt leading' k ∧ marksAt trailing k = marksAt trailing' k :=
        fun k above below => h k (by omega) (by omega)
      simp only [rowFrom, before, behind, ih later]

/-- What `f` does to symbols agrees with `more` values in front. -/
structure Shifts (f : σ → σ) (more : Nat) : Prop where
  connective : ∀ k, f (Alphabet.connective k) = Alphabet.connective k
  fragment : ∀ fragment, f (Alphabet.fragment fragment) = Alphabet.fragment (fragment.shift more)

/-- Behind `base` clauses, a row is the same row rewritten, if it is not the first clause's. -/
theorem rowFrom_moved {f : σ → σ} {more : Nat} (shifts : Shifts f more)
    {leading trailing : List (Nat × σ)} {base : Nat}
    (leadingFront : ∀ mark ∈ leading, mark.1 ≤ base) (trailingFront : ∀ mark ∈ trailing, mark.1 < base)
    (received received' : List (Nat × σ)) (index offset : Nat) (clauses : List Clause) :
    rowFrom (leading ++ received.map fun mark => (mark.1 + base, f mark.2))
        (trailing ++ received'.map fun mark => (mark.1 + base, f mark.2))
        (index + 1 + base) (offset + more) clauses =
      (rowFrom received received' (index + 1) offset clauses).map f := by
  induction clauses generalizing index offset with
  | nil => rfl
  | cons clause rest ih =>
      have before : marksAt leading (index + 1 + base) = [] := by
        apply marksAt_eq_nil
        intro mark member
        have := leadingFront mark member
        omega
      have behind : marksAt trailing (index + 1 + base) = [] := by
        apply marksAt_eq_nil
        intro mark member
        have := trailingFront mark member
        omega
      have position : index + 1 + base + 1 = index + 1 + 1 + base := by omega
      have bound : offset + more + clause.values.length = offset + clause.values.length + more := by
        omega
      have inner : index + 1 + base ≠ 0 := by omega
      simp only [rowFrom, marksAt_append, before, behind, marksAt_moved, List.nil_append, position,
        bound, ih, inner, Nat.succ_ne_zero, if_false, List.map_append, List.map_cons, List.map_nil,
        shifts.connective, shifts.fragment, Clause.shift_fragmentAt]

variable {l : Layout σ}

/-- A clause is written at the end, behind the marks that have waited for it. -/
theorem row_append (h : l.Anchored) (pending : Connective) (condition : Condition) :
    (l.append pending condition).row =
      l.row ++ l.joint pending ++ l.waiting
        ++ [Alphabet.fragment (condition.fragment.shift l.offset)] := by
  have behind : marksAt l.trailing l.size = [] := by
    apply marksAt_eq_nil
    intro mark member
    exact Nat.ne_of_lt (h.trailing mark member)
  have last : rowFrom l.leading l.trailing l.size l.offset [⟨pending, condition⟩] =
      l.joint pending ++ l.waiting
        ++ [Alphabet.fragment (condition.fragment.shift l.offset)] := by
    simpa [rowFrom, joint, waiting, size, Clause.fragmentAt] using behind
  calc
    (l.append pending condition).row =
        l.row ++ rowFrom l.leading l.trailing (0 + l.size) (0 + l.offset) [⟨pending, condition⟩] :=
      rowFrom_append _ _ _ _ _ _
    _ = l.row ++ l.joint pending ++ l.waiting
        ++ [Alphabet.fragment (condition.fragment.shift l.offset)] := by
      rw [Nat.zero_add, Nat.zero_add, last]
      simp only [List.append_assoc]

theorem row_lead (l : Layout σ) (mark : σ) : (l.lead mark).row = l.row := by
  apply rowFrom_congr
  intro k _ below
  have elsewhere : marksAt [(l.size, mark)] k = [] := by
    apply marksAt_eq_nil
    simp only [size, List.mem_singleton, forall_eq]
    simp only [lead] at below
    omega
  simp [lead, elsewhere]

/-- A `)` is written at the end: the last clause is the one it follows. -/
theorem row_trail (some : l.size ≠ 0) (mark : σ) : (l.trail mark).row = l.row ++ [mark] := by
  obtain ⟨front, last, split⟩ : ∃ front last, l.clauses = front ++ [last] :=
    ⟨_, _, (List.dropLast_concat_getLast (by simpa [size] using some)).symm⟩
  have position : l.size - 1 = front.length := by simp [size, split]
  have same : rowFrom l.leading (l.trailing ++ [(l.size - 1, mark)]) 0 0 front =
      rowFrom l.leading l.trailing 0 0 front := by
    apply rowFrom_congr
    intro k _ below
    have elsewhere : marksAt [(l.size - 1, mark)] k = [] := by
      apply marksAt_eq_nil
      simp only [List.mem_singleton, forall_eq]
      omega
    simp [elsewhere]
  rw [position] at same
  simp only [row, trail, split, position, rowFrom_append, same]
  simp [rowFrom]

theorem rowFrom_map {τ : Type} [Alphabet τ] {g : σ → τ}
    (connective : ∀ k, g (Alphabet.connective k) = Alphabet.connective k)
    (fragment : ∀ f, g (Alphabet.fragment f) = Alphabet.fragment f)
    (leading trailing : List (Nat × σ)) (index offset : Nat) (clauses : List Clause) :
    rowFrom (leading.map fun mark => (mark.1, g mark.2))
        (trailing.map fun mark => (mark.1, g mark.2)) index offset clauses =
      (rowFrom leading trailing index offset clauses).map g := by
  induction clauses generalizing index offset with
  | nil => rfl
  | cons clause rest ih =>
      by_cases first : index = 0 <;>
        simp [rowFrom, ih, marksAt_map, fragment, connective, first]

/-! ## Rows of spliced layouts -/

variable {f : σ → σ} {m : Layout σ}

theorem rowFrom_front (l : Layout σ) (pending : Connective) (f : σ → σ) (m : Layout σ) :
    rowFrom (l.splice pending f m).leading (l.splice pending f m).trailing 0 0 l.clauses = l.row := by
  apply rowFrom_congr
  intro k _ below
  have front : k < l.size := by simpa [size] using below
  simp [splice, marksAt_moved_of_lt f _ front]

/-- A row with clauses follows the base as its next clause would, and is rewritten throughout. -/
theorem row_splice (h : l.Anchored) (shifts : Shifts f l.offset) (some : m.clauses ≠ [])
    (pending : Connective) :
    (l.splice pending f m).row = l.row ++ l.joint pending ++ l.waiting ++ m.row.map f := by
  cases received : m.clauses with
  | nil => exact absurd received some
  | cons first rest =>
      have behind : marksAt l.trailing l.size = [] := by
        apply marksAt_eq_nil
        intro mark member
        exact Nat.ne_of_lt (h.trailing mark member)
      -- the first clause is laid out apart from the others: behind the seam it gets a connective
      have before := marksAt_moved f m.leading l.size 0
      have after := marksAt_moved f m.trailing l.size 0
      have later := rowFrom_moved shifts h.leading h.trailing m.leading m.trailing 0
        (0 + first.values.length) rest
      have values : Clause.values ⟨pending, first.condition⟩ = first.values := rfl
      have fragment : ∀ k, Clause.fragmentAt ⟨pending, first.condition⟩ k = first.fragmentAt k :=
        fun _ => rfl
      have moved : rowFrom (l.splice pending f m).leading (l.splice pending f m).trailing l.size
          l.offset (Chain.withFirst pending m.clauses) =
            l.joint pending ++ l.waiting ++ m.row.map f := by
        simp only [Nat.zero_add, Nat.add_comm 1, Nat.add_comm first.values.length]
          at before after later
        simp only [row, received, Chain.withFirst, rowFrom, splice, marksAt_append, before, after,
          behind, values, fragment, later, joint, waiting]
        simp [size, shifts.fragment, Clause.shift_fragmentAt]
      calc
        (l.splice pending f m).row =
            rowFrom (l.splice pending f m).leading (l.splice pending f m).trailing 0 0 l.clauses
              ++ rowFrom (l.splice pending f m).leading (l.splice pending f m).trailing
                (0 + l.size) (0 + l.offset) (Chain.withFirst pending m.clauses) :=
          rowFrom_append _ _ _ _ _ _
        _ = l.row ++ l.joint pending ++ l.waiting ++ m.row.map f := by
          rw [Nat.zero_add, Nat.zero_add, rowFrom_front, moved]
          simp only [List.append_assoc]

/-- A row without clauses adds nothing, its marks wait. -/
theorem row_splice_nil (none : m.clauses = []) (l : Layout σ) (pending : Connective) (f : σ → σ) :
    (l.splice pending f m).row = l.row := by
  rw [← rowFrom_front l pending f m]
  simp [row, splice, none]

end Rows

/-! ## How often a mark stands in a row -/

section Counts

variable {σ : Type} [DecidableEq σ]

/-- The marks `s` that are anchored to one of the `count` clauses from `index` on. -/
def anchoredTo (marks : List (Nat × σ)) (s : σ) (index count : Nat) : Nat :=
  marks.countP fun mark => mark.2 = s ∧ index ≤ mark.1 ∧ mark.1 < index + count

theorem anchoredTo_zero (marks : List (Nat × σ)) (s : σ) (index : Nat) :
    anchoredTo marks s index 0 = 0 := by
  simp only [anchoredTo, List.countP_eq_zero, decide_eq_true_eq]
  omega

theorem anchoredTo_eq_zero {marks : List (Nat × σ)} {s : σ} (none : ∀ mark ∈ marks, mark.2 ≠ s)
    (index count : Nat) : anchoredTo marks s index count = 0 := by
  rw [anchoredTo, List.countP_eq_zero]
  intro mark member
  simp [none mark member]

theorem anchoredTo_succ (marks : List (Nat × σ)) (s : σ) (index count : Nat) :
    anchoredTo marks s index (count + 1) =
      (marksAt marks index).count s + anchoredTo marks s (index + 1) count := by
  induction marks with
  | nil => rfl
  | cons mark rest ih =>
      have own : (marksAt (mark :: rest) index).count s =
          (marksAt rest index).count s + if mark.1 = index ∧ mark.2 = s then 1 else 0 := by
        by_cases here : mark.1 = index <;> simp [marksAt, here, List.count_cons]
      simp only [anchoredTo, List.countP_cons] at ih ⊢
      rw [ih, own]
      grind

variable [Alphabet σ] {s : σ}

theorem count_rowFrom (joint : ∀ k, Alphabet.connective k ≠ s) (text : ∀ f, Alphabet.fragment f ≠ s)
    (leading trailing : List (Nat × σ)) (index offset : Nat) (clauses : List Clause) :
    (rowFrom leading trailing index offset clauses).count s =
      anchoredTo leading s index clauses.length + anchoredTo trailing s index clauses.length := by
  induction clauses generalizing index offset with
  | nil => simp [rowFrom, anchoredTo_zero]
  | cons clause rest ih =>
      have front : (if index = 0 then [] else
          [(Alphabet.connective clause.connective : σ)]).count s = 0 := by
        by_cases first : index = 0 <;> simp [first, joint]
      have own : (Alphabet.fragment (clause.fragmentAt offset) == s) = false := by
        simpa using text _
      simp only [rowFrom, List.count_append, List.count_cons, front, own, ih, List.length_cons,
        anchoredTo_succ]
      simp
      omega

/-- A mark that is neither a connective nor a fragment stands in the row once for every time it
    is anchored to a clause. -/
theorem count_row (joint : ∀ k, Alphabet.connective k ≠ s) (text : ∀ f, Alphabet.fragment f ≠ s)
    (l : Layout σ) :
    l.row.count s = anchoredTo l.leading s 0 l.size + anchoredTo l.trailing s 0 l.size :=
  count_rowFrom joint text l.leading l.trailing 0 0 l.clauses

end Counts

end Layout

end FilterQuery
