import FilterQuery.Proofs.Predicate.Grammar

/-! # Layouts that can be read

A layout is readable if its row is the front part of a filter. Every way of recording keeps it
readable, and tells which groups are then open: those of the row, and those that wait for the
next clause.
-/

namespace FilterQuery

namespace Symbol

/-- The symbol behind `marks` more marks and `offset` more values. -/
def rebase (marks offset : Nat) : Symbol → Symbol
  | connective k => connective k
  | opening group => opening (group + marks)
  | negation => negation
  | closing group => closing (group + marks)
  | fragment f => fragment (f.shift offset)

theorem rebase_closing (marks offset group : Nat) :
    rebase marks offset (closing group) = closing (group + marks) := rfl

theorem opens?_rebase (marks offset : Nat) (s : Symbol) :
    (s.rebase marks offset).opens? = s.opens?.map (· + marks) := by
  cases s <;> rfl

theorem shifts_rebase (marks offset : Nat) : Layout.Shifts (rebase marks offset) offset where
  connective _ := rfl
  fragment _ := rfl

end Symbol

/-- Marks leave a reader in front of the next unit, inside the groups that they open. -/
theorem Reads.marks {stack : List Nat} {w marks : List Symbol}
    (only : ∀ s ∈ marks, s.isMark = true) (h : Reads .ready stack w) :
    Reads .ready ((marks.filterMap Symbol.opens?).reverse ++ stack) (w ++ marks) := by
  induction marks generalizing stack w with
  | nil => simpa using h
  | cons s rest ih =>
      have here := only s List.mem_cons_self
      have others : ∀ s ∈ rest, s.isMark = true :=
        fun s member => only s (List.mem_cons_of_mem _ member)
      cases s with
      | opening i => simpa [Symbol.opens?] using ih others (h.opening i)
      | negation => simpa [List.filterMap_cons, Symbol.opens?] using ih others h.negation
      | connective | closing | fragment => cases here

theorem Reads.continue {p : Phase} {front stack : List Nat} {v w : List Symbol}
    (h : Reads .ready front v) (later : Reads p stack w) (marks offset : Nat) :
    Reads p (stack.map (· + marks) ++ front) (v ++ w.map (Symbol.rebase marks offset)) := by
  induction later with
  | start => simpa using h
  | connective k _ ih => simpa [Symbol.rebase] using ih.connective k
  | negation _ ih => simpa [Symbol.rebase] using ih.negation
  | opening i _ ih => simpa [Symbol.rebase] using ih.opening (i + marks)
  | fragment f _ ih => simpa [Symbol.rebase] using ih.fragment (f.shift offset)
  | closing _ ih => simpa [Symbol.rebase] using ih.closing

namespace Layout

/-- The groups opened by the marks that wait for a clause, innermost first. -/
def opened (l : Layout Symbol) : List Nat :=
  (l.waiting.filterMap Symbol.opens?).reverse

theorem opened_append {l : Layout Symbol} (h : l.Anchored) (pending : Connective) (k : Condition) :
    (l.append pending k).opened = [] := by
  simp [opened, waiting_append h]

theorem opened_lead_opening (l : Layout Symbol) (group : Nat) :
    (l.lead (.opening group)).opened = group :: l.opened := by
  simp [opened, waiting_lead, Symbol.opens?]

theorem opened_lead_negation (l : Layout Symbol) : (l.lead .negation).opened = l.opened := by
  simp [opened, waiting_lead, List.filterMap_cons, Symbol.opens?]

theorem opened_splice {l m : Layout Symbol} (h : l.Anchored) (pending : Connective)
    (marks offset : Nat) :
    (l.splice pending (Symbol.rebase marks offset) m).opened =
      m.opened.map (· + marks) ++ if m.size = 0 then l.opened else [] := by
  have moved : (m.waiting.map (Symbol.rebase marks offset)).filterMap Symbol.opens? =
      (m.waiting.filterMap Symbol.opens?).map (· + marks) := by
    rw [List.filterMap_map, List.map_filterMap]
    exact congrArg (List.filterMap · m.waiting) (funext (Symbol.opens?_rebase marks offset))
  rw [opened, waiting_splice h, List.filterMap_append, moved]
  by_cases none : m.size = 0 <;> simp [none, opened]

end Layout

/-- The row is the front part of a filter, in which the `rendered` groups are open. -/
structure Readable (l : Layout Symbol) (rendered : List Nat) : Prop where
  anchored : l.Anchored
  marks : ∀ mark ∈ l.leading, mark.2.isMark = true
  row : if l.size = 0 then rendered = [] else Reads .done rendered l.row

namespace Readable

variable {l m : Layout Symbol} {rendered inner : List Nat}

theorem waiting (h : Readable l rendered) : ∀ s ∈ l.waiting, s.isMark = true := by
  intro s member
  obtain ⟨mark, at_, rfl⟩ := List.mem_map.1 member
  exact h.marks mark (List.mem_filter.1 at_).1

/-- In front of the next clause, the groups that wait for it are open as well. -/
theorem ready (h : Readable l rendered) (pending : Connective) :
    Reads .ready (l.opened ++ rendered) (l.row ++ l.joint pending ++ l.waiting) := by
  apply Reads.marks h.waiting
  have read := h.row
  cases clauses : l.clauses with
  | nil =>
      have none : rendered = [] := by simpa [Layout.size, clauses] using read
      simpa [Layout.joint, Layout.row, Layout.rowFrom, clauses, none] using Reads.start
  | cons first rest =>
      have done : Reads .done rendered l.row := by simpa [Layout.size, clauses] using read
      simpa [Layout.joint, clauses, Alphabet.connective] using done.connective pending

theorem append (h : Readable l rendered) (pending : Connective) (k : Condition) :
    Readable (l.append pending k) (l.opened ++ rendered) where
  anchored := h.anchored.append pending k
  marks := h.marks
  row := by
    have some : (l.append pending k).size ≠ 0 := by simp [Layout.append, Layout.size]
    rw [if_neg some, Layout.row_append h.anchored]
    exact (h.ready pending).fragment _

theorem lead (h : Readable l rendered) {s : Symbol} (mark : s.isMark = true) :
    Readable (l.lead s) rendered where
  anchored := h.anchored.lead s
  marks := by
    simp only [Layout.lead, List.mem_append, List.mem_singleton]
    rintro other (member | rfl)
    · exact h.marks other member
    · exact mark
  row := by
    rw [Layout.row_lead]
    exact h.row

theorem trail {i : Nat} (h : Readable l (i :: rendered)) (some : l.size ≠ 0) :
    Readable (l.trail (.closing i)) rendered where
  anchored := h.anchored.trail some _
  marks := h.marks
  row := by
    have read := h.row
    rw [if_neg some] at read
    have some' : (l.trail (.closing i)).size ≠ 0 := some
    rw [if_neg some', Layout.row_trail some]
    exact read.closing

/-- A received filter is read behind what waits for it. Without clauses, it waits as well. -/
theorem splice (h : Readable l rendered) (received : Readable m inner) (pending : Connective)
    (marks : Nat) :
    Readable (l.splice pending (Symbol.rebase marks l.offset) m)
      (if m.size = 0 then rendered else inner.map (· + marks) ++ (l.opened ++ rendered)) where
  anchored := h.anchored.splice received.anchored _ _
  marks := by
    simp only [Layout.splice, List.mem_append, List.mem_map]
    rintro mark (member | ⟨other, member, rfl⟩)
    · exact h.marks mark member
    · have kept := received.marks other member
      cases symbol : other.2 <;> simp_all [Symbol.rebase, Symbol.isMark]
  row := by
    rw [Layout.size_splice]
    by_cases none : m.size = 0
    · rw [Layout.row_splice_nil (by simpa [Layout.size] using none)]
      simpa [none] using h.row
    · have total : l.size + m.size ≠ 0 := by omega
      have read := received.row
      rw [if_neg none] at read
      rw [if_neg total, if_neg none, Layout.row_splice h.anchored (Symbol.shifts_rebase _ _)
        (by simpa [Layout.size] using none)]
      exact (h.ready pending).continue read marks l.offset

end Readable

end FilterQuery
