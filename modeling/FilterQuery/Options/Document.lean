import FilterQuery.Json.Skip
import FilterQuery.Options.Basic
import FilterQuery.Options.Complaint

/-! # Options documents

Options are read from a JSON text: an object with the members `group_policy` and `spacing`,
of which any may be absent and others may be present, or a list of the two in this order. A
text is read once from left to right, and the first thing wrong with it is reported.
-/

namespace FilterQuery

namespace Options

/-- A fault while reading, with what was left of the text when it was noticed. -/
inductive Fault where
  | malformed (p : Json.Problem)
  | unsuitable (c : Complaint) (rest : List Char)
  deriving Repr, DecidableEq

open Json

/-- The policies by the names they have in a document. -/
def policyNames : List (String × GroupPolicy) :=
  [("strict", .strict), ("lenient", .lenient)]

/-- The spacings by the names they have in a document. -/
def spacingNames : List (String × Spacing) :=
  [("compact", .compact), ("padded", .padded)]

/-- The fault of the value in front, which is not of the kind that is needed. A value
    without parts is read; of one with parts not even the bracket is. -/
def wrongType (expected : String) (s : List Char) : Fault :=
  let complain (found : Found) (rest : List Char) : Fault :=
    .unsuitable (.invalidType found expected) rest
  let word (letters : String) (found : Found) (rest : List Char) : Fault :=
    match readWord letters.toList rest with
    | .error p => .malformed p
    | .ok rest => complain found rest
  match s with
  | [] => .malformed .endInValue
  | c :: rest =>
      if c = 'n' then word "ull" .null rest
      else if c = 't' then word "rue" (.boolean true) rest
      else if c = 'f' then word "alse" (.boolean false) rest
      else if c = '-' ∨ c.isDigit then
        match Numeral.read .endInValue s with
        | .error p => .malformed p
        | .ok (numeral, rest) =>
            match numeral.value? with
            | some n => complain (.number n) rest
            | none => .malformed .numberOutOfRange
      else if c = '"' then
        match readString rest with
        | .error p => .malformed p
        | .ok (content, rest) => complain (.string (String.ofList content)) rest
      else if c = '[' then complain .list s
      else if c = '\x7b' then complain .object s
      else .malformed .expectedValue

/-- Reads the name of a variant after its opening quote. -/
def readName {α : Type} (names : List (String × α)) (s : List Char) : Except Fault (α × List Char) :=
  match readString s with
  | .error p => .error (.malformed p)
  | .ok (content, rest) =>
      match names.lookup (String.ofList content) with
      | some a => .ok (a, rest)
      | none =>
          .error (.unsuitable (.unknownVariant (String.ofList content) (names.map (·.1))) rest)

/-- Reads the colon after the key of a member. -/
def readColon (s : List Char) : Except Fault (List Char) :=
  match skipBlanks s with
  | [] => .error (.malformed .endInObject)
  | c :: rest => if c = ':' then .ok rest else .error (.malformed .expectedColon)

/-- Reads the `null` that a variant without content has. -/
def readUnit (s : List Char) : Except Fault (List Char) :=
  match skipBlanks s with
  | 'n' :: rest => (readWord "ull".toList rest).mapError .malformed
  | rest => .error (wrongType "unit" rest)

/-- Reads a variant that is written as an object, after its opening brace. -/
def readTagged {α : Type} (names : List (String × α)) (s : List Char) : Except Fault (α × List Char) :=
  match skipBlanks s with
  | [] => .error (.malformed .endInObject)
  | c :: rest =>
      if c = '"' then do
        let (a, rest) ← readName names rest
        let rest ← readColon rest
        let rest ← readUnit rest
        match skipBlanks rest with
        | [] => .error (.malformed .endInObject)
        | c :: rest => if c = '\x7d' then .ok (a, rest) else .error (.malformed .expectedValue)
      else if c = '\x7d' then .error (.malformed .expectedValue)
      else .error (.malformed .keyNotString)

/-- Reads a variant: its name, or an object whose only member has that name and is null. -/
def readVariant {α : Type} (names : List (String × α)) (s : List Char) : Except Fault (α × List Char) :=
  match skipBlanks s with
  | [] => .error (.malformed .endInValue)
  | c :: rest =>
      if c = '"' then readName names rest
      else if c = '\x7b' then readTagged names rest
      else .error (.malformed .expectedValue)

/-- The options read so far; an absent one takes its default in the end. -/
structure Draft where
  groupPolicy : Option GroupPolicy := none
  spacing : Option Spacing := none
  deriving Repr, DecidableEq

def Draft.finish (d : Draft) : Options :=
  let default : Options := {}
  { groupPolicy := d.groupPolicy.getD default.groupPolicy
    spacing := d.spacing.getD default.spacing }

/-- Where a duplicate is noticed: after its key, after the blanks that follow, and after a
    brace that follows those. -/
def afterDuplicate (s : List Char) : List Char :=
  match skipBlanks s with
  | '\x7d' :: rest => rest
  | rest => rest

/-- Reads a member after its key. Members of other names are passed over. -/
def readMember (d : Draft) (key : String) (s : List Char) : Except Fault (Draft × List Char) :=
  if key = "group_policy" then
    if d.groupPolicy.isSome then
      .error (.unsuitable (.duplicateMember key) (afterDuplicate s))
    else do
      let (policy, rest) ← readVariant policyNames (← readColon s)
      .ok ({ d with groupPolicy := some policy }, rest)
  else if key = "spacing" then
    if d.spacing.isSome then
      .error (.unsuitable (.duplicateMember key) (afterDuplicate s))
    else do
      let (spacing, rest) ← readVariant spacingNames (← readColon s)
      .ok ({ d with spacing := some spacing }, rest)
  else do
    let rest ← (skipValue [] (← readColon s)).mapError .malformed
    .ok (d, rest)

/-- Reads a key after its opening quote. -/
def readKeyText (s : List Char) : Except Fault (Option String × List Char) :=
  match readString s with
  | .error p => .error (.malformed p)
  | .ok (content, rest) => .ok (some (String.ofList content), rest)

/-- Reads up to the next key, and the key; there is none if the object ends. Between two
    members there has to be a comma. -/
def readKey (first : Bool) (s : List Char) : Except Fault (Option String × List Char) :=
  match skipBlanks s with
  | [] => .error (.malformed .endInObject)
  | c :: rest =>
      if c = '\x7d' then .ok (none, rest)
      else if first then
        if c = '"' then readKeyText rest else .error (.malformed .keyNotString)
      else if c = ',' then
        match skipBlanks rest with
        | [] => .error (.malformed .endInValue)
        | c :: rest =>
            if c = '"' then readKeyText rest
            else if c = '\x7d' then .error (.malformed .trailingComma)
            else .error (.malformed .keyNotString)
      else .error (.malformed .expectedObjectSeparator)

theorem bind_eq_ok {ε α β : Type} {x : Except ε α} {f : α → Except ε β} {b : β} :
    (x >>= f) = .ok b ↔ ∃ a, x = .ok a ∧ f a = .ok b := by
  cases x <;> simp [bind, Except.bind]

theorem mapError_eq_ok {ε ε' α : Type} {x : Except ε α} {f : ε → ε'} {a : α} :
    x.mapError f = .ok a ↔ x = .ok a := by
  cases x with
  | error => exact ⟨nofun, nofun⟩
  | ok =>
      constructor <;> intro h <;> exact congrArg Except.ok (Except.ok.inj h)

theorem length_readName_lt {α : Type} {names : List (String × α)} {s rest : List Char} {a : α}
    (h : readName names s = .ok (a, rest)) : rest.length < s.length := by
  unfold readName at h
  split at h
  · simp at h
  · rename_i hs
    split at h
    · simp only [Except.ok.injEq, Prod.mk.injEq] at h
      exact h.2 ▸ length_readString_lt hs
    · simp at h

theorem length_readColon_lt {s rest : List Char} (h : readColon s = .ok rest) :
    rest.length < s.length := by
  have hb := length_skipBlanks_le s
  unfold readColon at h
  split at h
  · simp at h
  · rename_i heq
    simp only [heq, List.length_cons] at hb
    split at h
    · simp only [Except.ok.injEq] at h
      rw [← h]
      omega
    · simp at h

theorem length_readUnit_lt {s rest : List Char} (h : readUnit s = .ok rest) :
    rest.length < s.length := by
  have hb := length_skipBlanks_le s
  unfold readUnit at h
  split at h
  · rename_i heq
    simp only [heq, List.length_cons] at hb
    have := length_readWord_le (mapError_eq_ok.1 h)
    omega
  · simp at h

theorem length_readTagged_lt {α : Type} {names : List (String × α)} {s rest : List Char} {a : α}
    (h : readTagged names s = .ok (a, rest)) : rest.length < s.length := by
  have hb := length_skipBlanks_le s
  unfold readTagged at h
  split at h
  · simp at h
  · rename_i heq
    simp only [heq, List.length_cons] at hb
    split at h
    · obtain ⟨⟨a', rest₁⟩, h₁, h⟩ := bind_eq_ok.1 h
      obtain ⟨rest₂, h₂, h⟩ := bind_eq_ok.1 h
      obtain ⟨rest₃, h₃, h⟩ := bind_eq_ok.1 h
      have := length_readName_lt h₁
      have := length_readColon_lt h₂
      have := length_readUnit_lt h₃
      have hb' := length_skipBlanks_le rest₃
      split at h
      · simp at h
      · rename_i heq'
        simp only [heq', List.length_cons] at hb'
        split at h
        · simp only [Except.ok.injEq, Prod.mk.injEq] at h
          rw [← h.2]
          omega
        · simp at h
    · split at h <;> simp at h

theorem length_readVariant_lt {α : Type} {names : List (String × α)} {s rest : List Char} {a : α}
    (h : readVariant names s = .ok (a, rest)) : rest.length < s.length := by
  have hb := length_skipBlanks_le s
  unfold readVariant at h
  split at h
  · simp at h
  · rename_i heq
    simp only [heq, List.length_cons] at hb
    split at h
    · have := length_readName_lt h
      omega
    · split at h
      · have := length_readTagged_lt h
        omega
      · simp at h

theorem length_readMember_lt {d d' : Draft} {key : String} {s rest : List Char}
    (h : readMember d key s = .ok (d', rest)) : rest.length < s.length := by
  unfold readMember at h
  split at h
  · split at h
    · simp at h
    · obtain ⟨rest₁, h₁, h⟩ := bind_eq_ok.1 h
      obtain ⟨⟨policy, rest₂⟩, h₂, h⟩ := bind_eq_ok.1 h
      simp only [Except.ok.injEq, Prod.mk.injEq] at h
      have := length_readColon_lt h₁
      have := length_readVariant_lt h₂
      rw [← h.2]
      omega
  · split at h
    · split at h
      · simp at h
      · obtain ⟨rest₁, h₁, h⟩ := bind_eq_ok.1 h
        obtain ⟨⟨spacing, rest₂⟩, h₂, h⟩ := bind_eq_ok.1 h
        simp only [Except.ok.injEq, Prod.mk.injEq] at h
        have := length_readColon_lt h₁
        have := length_readVariant_lt h₂
        rw [← h.2]
        omega
    · obtain ⟨rest₁, h₁, h⟩ := bind_eq_ok.1 h
      obtain ⟨rest₂, h₂, h⟩ := bind_eq_ok.1 h
      simp only [Except.ok.injEq, Prod.mk.injEq] at h
      have := length_readColon_lt h₁
      have := length_skipValue_lt (mapError_eq_ok.1 h₂)
      rw [← h.2]
      omega

theorem length_readKeyText_lt {s rest : List Char} {key : Option String}
    (h : readKeyText s = .ok (key, rest)) : rest.length < s.length := by
  unfold readKeyText at h
  split at h
  · simp at h
  · rename_i hs
    simp only [Except.ok.injEq, Prod.mk.injEq] at h
    exact h.2 ▸ length_readString_lt hs

theorem length_readKey_lt {first : Bool} {s rest : List Char} {key : Option String}
    (h : readKey first s = .ok (key, rest)) : rest.length < s.length := by
  have hb := length_skipBlanks_le s
  unfold readKey at h
  split at h
  · simp at h
  · rename_i tail heq
    simp only [heq, List.length_cons] at hb
    split at h
    · simp only [Except.ok.injEq, Prod.mk.injEq] at h
      rw [← h.2]
      omega
    · split at h
      · split at h
        · have := length_readKeyText_lt h
          omega
        · simp at h
      · split at h
        · have hb' := length_skipBlanks_le tail
          split at h
          · simp at h
          · rename_i heq'
            simp only [heq', List.length_cons] at hb'
            split at h
            · have := length_readKeyText_lt h
              omega
            · split at h <;> simp at h
        · simp at h

/-- Reads the members of an object, and its end. -/
def readMembers (first : Bool) (d : Draft) (s : List Char) : Except Fault (Draft × List Char) :=
  match hk : readKey first s with
  | .error f => .error f
  | .ok (none, rest) => .ok (d, rest)
  | .ok (some key, rest) =>
      match hm : readMember d key rest with
      | .error f => .error f
      | .ok (d, rest) =>
          have := length_readKey_lt hk
          have := length_readMember_lt hm
          readMembers false d rest
termination_by s.length

/-- Reads up to the next item of a list, and whether there is one. -/
def readItemStart (first : Bool) (s : List Char) : Except Fault (Bool × List Char) :=
  match skipBlanks s with
  | [] => .error (.malformed .endInList)
  | c :: rest =>
      if c = ']' then .ok (false, c :: rest)
      else if first then .ok (true, c :: rest)
      else if c = ',' then
        match skipBlanks rest with
        | [] => .error (.malformed .endInValue)
        | c :: rest =>
            if c = ']' then .error (.malformed .trailingComma) else .ok (true, c :: rest)
      else .error (.malformed .expectedListSeparator)

/-- Reads the end of a list that has as many items as it may have. -/
def readListEnd (s : List Char) : Except Fault (List Char) :=
  match skipBlanks s with
  | [] => .error (.malformed .endInList)
  | c :: rest =>
      if c = ']' then .ok rest
      else if c = ',' ∧ (skipBlanks rest).head? = some ']' then .error (.malformed .trailingComma)
      else .error (.malformed .trailingCharacters)

/-- Reads the options from a list, after its opening bracket: the group policy and then the
    spacing, as far as the list goes. -/
def readList (s : List Char) : Except Fault (Draft × List Char) := do
  let (more, rest) ← readItemStart true s
  if !more then return ({}, ← readListEnd rest)
  let (policy, rest) ← readVariant policyNames rest
  let (more, rest) ← readItemStart false rest
  if !more then return ({ groupPolicy := some policy }, ← readListEnd rest)
  let (spacing, rest) ← readVariant spacingNames rest
  return ({ groupPolicy := some policy, spacing := some spacing }, ← readListEnd rest)

/-- Reads a document up to its last blank. -/
def readDocument (s : List Char) : Except Fault Options := do
  let front := skipBlanks s
  let (draft, rest) ←
    match front with
    | '[' :: rest => readList rest
    | '\x7b' :: rest => readMembers true {} rest
    | _ => .error (wrongType "struct BuilderOptions" front)
  if skipBlanks rest = [] then return draft.finish
  else .error (.malformed .trailingCharacters)

/-- The options that a JSON text gives. -/
def ofDocument (text : String) : Except DocumentError Options :=
  (readDocument text.toList).mapError fun
    | .malformed p => .malformed p
    | .unsuitable c rest => .unsuitable c (.ofRest text.toList rest)

end Options

end FilterQuery
