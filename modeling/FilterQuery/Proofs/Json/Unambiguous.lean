import FilterQuery.Proofs.Json.Lexemes

/-! # One text, one value

No text says two values. The first character of a value tells its kind, and what can follow a value
tells where it ends; so two readings of a text never part.
-/

namespace FilterQuery.Json

/-- The first characters of a value. -/
def Tree.leads : Tree → Char → Bool
  | null, c => c = 'n'
  | boolean true, c => c = 't'
  | boolean false, c => c = 'f'
  | number _, c => c = '-' || c.isDigit
  | string _, c => c = '"'
  | array _, c => c = '['
  | object _, c => c = '\x7b'

theorem NumeralText.first {n : Numeral} {t : List Char} (h : NumeralText n t) :
    ∃ c tail, t = c :: tail ∧ (c = '-' || c.isDigit) = true := by
  cases h with
  | @parts negative digits _ _ _ _ whole =>
      cases negative with
      | true => exact ⟨'-', _, rfl, rfl⟩
      | false =>
          obtain ⟨d, more, rfl⟩ := List.exists_cons_of_ne_nil whole.1
          exact ⟨d, _, rfl, by simp [whole.2 d List.mem_cons_self]⟩

theorem Reads.first {t : Tree} {s r : List Char} (h : Reads (.value t) s r) :
    ∃ c tail, s = c :: tail ∧ t.leads c = true := by
  cases h with
  | number text =>
      obtain ⟨c, tail, rfl, leads⟩ := text.first
      exact ⟨c, _, rfl, leads⟩
  | nullWord | trueWord | falseWord | string | array | object => exact ⟨_, _, rfl, rfl⟩

/-- The characters between values. -/
def between : List Char :=
  blanks ++ [',', ':', ']', '\x7d']

theorem Tree.not_leads {t : Tree} {c : Char} (h : c ∈ between) : t.leads c = false := by
  have apart : ∀ c ∈ between, c ≠ 'n' ∧ c ≠ 't' ∧ c ≠ 'f' ∧ c ≠ '-' ∧ c.isDigit = false ∧
      c ≠ '"' ∧ c ≠ '[' ∧ c ≠ '\x7b' := by simp [between, blanks]
  have here := apart c h
  cases t with
  | boolean b => cases b <;> simp [leads, here]
  | null | number | string | array | object => simp [leads, here]

/-! ## What the first character tells -/

section

variable {t : Tree} {s r : List Char}

theorem NumeralText.leads {n : Numeral} {text : List Char} {c : Char} (h : NumeralText n text)
    (start : c :: s = text ++ r) : (c = '-' || c.isDigit) = true := by
  obtain ⟨d, tail, rfl, digit⟩ := h.first
  cases start
  exact digit

theorem Reads.null_inv (h : Reads (.value t) ('n' :: s) r) :
    t = .null ∧ s = 'u' :: 'l' :: 'l' :: r := by
  generalize start : 'n' :: s = front at h
  cases h with
  | nullWord =>
      cases start
      exact ⟨rfl, rfl⟩
  | number text => cases text.leads start
  | trueWord | falseWord | string | array | object => cases start

theorem Reads.true_inv (h : Reads (.value t) ('t' :: s) r) :
    t = .boolean true ∧ s = 'r' :: 'u' :: 'e' :: r := by
  generalize start : 't' :: s = front at h
  cases h with
  | trueWord =>
      cases start
      exact ⟨rfl, rfl⟩
  | number text => cases text.leads start
  | nullWord | falseWord | string | array | object => cases start

theorem Reads.false_inv (h : Reads (.value t) ('f' :: s) r) :
    t = .boolean false ∧ s = 'a' :: 'l' :: 's' :: 'e' :: r := by
  generalize start : 'f' :: s = front at h
  cases h with
  | falseWord =>
      cases start
      exact ⟨rfl, rfl⟩
  | number text => cases text.leads start
  | nullWord | trueWord | string | array | object => cases start

theorem Reads.string_inv (h : Reads (.value t) ('"' :: s) r) :
    ∃ content, t = .string content ∧ StringText content s r := by
  generalize start : '"' :: s = front at h
  cases h with
  | string text =>
      cases start
      exact ⟨_, rfl, text⟩
  | number text => cases text.leads start
  | nullWord | trueWord | falseWord | array | object => cases start

theorem Reads.array_inv (h : Reads (.value t) ('[' :: s) r) :
    ∃ ts, t = .array ts ∧ Reads (.items ts) s (']' :: r) := by
  generalize start : '[' :: s = front at h
  cases h with
  | array items =>
      cases start
      exact ⟨_, rfl, items⟩
  | number text => cases text.leads start
  | nullWord | trueWord | falseWord | string | object => cases start

theorem Reads.object_inv (h : Reads (.value t) ('\x7b' :: s) r) :
    ∃ ms, t = .object ms ∧ Reads (.members ms) s ('\x7d' :: r) := by
  generalize start : '\x7b' :: s = front at h
  cases h with
  | object members =>
      cases start
      exact ⟨_, rfl, members⟩
  | number text => cases text.leads start
  | nullWord | trueWord | falseWord | string | array => cases start

theorem Reads.number_inv {c : Char} (h : Reads (.value t) (c :: s) r)
    (leads : (c = '-' || c.isDigit) = true) :
    ∃ n text, t = .number n ∧ NumeralText n text ∧ c :: s = text ++ r := by
  generalize start : c :: s = front at h
  cases h with
  | number text => exact ⟨_, _, rfl, text, rfl⟩
  | nullWord | trueWord | falseWord | string | array | object =>
      cases start
      cases leads

end

/-! ## What follows a value -/

/-- What follows a value inside brackets, behind the blanks. -/
def Stops (s : List Char) : Prop :=
  ∀ c ∈ s.head?, c ∈ [',', ']', '\x7d']

theorem Stops.ended {s : List Char} (h : Stops s) : Ended s := by
  have apart : ∀ c ∈ [',', ']', '\x7d'], c.isDigit = false ∧ c ≠ '.' ∧ c ≠ 'e' ∧ c ≠ 'E' := by
    simp
  exact fun c first => apart c (h c first)

theorem Stops.skipBlanks_eq {s r : List Char} (h : Stops r) (blanks : Blanks s r) :
    skipBlanks s = r := by
  have apart : ∀ c ∈ [',', ']', '\x7d'], isBlank c = false := by simp [isBlank]
  exact blanks.skipBlanks_eq fun c first => apart c (h c first)

theorem stops_cons {c : Char} {s : List Char} (stop : c ∈ [',', ']', '\x7d']) : Stops (c :: s) := by
  rintro _ ⟨⟩
  exact stop

theorem Reads.skipBlanks_eq {t : Tree} {s₁ s₂ r : List Char} (h : Reads (.value t) s₂ r)
    (blanks : Blanks s₁ s₂) : skipBlanks s₁ = s₂ := by
  obtain ⟨c, tail, rfl, leads⟩ := h.first
  have solid : isBlank c = false := by
    rw [Bool.eq_false_iff]
    intro blank
    rw [Tree.not_leads (List.mem_append_left _ (isBlank_iff.1 blank))] at leads
    cases leads
  refine blanks.skipBlanks_eq ?_
  rintro _ ⟨⟩
  exact solid

/-- Where a value is due, the text does not go on with what stands between values. -/
theorem Reads.opens {t : Tree} {s r : List Char} (h : Reads (.padded t) s r) :
    ∃ c tail, skipBlanks s = c :: tail ∧ c ∉ between := by
  cases h with
  | padded front value _ =>
      obtain ⟨c, tail, rfl, leads⟩ := value.first
      refine ⟨c, tail, value.skipBlanks_eq front, fun closer => ?_⟩
      rw [Tree.not_leads closer] at leads
      cases leads

theorem Blanks.skipBlanks_cons {c : Char} {s r : List Char} (h : Blanks s (c :: r))
    (solid : isBlank c = false) : skipBlanks s = c :: r := by
  refine h.skipBlanks_eq ?_
  rintro _ ⟨⟩
  exact solid

theorem Key.skipBlanks_eq {key s r : List Char} (h : Key key s r) :
    ∃ tail, skipBlanks s = '"' :: tail := by
  obtain ⟨front, _, _⟩ := h
  exact ⟨_, front.skipBlanks_cons rfl⟩

theorem Key.unique {key key' s r r' : List Char} (h : Key key s r) (h' : Key key' s r') :
    key' = key ∧ r' = r := by
  obtain ⟨front, text, behind⟩ := h
  obtain ⟨front', text', behind'⟩ := h'
  have quote := (front'.skipBlanks_cons rfl).symm.trans (front.skipBlanks_cons rfl)
  cases quote
  have content := text'.readString_eq.symm.trans text.readString_eq
  cases content
  have colon := (behind'.skipBlanks_cons rfl).symm.trans (behind.skipBlanks_cons rfl)
  cases colon
  exact ⟨rfl, rfl⟩

/-! ## Readings from one position -/

theorem Reads.not_closed {t : Tree} {s r r' : List Char} (h : Reads (.padded t) s r)
    (blanks : Blanks s (']' :: r')) : False := by
  obtain ⟨c, tail, front, opens⟩ := h.opens
  rw [blanks.skipBlanks_cons (by decide)] at front
  cases front
  exact opens (by decide)

theorem Key.not_closed {key s r r' : List Char} (h : Key key s r)
    (blanks : Blanks s ('\x7d' :: r')) : False := by
  obtain ⟨tail, quote⟩ := h.skipBlanks_eq
  rw [blanks.skipBlanks_cons (by decide)] at quote
  cases quote

/-- A part of a text that is the only one of its kind at its position. -/
def Form.Alone (s r : List Char) : Form → Prop
  | value t => ∀ t' r', Reads (.value t') s r' → Ended r → Ended r' → t' = t ∧ r' = r
  | padded t => ∀ t' r', Reads (.padded t') s r' → Stops r → Stops r' → t' = t ∧ r' = r
  | items ts => ∀ rest ts' rest', r = ']' :: rest → Reads (.items ts') s (']' :: rest') →
      ts' = ts ∧ rest' = rest
  | members ms => ∀ rest ms' rest', r = '\x7d' :: rest →
      Reads (.members ms') s ('\x7d' :: rest') → ms' = ms ∧ rest' = rest

theorem NumeralText.alone {n : Numeral} {t r : List Char} (h : NumeralText n t) :
    (Form.value (.number n)).Alone (t ++ r) r := by
  intro t' r' h' ended ended'
  obtain ⟨c, tail, rfl, leads⟩ := h.first
  obtain ⟨n', text', rfl, h', same⟩ := h'.number_inv leads
  have read := h.read_append ended .endInValue
  change Numeral.read .endInValue (c :: tail.append r) = _ at read
  rw [same, h'.read_append ended' .endInValue] at read
  cases read
  exact ⟨rfl, rfl⟩

theorem alone_noItems {s r : List Char} (blanks : Blanks s r) : (Form.items []).Alone s r := by
  rintro rest ts' rest' rfl h'
  cases h' with
  | noItems blanks' =>
      have same := (blanks'.skipBlanks_cons rfl).symm.trans (blanks.skipBlanks_cons rfl)
      cases same
      exact ⟨rfl, rfl⟩
  | lastItem item | item item _ => exact (item.not_closed blanks).elim

/-- Two readings of an item end in one place, so behind it both lists go on in one way. -/
theorem alone_lastItem {t : Tree} {s r : List Char} (item : Reads (.padded t) s r)
    (ih : (Form.padded t).Alone s r) : (Form.items [t]).Alone s r := by
  rintro rest ts' rest' rfl h'
  cases h' with
  | noItems blanks => exact (item.not_closed blanks).elim
  | lastItem item' =>
      obtain ⟨rfl, same⟩ := ih _ _ item' (stops_cons (by decide)) (stops_cons (by decide))
      cases same
      exact ⟨rfl, rfl⟩
  | item item' _ =>
      obtain ⟨-, same⟩ := ih _ _ item' (stops_cons (by decide)) (stops_cons (by decide))
      cases same

theorem alone_item {t u : Tree} {ts : List Tree} {s s₂ r : List Char}
    (item : Reads (.padded t) s (',' :: s₂)) (ih : (Form.padded t).Alone s (',' :: s₂))
    (ihs : (Form.items (u :: ts)).Alone s₂ r) : (Form.items (t :: u :: ts)).Alone s r := by
  rintro rest ts' rest' rfl h'
  cases h' with
  | noItems blanks => exact (item.not_closed blanks).elim
  | lastItem item' =>
      obtain ⟨-, same⟩ := ih _ _ item' (stops_cons (by decide)) (stops_cons (by decide))
      cases same
  | item item' items' =>
      obtain ⟨rfl, same⟩ := ih _ _ item' (stops_cons (by decide)) (stops_cons (by decide))
      cases same
      obtain ⟨same, rfl⟩ := ihs _ _ _ rfl items'
      cases same
      exact ⟨rfl, rfl⟩

theorem alone_noMembers {s r : List Char} (blanks : Blanks s r) :
    (Form.members []).Alone s r := by
  rintro rest ms' rest' rfl h'
  cases h' with
  | noMembers blanks' =>
      have same := (blanks'.skipBlanks_cons rfl).symm.trans (blanks.skipBlanks_cons rfl)
      cases same
      exact ⟨rfl, rfl⟩
  | lastMember key _ | member key _ _ => exact (key.not_closed blanks).elim

theorem alone_lastMember {key : List Char} {t : Tree} {s s₁ r : List Char} (front : Key key s s₁)
    (ih : (Form.padded t).Alone s₁ r) : (Form.members [(key, t)]).Alone s r := by
  rintro rest ms' rest' rfl h'
  cases h' with
  | noMembers blanks => exact (front.not_closed blanks).elim
  | lastMember front' value' =>
      obtain ⟨rfl, rfl⟩ := front.unique front'
      obtain ⟨rfl, same⟩ := ih _ _ value' (stops_cons (by decide)) (stops_cons (by decide))
      cases same
      exact ⟨rfl, rfl⟩
  | member front' value' _ =>
      obtain ⟨rfl, rfl⟩ := front.unique front'
      obtain ⟨-, same⟩ := ih _ _ value' (stops_cons (by decide)) (stops_cons (by decide))
      cases same

theorem alone_member {key : List Char} {t : Tree} {m : List Char × Tree}
    {ms : List (List Char × Tree)} {s s₁ s₂ r : List Char} (front : Key key s s₁)
    (ih : (Form.padded t).Alone s₁ (',' :: s₂)) (ihs : (Form.members (m :: ms)).Alone s₂ r) :
    (Form.members ((key, t) :: m :: ms)).Alone s r := by
  rintro rest ms' rest' rfl h'
  cases h' with
  | noMembers blanks => exact (front.not_closed blanks).elim
  | lastMember front' value' =>
      obtain ⟨rfl, rfl⟩ := front.unique front'
      obtain ⟨-, same⟩ := ih _ _ value' (stops_cons (by decide)) (stops_cons (by decide))
      cases same
  | member front' value' members' =>
      obtain ⟨rfl, rfl⟩ := front.unique front'
      obtain ⟨rfl, same⟩ := ih _ _ value' (stops_cons (by decide)) (stops_cons (by decide))
      cases same
      obtain ⟨same, rfl⟩ := ihs _ _ _ rfl members'
      cases same
      exact ⟨rfl, rfl⟩

theorem Reads.alone {f : Form} {s r : List Char} (h : Reads f s r) : f.Alone s r := by
  induction h with
  | nullWord =>
      intro t' r' h' _ _
      obtain ⟨rfl, same⟩ := h'.null_inv
      cases same
      exact ⟨rfl, rfl⟩
  | trueWord =>
      intro t' r' h' _ _
      obtain ⟨rfl, same⟩ := h'.true_inv
      cases same
      exact ⟨rfl, rfl⟩
  | falseWord =>
      intro t' r' h' _ _
      obtain ⟨rfl, same⟩ := h'.false_inv
      cases same
      exact ⟨rfl, rfl⟩
  | number text => exact text.alone
  | string text =>
      intro t' r' h' _ _
      obtain ⟨content, rfl, text'⟩ := h'.string_inv
      cases text'.readString_eq.symm.trans text.readString_eq
      exact ⟨rfl, rfl⟩
  | array items ih =>
      intro t' r' h' _ _
      obtain ⟨ts, rfl, items'⟩ := h'.array_inv
      obtain ⟨rfl, rfl⟩ := ih _ _ _ rfl items'
      exact ⟨rfl, rfl⟩
  | object members ih =>
      intro t' r' h' _ _
      obtain ⟨ms, rfl, members'⟩ := h'.object_inv
      obtain ⟨rfl, rfl⟩ := ih _ _ _ rfl members'
      exact ⟨rfl, rfl⟩
  | padded front value behind ih =>
      intro t' r' h' stops stops'
      obtain ⟨start, _, front', value', behind'⟩ := h'.unpadded
      obtain rfl := (value.skipBlanks_eq front).symm.trans (value'.skipBlanks_eq front')
      obtain ⟨rfl, rfl⟩ := ih _ _ value' (behind.ended stops.ended) (behind'.ended stops'.ended)
      exact ⟨rfl, (stops'.skipBlanks_eq behind').symm.trans (stops.skipBlanks_eq behind)⟩
  | noItems blanks => exact alone_noItems blanks
  | lastItem item ih => exact alone_lastItem item ih
  | item item _ ih ihs => exact alone_item item ih ihs
  | noMembers blanks => exact alone_noMembers blanks
  | lastMember front _ ih => exact alone_lastMember front ih
  | member front _ _ ih ihs => exact alone_member front ih ihs

theorem Says.unique {text : String} {t t' : Tree} (h : Says text t) (h' : Says text t') : t' = t :=
  (Reads.alone h t' [] h' (by simp [Stops]) (by simp [Stops])).1

end FilterQuery.Json
