import FilterQuery.Proofs.Query.Independence
import FilterQuery.Session

/-! # What a session asks of its result sets

Making queries asks nothing of a result set, but for orders, each of which is passed on once. A
terminal operation has the handle of its query filtered once, by the predicate of the query, and
asks everything else of what the filtering gave. The handle of a query is the result set that its
receivers go back to, in the orders that were asked for on the way.
-/

namespace FilterQuery

/-- The request in an entry, with the result set it was made of. -/
def Entry.request? {R : Type} : Entry R → Option (R × Request)
  | .event _ => none
  | .request handle r => some (handle, r)

namespace Traced

variable {R α β : Type}

/-- The requests made on the way to an answer, in their order. -/
def requests (x : Traced R α) : List (R × Request) :=
  x.trace.filterMap Entry.request?

@[simp] theorem value_pure (a : α) : (pure a : Traced R α).value = a := rfl

@[simp] theorem value_bind (x : Traced R α) (f : α → Traced R β) :
    (x >>= f).value = (f x.value).value := rfl

@[simp] theorem value_map (f : α → β) (x : Traced R α) : (f <$> x).value = f x.value := rfl

@[simp] theorem requests_pure (a : α) : (pure a : Traced R α).requests = [] := rfl

@[simp] theorem requests_bind (x : Traced R α) (f : α → Traced R β) :
    (x >>= f).requests = x.requests ++ (f x.value).requests :=
  List.filterMap_append

@[simp] theorem requests_map (f : α → β) (x : Traced R α) : (f <$> x).requests = x.requests :=
  (requests_bind x (pure ∘ f)).trans (List.append_nil x.requests)

@[simp] theorem requests_report (e : Event) : (report e : Traced R Unit).requests = [] := rfl

@[simp] theorem value_ask (handle : R) (r : Request) (answer : α) :
    (ask handle r answer).value = answer := rfl

@[simp] theorem requests_ask (handle : R) (r : Request) (answer : α) :
    (ask handle r answer).requests = [(handle, r)] := rfl

variable {ε : Type}

theorem value_onSuccess (x : Traced R (Except ε α)) (f : α → Traced R β) :
    (x.onSuccess f).value = x.value.map fun a => (f a).value := by
  simp only [onSuccess, value_bind]
  cases x.value <;> rfl

theorem requests_onSuccess (x : Traced R (Except ε α)) (f : α → Traced R β) :
    (x.onSuccess f).requests =
      x.requests ++ match x.value with
        | .ok a => (f a).requests
        | .error _ => [] := by
  simp only [onSuccess, requests_bind]
  cases x.value <;> simp

theorem requests_onSuccess_pure (x : Traced R (Except ε α)) (f : α → β) :
    (x.onSuccess fun a => pure (f a)).requests = x.requests := by
  rw [requests_onSuccess]
  cases x.value <;> simp

theorem onSuccess_onSuccess {γ : Type} (x : Traced R (Except ε α)) (f : α → Traced R β)
    (g : β → Traced R γ) : (x.onSuccess f).onSuccess g = x.onSuccess fun a => f a >>= g := by
  obtain ⟨value, trace⟩ := x
  cases value <;> simp [onSuccess, bind, pure, Functor.map]

end Traced

/-! ## Terminal operations -/

namespace Terminal

variable {R Item : Type}

/-- The changes that a terminal operation makes before it evaluates. Looking for one member means
    comparing the property and wanting no more than one result, whatever the limit has been. -/
def changes : Terminal → List Change
  | .findBy property value =>
      [.call (.compare property (.matching .equal false) value), .call (.limit 1)]
  | _ => []

/-- The query that a terminal operation evaluates. -/
def query (q : Query R) : Terminal → Query R
  | .findBy property value => q.narrow property value
  | _ => q

variable [ResultSet R Item]

/-- What is asked of the narrowed result set. -/
def followUp (results : R) : Terminal → List (R × Request)
  | .result => []
  | .first | .findBy _ _ => [(results, .get 0)]
  | .last =>
      let length := ResultSet.length results
      (results, .length) :: if length = 0 then [] else [(results, .get (length - 1))]
  | .size => [(results, .length)]
  | .aggregate function property => [(results, .aggregate function property)]

/-- What is answered from the narrowed result set. -/
def answer (results : R) : Terminal → Answer R Item
  | .result => .results results
  | .first | .findBy _ _ => .item (ResultSet.get? results 0)
  | .last =>
      let length := ResultSet.length results
      .item (if length = 0 then none else ResultSet.get? results (length - 1))
  | .size => .size (ResultSet.length results)
  | .aggregate function property => .value (ResultSet.aggregate results function property)

/-- What is left of a terminal operation when the filtering has succeeded. -/
def pursue (results : R) : Terminal → Traced R (Answer R Item)
  | .result => pure (.results results)
  | .first | .findBy _ _ => .item <$> Query.memberAt 0 results
  | .last => .item <$> Query.lastMember results
  | .size => .size <$> Query.lengthOf results
  | .aggregate function property => .value <$> Query.aggregateOf function property results

theorem value_pursue (results : R) (t : Terminal) : (t.pursue results).value = t.answer results := by
  cases t with
  | last =>
      simp only [pursue, answer, Traced.value_map, Query.lastMember, Query.lengthOf, Traced.value_bind,
        Traced.value_ask]
      cases ResultSet.length results <;> rfl
  | _ => rfl

theorem requests_pursue (results : R) (t : Terminal) :
    (t.pursue results).requests = t.followUp results := by
  cases t with
  | last =>
      simp only [pursue, followUp, Traced.requests_map, Query.lastMember, Query.lengthOf,
        Traced.requests_bind, Traced.requests_ask, Traced.value_ask]
      cases ResultSet.length results <;> rfl
  | _ => simp [pursue, followUp, Query.memberAt, Query.lengthOf, Query.aggregateOf]

end Terminal

namespace Query

variable {R Item : Type} [ResultSet R Item]

/-- The handle of the query narrowed by its predicate. -/
def narrowed (q : Query R) : Except Failure R :=
  ResultSet.filtered q.results q.render.value.expression q.render.value.values

theorem build_changes (q : Query R) (t : Terminal) : q.build t.changes = .ok (t.query q) := by
  cases t <;> rfl

theorem narrowed_query (q : Query R) (t : Terminal) :
    (t.query q).narrowed = ResultSet.filtered q.results (t.query q).render.value.expression
      (t.query q).render.value.values := by
  cases t <;> rfl

theorem value_result (q : Query R) :
    q.result.value = q.narrowed.mapError (.refused q.render.value) := by
  simp only [result, Traced.value_bind, Traced.value_ask, narrowed]
  cases ResultSet.filtered q.results q.render.value.expression q.render.value.values <;> rfl

@[simp] theorem requests_render (q : Query R) : q.render.requests = [] := rfl

theorem requests_result (q : Query R) :
    q.result.requests = [(q.results, .filtered q.render.value)] := by
  simp only [result, Traced.requests_bind, Traced.requests_ask, Traced.value_ask, requests_render,
    Traced.requests_report, List.nil_append]
  cases ResultSet.filtered q.results q.render.value.expression q.render.value.values <;> rfl

theorem evaluate_eq (q : Query R) (t : Terminal) :
    q.evaluate t = (t.query q).result.onSuccess fun results => t.pursue results := by
  cases t <;>
    simp only [evaluate, first, last, size, findBy, aggregate, Traced.onSuccess_onSuccess] <;> rfl

theorem value_evaluate (q : Query R) (t : Terminal) :
    (q.evaluate t).value =
      ((t.query q).narrowed.map fun results => t.answer results).mapError
        (.refused (t.query q).render.value) := by
  simp only [evaluate_eq, Traced.value_onSuccess, value_result, Terminal.value_pursue]
  cases (t.query q).narrowed <;> rfl

theorem requests_evaluate (q : Query R) (t : Terminal) :
    (q.evaluate t).requests = (q.results, .filtered (t.query q).render.value) ::
      match (t.query q).narrowed with
      | .ok results => t.followUp results
      | .error _ => [] := by
  have handle : (t.query q).results = q.results := by cases t <;> rfl
  simp only [evaluate_eq, Traced.requests_onSuccess, requests_result, value_result, handle,
    Terminal.requests_pursue]
  cases (t.query q).narrowed <;> rfl

end Query

/-! ## Lineages -/

/-- Where the handle of a query comes from: the result set that its receivers go back to, and the
    orders asked for on the way, the first one first. -/
structure Lineage (R : Type) where
  root : R
  orders : List (String × SortOrder) := []
  deriving Repr, DecidableEq

namespace Lineage

variable {R Item : Type}

def sorted (l : Lineage R) (property : String) (order : SortOrder) : Lineage R :=
  { l with orders := l.orders ++ [(property, order)] }

variable [ResultSet R Item]

def handle (l : Lineage R) : R :=
  ResultSet.ordered l.root l.orders

theorem handle_sorted (l : Lineage R) (property : String) (order : SortOrder) :
    (l.sorted property order).handle = ResultSet.sorted l.handle property order :=
  ResultSet.ordered_append l.root l.orders [(property, order)]

end Lineage

namespace Command

variable {R : Type}

/-- The name that the new query of a command goes under. -/
def target? : Command R → Option String
  | .start _ _ target | .copy _ target | .call _ _ target | .sorted _ _ _ target
  | .merge _ _ target | .requery _ target => some target
  | .evaluate _ _ => none

/-- The lineage of the query that a command has made, given those of the queries before. A merge
    goes on with that of its receiver; what it receives contributes nothing. -/
def lineage? (known : String → Option (Lineage R)) (made : Query R) :
    Command R → Option (Lineage R)
  | .start results _ _ => some { root := results }
  | .requery _ _ => some { root := made.results }
  | .copy source _ | .call source _ _ | .merge source _ _ => known source
  | .sorted source property order _ => (known source).map (·.sorted property order)
  | .evaluate _ _ => none

/-- The commands that record something and nothing else: no order, no evaluation. -/
def records : Command R → Bool
  | .start _ _ _ | .copy _ _ | .call _ _ _ | .merge _ _ _ => true
  | .sorted _ _ _ _ | .requery _ _ | .evaluate _ _ => false

end Command

/-- A session, and beside it the lineages of its queries. -/
structure Tracked (R : Type) where
  session : Session R := {}
  lineage? : String → Option (Lineage R) := fun _ => none

/-! ## Steps of a session -/

namespace Session

variable {R Item : Type}

theorem lookup_filter_ne {name other : String} (h : other ≠ name) (queries : List (String × Query R)) :
    (queries.filter (·.1 ≠ name)).lookup other = queries.lookup other := by
  have differ : (other == name) = false := by simpa using h
  induction queries with
  | nil => rfl
  | cons entry rest ih =>
      obtain ⟨key, q⟩ := entry
      by_cases same : key = name
      · simpa [same, List.lookup_cons, differ] using ih
      · simp only [List.filter_cons, same, ne_eq, not_false_eq_true, decide_true, if_true,
          List.lookup_cons, ih]

theorem find?_store (s : Session R) (name other : String) (q : Query R) :
    (s.store name q).find? other = if other = name then some q else s.find? other := by
  by_cases same : other = name
  · simp [store, find?, same]
  · have differ : (other == name) = false := by simpa using same
    simp only [store, find?, List.lookup_cons, differ, same, if_false]
    exact lookup_filter_ne same s.queries

variable {α : Type} {s : Session R} {name : String} {q : Query R}
  {f : Query R → Traced R (Except QueryError α)}

theorem value_withSource (found : s.find? name = some q) :
    (s.withSource name f).value = (f q).value.mapError .failed := by
  simp only [withSource, found, Traced.value_bind]
  cases (f q).value <;> rfl

theorem requests_withSource (found : s.find? name = some q) :
    (s.withSource name f).requests = (f q).requests := by
  simp only [withSource, found, Traced.requests_bind]
  cases (f q).value <;> simp

theorem requests_withSource_eq_nil (none : ∀ q, (f q).requests = []) :
    (s.withSource name f).requests = [] := by
  cases found : s.find? name with
  | none => simp [withSource, found]
  | some q => rw [requests_withSource found, none]

theorem withSource_eq_ok {a : α} (h : (s.withSource name f).value = .ok a) :
    ∃ q, s.find? name = some q ∧ (f q).value = .ok a := by
  cases found : s.find? name with
  | none =>
      simp only [withSource, found] at h
      cases h
  | some q =>
      rw [value_withSource found] at h
      refine ⟨q, rfl, ?_⟩
      cases answer : (f q).value with
      | error e =>
          rw [answer] at h
          cases h
      | ok b =>
          rw [answer] at h
          cases h
          rfl

variable [ResultSet R Item]

theorem value_step (s : Session R) (c : Command R) :
    (s.step c).value = match (s.perform c).value with
      | .ok (.inl (q, name)) => (.ok (.query q), s.store name q)
      | .ok (.inr a) => (.ok (.answer a), s)
      | .error e => (.error e, s) := by
  simp only [step, Traced.value_bind]
  rcases (s.perform c).value with e | ⟨q, name⟩ | a <;> rfl

theorem requests_step (s : Session R) (c : Command R) :
    (s.step c).requests = (s.perform c).requests := by
  simp only [step, Traced.requests_bind]
  rcases (s.perform c).value with e | ⟨q, name⟩ | a <;> simp

theorem results_of_call {p : Query R} {call : Call} (h : (q.call call).value = .ok p) :
    p.results = q.results := by
  simp only [Query.call] at h
  split at h
  · cases h
    rfl
  · cases h

theorem onSuccess_eq_ok {β ε : Type} {x : Traced R (Except ε α)} {g : α → Traced R β} {b : β}
    (h : (x.onSuccess g).value = .ok b) : ∃ a, x.value = .ok a ∧ (g a).value = b := by
  rw [Traced.value_onSuccess] at h
  cases answer : x.value with
  | error e =>
      rw [answer] at h
      cases h
  | ok a =>
      rw [answer] at h
      cases h
      exact ⟨a, rfl, rfl⟩

theorem perform_merge {source other target : String} {m : Query R} (received : s.find? other = some m) :
    s.perform (.merge source other target) = s.perform (.call source (.merge m.chain) target) := by
  simp only [perform, received]

theorem perform_call_eq_ok {source target : String} {call : Call} {made : Query R}
    (h : (s.perform (.call source call target)).value = .ok (.inl (made, name))) :
    target = name ∧ ∃ q, s.find? source = some q ∧ made.results = q.results := by
  obtain ⟨q, found, answer⟩ := withSource_eq_ok h
  obtain ⟨next, called, pair⟩ := onSuccess_eq_ok answer
  cases pair
  exact ⟨rfl, q, found, results_of_call called⟩

end Session

namespace Tracked

variable {R Item : Type} [ResultSet R Item]

/-- The session after a command, with the lineage of the query that it has made, if any. -/
def follow (t : Tracked R) (c : Command R) : Tracked R where
  session := (t.session.step c).value.2
  lineage? name :=
    match (t.session.step c).value.1, c.target? with
    | .ok (.query made), some target =>
        if name = target then c.lineage? t.lineage? made else t.lineage? name
    | _, _ => t.lineage? name

/-- The session after a list of commands, from the beginning. -/
def after (commands : List (Command R)) : Tracked R :=
  commands.foldl follow {}

/-- Every query has a lineage, and its handle is what the lineage says. -/
def Descended (t : Tracked R) : Prop :=
  ∀ name q, t.session.find? name = some q →
    ∃ l, t.lineage? name = some l ∧ q.results = l.handle

variable {t : Tracked R}

/-- A new query goes on with the lineage of its receiver, or begins one. -/
theorem Descended.perform (h : t.Descended) {c : Command R} {made : Query R} {name : String}
    (answer : (t.session.perform c).value = .ok (.inl (made, name))) :
    c.target? = some name ∧ ∃ l, c.lineage? t.lineage? made = some l ∧ made.results = l.handle := by
  cases c with
  | start results options target =>
      cases answer
      exact ⟨rfl, _, rfl, rfl⟩
  | copy source target =>
      obtain ⟨q, found, same⟩ := Session.withSource_eq_ok answer
      cases same
      exact ⟨rfl, h source _ found⟩
  | call source call target =>
      obtain ⟨rfl, q, found, same⟩ := Session.perform_call_eq_ok answer
      exact ⟨rfl, same ▸ h source q found⟩
  | sorted source property order target =>
      obtain ⟨q, found, same⟩ := Session.withSource_eq_ok answer
      cases same
      obtain ⟨l, known, handle⟩ := h source q found
      refine ⟨rfl, l.sorted property order, by simp [Command.lineage?, known], ?_⟩
      rw [Lineage.handle_sorted, ← handle]
      rfl
  | merge source other target =>
      cases received : t.session.find? other with
      | none =>
          simp only [Session.perform, received] at answer
          cases answer
      | some m =>
          rw [Session.perform_merge received] at answer
          obtain ⟨rfl, q, found, same⟩ := Session.perform_call_eq_ok answer
          exact ⟨rfl, same ▸ h source q found⟩
  | requery source target =>
      obtain ⟨q, found, same⟩ := Session.withSource_eq_ok answer
      obtain ⟨results, narrowed, pair⟩ := Session.onSuccess_eq_ok same
      cases pair
      exact ⟨rfl, _, rfl, rfl⟩
  | evaluate source terminal =>
      obtain ⟨q, found, same⟩ := Session.withSource_eq_ok answer
      obtain ⟨a, evaluated, none⟩ := Session.onSuccess_eq_ok same
      cases none

theorem Descended.follow (h : t.Descended) (c : Command R) : (t.follow c).Descended := by
  intro name q found
  simp only [Tracked.follow, Session.value_step] at found ⊢
  cases answer : (t.session.perform c).value with
  | error e =>
      rw [answer] at found
      exact h name q found
  | ok done =>
      rw [answer] at found
      obtain ⟨made, target⟩ | a := done
      · obtain ⟨under, descent⟩ := h.perform answer
        simp only [under, Session.find?_store] at found ⊢
        by_cases same : name = target
        · simp only [same, if_true, Option.some.injEq] at found ⊢
          exact found ▸ descent
        · simp only [same, if_false] at found ⊢
          exact h name q found
      · exact h name q found

theorem descended_after (commands : List (Command R)) : (after commands).Descended := by
  have keep (t : Tracked R) (h : t.Descended) : (commands.foldl Tracked.follow t).Descended := by
    induction commands generalizing t with
    | nil => exact h
    | cons c rest ih => exact ih _ (h.follow c)
  exact keep {} nofun

end Tracked

/-! ## Requests of a command -/

namespace Session

variable {R Item : Type} [ResultSet R Item] {s : Session R} {source target : String} {q : Query R}

theorem requests_call (q : Query R) (call : Call) : (q.call call).requests = [] := by
  simp [Query.call, Traced.requests, List.filterMap_map, Entry.request?, Function.comp_def]

theorem requests_perform_call (s : Session R) (source target : String) (call : Call) :
    (s.perform (.call source call target)).requests = [] := by
  refine requests_withSource_eq_nil fun q => ?_
  rw [Traced.requests_onSuccess_pure, requests_call]

theorem requests_records {c : Command R} (h : c.records = true) : (s.step c).requests = [] := by
  rw [requests_step]
  cases c with
  | start results options target => rfl
  | copy source target => exact requests_withSource_eq_nil fun q => rfl
  | call source call target => exact requests_perform_call s source target call
  | merge source other target =>
      cases received : s.find? other with
      | none => simp [perform, received]
      | some m => rw [perform_merge received, requests_perform_call]
  | _ => cases h

theorem requests_step_sorted (found : s.find? source = some q) (property : String)
    (order : SortOrder) :
    (s.step (.sorted source property order target)).requests =
      [(q.results, .sorted property order)] := by
  rw [requests_step, perform, requests_withSource found]
  rfl

theorem requests_step_evaluate (found : s.find? source = some q) (t : Terminal) :
    (s.step (.evaluate source t)).requests = (q.evaluate t).requests := by
  rw [requests_step, perform, requests_withSource found, Traced.requests_onSuccess_pure]

theorem value_step_evaluate (found : s.find? source = some q) (t : Terminal) :
    (s.step (.evaluate source t)).value =
      (((q.evaluate t).value.map .answer).mapError .failed, s) := by
  rw [value_step, perform, value_withSource found, Traced.value_onSuccess]
  cases (q.evaluate t).value <;> rfl

theorem requests_step_requery (found : s.find? source = some q) :
    (s.step (.requery source target)).requests = (s.step (.evaluate source .result)).requests := by
  rw [requests_step_evaluate found, requests_step, perform, requests_withSource found,
    Traced.requests_onSuccess_pure]
  exact (Traced.requests_onSuccess_pure q.result Answer.results).symm

theorem value_step_requery (found : s.find? source = some q) :
    (s.step (.requery source target)).value =
      match q.narrowed with
      | .ok results => (.ok (.query { results }), s.store target { results })
      | .error failure => (.error (.failed (.refused q.render.value failure)), s) := by
  rw [value_step, perform, value_withSource found, Traced.value_onSuccess, Query.value_result]
  cases q.narrowed <;> rfl

end Session

/-- Carrying out a command in a session. Every handle is the root of its lineage in the orders of
    the lineage. Recording asks for nothing, and an order is passed on once to the handle. An
    evaluation has the handle filtered once, by the predicate of the query after the changes that
    the terminal operation makes. What a failure leaves is the error, with the predicate and the
    cause; what a success gives is asked for the rest. A query over the results of another
    evaluates that one and begins a lineage. -/
theorem session_delegates {R Item : Type} [ResultSet R Item] (past : List (Command R))
    (c : Command R) :
    let t := Tracked.after past
    let done := t.session.step c
    (∀ name q, t.session.find? name = some q →
      ∃ l, t.lineage? name = some l ∧ q.results = l.handle) ∧
    (c.records = true → done.requests = []) ∧
    (∀ source property order target q, c = .sorted source property order target →
      t.session.find? source = some q → done.requests = [(q.results, .sorted property order)]) ∧
    (∀ source terminal q, c = .evaluate source terminal → t.session.find? source = some q →
      ∃ asked, q.build terminal.changes = .ok asked ∧
      let p := asked.render.value
      (∀ failure, ResultSet.filtered q.results p.expression p.values = .error failure →
        done.requests = [(q.results, .filtered p)] ∧
        ∃ e, done.value = (.error (.failed e), t.session) ∧ e = .refused p failure ∧
          e.message = "failed to get result, error: " ++ failure.message ++ ";\nquery: \""
            ++ p.expression ++ "\";\nvalues: " ++ Value.listToJsonText p.values ∧
          e.causes = failure.message :: failure.causes) ∧
      ∀ results, ResultSet.filtered q.results p.expression p.values = .ok results →
        done.requests = (q.results, .filtered p) :: terminal.followUp results ∧
        done.value = (.ok (.answer (terminal.answer results)), t.session)) ∧
    ∀ source target q, c = .requery source target → t.session.find? source = some q →
      done.requests = [(q.results, .filtered q.render.value)] ∧
      done.value = match q.narrowed with
        | .ok results => (.ok (.query { results }), t.session.store target { results })
        | .error failure => (.error (.failed (.refused q.render.value failure)), t.session) := by
  refine ⟨Tracked.descended_after past, Session.requests_records, ?_, ?_, ?_⟩
  · rintro source property order target q rfl found
    exact Session.requests_step_sorted found property order
  · rintro source terminal q rfl found
    have requests := (Session.requests_step_evaluate found terminal).trans
      (q.requests_evaluate terminal)
    have value := Session.value_step_evaluate found terminal
    rw [Query.value_evaluate] at value
    refine ⟨terminal.query q, q.build_changes terminal, fun failure refused => ?_,
      fun results granted => ?_⟩
    · have narrowed := (q.narrowed_query terminal).trans refused
      rw [narrowed] at requests value
      exact ⟨requests, _, value, rfl, rfl, rfl⟩
    · have narrowed := (q.narrowed_query terminal).trans granted
      rw [narrowed] at requests value
      exact ⟨requests, value⟩
  · rintro source target q rfl found
    refine ⟨?_, Session.value_step_requery found⟩
    rw [Session.requests_step_requery found, Session.requests_step_evaluate found,
      Query.requests_evaluate]
    simp only [Terminal.query]
    cases q.narrowed <;> rfl

/-- Two queries in one session. The one was merged with a query over other rows in another order,
    which are never asked; the other is over a store that refuses everything, and looking for one
    member of it overwrites its limit. -/
theorem session_delegates_merged :
    ∃ (past : List (Command Scripted)) (rows refusing : Scripted),
      past = [.start { rows := ["x", "y"] } {} "a", .sorted "a" "p" .descending "b",
        .start { failure := some ⟨"down", []⟩ } {} "c", .sorted "c" "q" .ascending "c",
        .call "c" (.limit 5) "c", .call "a" (.constant true) "d", .merge "b" "d" "b"] ∧
      rows = { rows := ["x", "y"], sortKeys := [("p", .descending)] } ∧
      refusing = { failure := some ⟨"down", []⟩, sortKeys := [("q", .ascending)] } ∧
      let s := (Tracked.after past).session
      let last := s.step (.evaluate "b" .last)
      let found := s.step (.evaluate "c" (.findBy "id" .null))
      let wanted : Predicate := ⟨"id == $0 LIMIT(1)", [.null]⟩
      last.requests = [(rows, .filtered ⟨"TRUEPREDICATE", []⟩), (rows, .length), (rows, .get 1)] ∧
      last.value = (.ok (.answer (.item (some "y"))), s) ∧
      found.requests = [(refusing, .filtered wanted)] ∧
      found.value = (.error (.failed (.refused wanted ⟨"down", []⟩)), s) := by
  refine ⟨_, _, _, rfl, rfl, rfl, ?_⟩
  have delegates := session_delegates (R := Scripted)
    [.start { rows := ["x", "y"] } {} "a", .sorted "a" "p" .descending "b",
        .start { failure := some ⟨"down", []⟩ } {} "c", .sorted "c" "q" .ascending "c",
        .call "c" (.limit 5) "c", .call "a" (.constant true) "d", .merge "b" "d" "b"]
  obtain ⟨_, last, -, granted⟩ := (delegates (.evaluate "b" .last)).2.2.2.1 "b" _ _ rfl rfl
  obtain ⟨_, found, refused, -⟩ :=
    (delegates (.evaluate "c" (.findBy "id" .null))).2.2.2.1 "c" _ _ rfl rfl
  cases last
  cases found
  obtain ⟨asked, answer⟩ := granted _ rfl
  obtain ⟨wanted, _, failed, rfl, -⟩ := refused _ rfl
  exact ⟨asked, answer, wanted, failed⟩

end FilterQuery
