import CiteSync.Proofs.Session.Merging
import CiteSync.Session.Cycle

/-!
# What each step does to the store

A cycle takes the store only in its last step, and only while the document is open.  Each step has
one lemma that says what becomes of the store and of the document being open.
-/

namespace CiteSync

open Library Remote

/-- The message of a reply that says that the call succeeded. -/
def Library.Reply.sent? {α : Type} (r : Reply α) : Option α := if r.ok then r.message else none

/-- The message that arrived. -/
def Remote.Arrival.sent? {α : Type} (a : Arrival (Reply α)) : Option α :=
  match a.result with
  | .ok reply => reply.sent?
  | .error _ => none

namespace Session

variable (s : Session)

/-! ## Closing -/

theorem close_closed : s.close.closed = true := by
  unfold close
  split
  next h => exact h
  next => rfl

theorem close_store : s.close.store = if s.closed then s.store else .empty := by
  unfold close
  split <;> rfl

/-- An answer finds the document as it was, or closed. -/
theorem atArrival_cases {α : Type} (arrival : Arrival α) :
    s.atArrival arrival = s ∨ s.atArrival arrival = s.close := by
  unfold atArrival
  split
  · exact .inr rfl
  · exact .inl rfl

theorem atArrival_of_not_closing {s : Session} {α : Type} {arrival : Arrival α}
    (h : arrival.closing = false) : s.atArrival arrival = s := by
  unfold atArrival
  rw [h]
  rfl

theorem atArrival_of_closed {s : Session} {α : Type} {arrival : Arrival α}
    (h : s.closed = true) : s.atArrival arrival = s := by
  unfold atArrival close
  rw [h]
  split <;> rfl

/-! ## The steps of a cycle -/

theorem wanted_open {document : Document} {given : Option FrontMatter.Scope}
    {scope : FrontMatter.Scope} (h : s.wanted document given = .ok scope) :
    s.closed = false ∧ asked document given = .ok scope := by
  unfold wanted checkOpen at h
  cases hs : s.closed with
  | true =>
    rw [hs] at h
    cases h
  | false =>
    rw [hs] at h
    exact ⟨rfl, h⟩

theorem start_closed (scope : FrontMatter.Scope) : (s.start scope).2.closed = s.closed := by
  unfold start
  split <;> rfl

theorem start_store (scope : FrontMatter.Scope) :
    (s.start scope).2.store = if scope = .nothing then .empty else s.store := by
  unfold start
  split <;> rfl

theorem start_asking {scope : FrontMatter.Scope} (h : scope ≠ .nothing) :
    s.start scope =
      (.asking ⟨scope.roots, s.store, s.trustsCache⟩, { s with enabled := true }) := by
  unfold start
  rw [if_neg h]

theorem takeSpecs_store (answer : Reply (List Spec)) :
    (s.takeSpecs answer).1.store = s.store ∧ (s.takeSpecs answer).1.closed = s.closed := by
  unfold takeSpecs
  split <;> exact ⟨rfl, rfl⟩

/-- The answer about the tree leaves the store alone. -/
theorem hearTree_store (document : Document) (elapsed : Float)
    (arrival : Arrival (Reply (List Spec))) :
    (s.hearTree document elapsed arrival).session.store = (s.atArrival arrival).store ∧
      (s.hearTree document elapsed arrival).session.closed = (s.atArrival arrival).closed := by
  unfold hearTree
  split
  next answer _ => exact (s.atArrival arrival).takeSpecs_store answer
  next => exact ⟨rfl, rfl⟩
  next => exact ⟨rfl, rfl⟩

/-- The answer about the collections is committed if it has a message and the document is open. -/
theorem takeCollections_store (r : Request) (answer : Reply (List Collection)) :
    (s.takeCollections r answer).session.closed = s.closed ∧
      (s.takeCollections r answer).session.store =
        match s.closed, answer.sent? with
        | false, some sent => ⟨settle (mergeAll r.useCache s.store r.previous sent)⟩
        | _, _ => s.store := by
  unfold takeCollections Reply.sent?
  rcases hok : answer.ok with _ | _ <;> rcases hm : answer.message with _ | sent <;>
    rcases s.closed with _ | _ <;> simp [commit]

theorem conclude_store (document : Document) (elapsed : Float) (r : Request)
    (arrival : Arrival (Reply (List Collection))) :
    (s.conclude document elapsed r arrival).session.closed = (s.atArrival arrival).closed ∧
      (s.conclude document elapsed r arrival).session.store =
        match (s.atArrival arrival).closed, arrival.sent? with
        | false, some sent =>
          ⟨settle (mergeAll r.useCache (s.atArrival arrival).store r.previous sent)⟩
        | _, _ => (s.atArrival arrival).store := by
  -- only the arrival of a reply gets as far as the store
  unfold conclude Arrival.sent?
  rcases arrival.result with (note | cause) | answer
  · refine ⟨rfl, ?_⟩
    cases (s.atArrival arrival).closed <;> rfl
  · refine ⟨rfl, ?_⟩
    cases (s.atArrival arrival).closed <;> rfl
  · exact (s.atArrival arrival).takeCollections_store r answer

end Session

end CiteSync
