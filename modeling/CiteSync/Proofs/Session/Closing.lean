import CiteSync.Proofs.Session.Disabling

/-!
# Documents that were closed

Closing a document empties its session.  A load that waits then goes on all the same.  What it
brings never gets into the store, but the shapes of the collections and the warning do not ask
whether the document is still open.  So a closed session stays empty exactly as long as no answer
about the tree brings shapes, and no answer about the collections warns, after the document was
closed.
-/

namespace CiteSync.Session

open Library Remote FrontMatter

variable {s : Session}

/-! ## 1. Torn down -/

/-- Nothing is left of what was known of the library. -/
structure TornDown (s : Session) : Prop where
  store : s.store = .empty
  specs : s.specs = []
  warning : s.warning = none

instance : Decidable s.TornDown :=
  decidable_of_iff (s.store.collections = [] ∧ s.specs = [] ∧ s.warning = none)
    ⟨fun ⟨hstore, hspecs, hwarning⟩ => ⟨congrArg Store.mk hstore, hspecs, hwarning⟩,
      fun h => ⟨congrArg Store.collections h.store, h.specs, h.warning⟩⟩

/-- What holds of a session that is torn down, and of this one if it is closed, holds once it is
closed. -/
theorem close_holds {P : Session → Prop} (empty : ∀ s' : Session, s'.TornDown → P s')
    (h : s.closed = true → P s) : P s.close := by
  unfold close
  split
  next hclosed => exact h hclosed
  next => exact empty _ ⟨rfl, rfl, rfl⟩

/-- The document may have been closed while the reply was on its way. -/
theorem atArrival_closed {P : Session → Prop} (empty : ∀ s' : Session, s'.TornDown → P s')
    {α : Type} {arrival : Arrival α} (h : s.closed = true → P s)
    (hclosed : (s.atArrival arrival).closed = true) : P (s.atArrival arrival) := by
  rcases s.atArrival_cases arrival with ha | ha
  · rw [ha] at hclosed ⊢
    exact h hclosed
  · rw [ha]
    exact close_holds empty h

theorem hearTree_warning (document : Document) (elapsed : Float)
    (arrival : Arrival (Reply (List Spec))) :
    (s.hearTree document elapsed arrival).session.warning = (s.atArrival arrival).warning := by
  unfold hearTree
  split
  next answer _ =>
    unfold takeSpecs
    split <;> rfl
  next => rfl
  next => rfl

/-- The warning is that of the last reply that arrived, however the reply answers. -/
theorem conclude_warning (document : Document) (elapsed : Float) (r : Request)
    (arrival : Arrival (Reply (List Collection))) :
    (s.conclude document elapsed r arrival).session.warning =
      match arrival.result with
      | .ok reply => reply.warning
      | .error _ => (s.atArrival arrival).warning := by
  unfold conclude
  rcases arrival.result with (note | cause) | answer
  · rfl
  · rfl
  · unfold takeCollections
    cases hok : answer.ok <;> cases hm : answer.message <;>
      cases hc : (s.atArrival arrival).closed <;>
      simp [Outcome.finish, countCycle, commit, hok, hm, hc]

/-! ## 2. What gets into a closed session -/

namespace Traffic

variable {t : Traffic}

/-- Whether an event is an answer that leaves something in a session that is closed when it
arrives. -/
def Leaks (t : Traffic) : Event → Prop
  | .tree number _ arrival =>
    (∃ document request, t.cycles[number]? = some ⟨document, .askingTree request⟩) ∧
      (t.session.atArrival arrival).closed = true ∧
      ∃ specs, arrival.sent? = some specs ∧ specs ≠ []
  | .collections number _ arrival =>
    (∃ document request, t.cycles[number]? = some ⟨document, .askingCollections request⟩) ∧
      (t.session.atArrival arrival).closed = true ∧
      ∃ reply, arrival.result = .ok reply ∧ reply.warning ≠ none
  | .load .. => False
  | .close => False

/-- A load that begins on a closed session is refused. -/
theorem load_closed (document : Document) (given : Option Scope)
    (h : (t.load document given).session.closed = true) :
    (t.load document given).session = t.session ∧ t.session.closed = true := by
  unfold load at h ⊢
  split at h
  next => exact ⟨rfl, h⟩
  next scope hwanted =>
    have hopen : (t.session.start scope).2.closed = false := by
      rw [start_closed]
      exact (t.session.wanted_open hwanted).1
    split at h <;> next hs =>
      rw [hs] at hopen
      rw [hopen] at h
      cases h

theorem hearTree_tornDown (holds : t.session.closed = true → t.session.TornDown) (number : Nat)
    (elapsed : Float) (arrival : Arrival (Reply (List Spec)))
    (h : (t.hearTree number elapsed arrival).session.closed = true) :
    (t.hearTree number elapsed arrival).session.TornDown ↔
      ¬ t.Leaks (.tree number elapsed arrival) := by
  unfold hearTree at h ⊢
  unfold Leaks
  split at h
  next document request hat =>
    obtain ⟨hstore, hclosed⟩ := t.session.hearTree_store document elapsed arrival
    have hspecs := (t.session.hearTree_specs document elapsed arrival).2
    have hwarning := hearTree_warning (s := t.session) document elapsed arrival
    rw [hclosed] at h
    have hdown := atArrival_closed (fun _ hdown => hdown) holds h
    -- of all that is torn down only the shapes may have come back
    have hiff : (t.session.hearTree document elapsed arrival).session.TornDown ↔
        arrival.sent?.getD [] = [] := by
      rw [hdown.specs] at hspecs
      exact ⟨fun hd => hspecs.symm.trans hd.specs,
        fun hnone => ⟨hstore.trans hdown.store, hspecs.trans hnone,
          hwarning.trans hdown.warning⟩⟩
    rw [hiff]
    cases hsent : arrival.sent? <;> simp [hat, h, hsent]
  next hnot =>
    refine iff_of_true (holds h) ?_
    rintro ⟨⟨document, request, hat⟩, -⟩
    exact hnot document request hat

theorem hearCollections_tornDown (holds : t.session.closed = true → t.session.TornDown)
    (number : Nat) (elapsed : Float) (arrival : Arrival (Reply (List Collection)))
    (h : (t.hearCollections number elapsed arrival).session.closed = true) :
    (t.hearCollections number elapsed arrival).session.TornDown ↔
      ¬ t.Leaks (.collections number elapsed arrival) := by
  unfold hearCollections at h ⊢
  unfold Leaks
  split at h
  next document request hat =>
    obtain ⟨hclosed, hstore⟩ := t.session.conclude_store document elapsed request arrival
    have hspecs := (t.session.conclude_specs document elapsed request arrival).2
    have hwarning := conclude_warning (s := t.session) document elapsed request arrival
    rw [hclosed] at h
    have hdown := atArrival_closed (fun _ hdown => hdown) holds h
    simp only [h] at hstore
    -- the store is guarded, the warning is not
    have hiff : (t.session.conclude document elapsed request arrival).session.TornDown ↔
        (t.session.conclude document elapsed request arrival).session.warning = none :=
      ⟨fun hd => hd.warning,
        fun hnone => ⟨hstore.trans hdown.store, hspecs.trans hdown.specs, hnone⟩⟩
    rw [hiff, hwarning]
    cases hresult : arrival.result <;> simp [hat, h, hresult, hdown.warning]
  next hnot =>
    refine iff_of_true (holds h) ?_
    rintro ⟨⟨document, request, hat⟩, -⟩
    exact hnot document request hat

/-- An event that leaves the session closed leaves it torn down exactly if it does not leak. -/
theorem step_tornDown (holds : t.session.closed = true → t.session.TornDown) {event : Event}
    (h : (t.step event).session.closed = true) :
    (t.step event).session.TornDown ↔ ¬ t.Leaks event := by
  cases event with
  | load document given =>
    obtain ⟨hsame, hclosed⟩ := load_closed document given h
    have hdown : (t.load document given).session.TornDown := hsame ▸ holds hclosed
    exact iff_of_true hdown fun hleaks => hleaks
  | tree number elapsed arrival => exact hearTree_tornDown holds number elapsed arrival h
  | collections number elapsed arrival =>
    exact hearCollections_tornDown holds number elapsed arrival h
  | close => exact iff_of_true (close_holds (fun _ hdown => hdown) holds) fun hleaks => hleaks

/-- Nothing leaks into a session that stays open. -/
theorem closed_of_leaks {event : Event} (h : t.Leaks event) :
    (t.step event).session.closed = true := by
  cases event with
  | load document given => exact h.elim
  | tree number elapsed arrival =>
    obtain ⟨⟨document, request, hat⟩, hclosed, -⟩ := h
    show (t.hearTree number elapsed arrival).session.closed = true
    unfold hearTree
    rw [hat]
    exact (t.session.hearTree_store document elapsed arrival).2.trans hclosed
  | collections number elapsed arrival =>
    obtain ⟨⟨document, request, hat⟩, hclosed, -⟩ := h
    show (t.hearCollections number elapsed arrival).session.closed = true
    unfold hearCollections
    rw [hat]
    exact (t.session.conclude_store document elapsed request arrival).1.trans hclosed
  | close => exact h.elim

theorem step_closed_store (holds : t.session.closed = true → t.session.store = .empty)
    {event : Event} (h : (t.step event).session.closed = true) :
    (t.step event).session.store = .empty := by
  cases event with
  | load document given =>
    obtain ⟨hsame, hclosed⟩ := load_closed document given h
    exact (congrArg Session.store hsame).trans (holds hclosed)
  | tree number elapsed arrival =>
    change (t.hearTree number elapsed arrival).session.closed = true at h
    show (t.hearTree number elapsed arrival).session.store = .empty
    unfold hearTree at h ⊢
    split at h
    next document request hat =>
      obtain ⟨hstore, hclosed⟩ := t.session.hearTree_store document elapsed arrival
      exact hstore.trans
        (atArrival_closed (fun _ hdown => hdown.store) holds (hclosed.symm.trans h))
    next => exact holds h
  | collections number elapsed arrival =>
    change (t.hearCollections number elapsed arrival).session.closed = true at h
    show (t.hearCollections number elapsed arrival).session.store = .empty
    unfold hearCollections at h ⊢
    split at h
    next document request hat =>
      -- a cycle that concludes in a closed session leaves the store
      obtain ⟨hclosed, hstore⟩ := t.session.conclude_store document elapsed request arrival
      rw [hclosed] at h
      simp only [h] at hstore
      exact hstore.trans (atArrival_closed (fun _ hdown => hdown.store) holds h)
    next => exact holds h
  | close => exact close_holds (fun _ hdown => hdown.store) holds

/-- Nothing that arrives gets into the store of a document that was closed. -/
theorem run_closed_store (path : Option String) (events : List Event)
    (h : ((opened path).run events).session.closed = true) :
    ((opened path).run events).session.store = .empty := by
  induction events using List.reverseRecOn with
  | nil => rfl
  | append_singleton first event ih =>
    rw [run_append] at h ⊢
    exact step_closed_store ih h

end Traffic

/-! ## 3. Runs -/

/-- However the loads of a document interleave with its closing, a closed session stays closed and
stores nothing, and it is torn down at every moment exactly if nothing leaks into it. -/
theorem closed_session_stays_torn_down_iff (path : Option String) (events : List Event) :
    (∀ first later, first ++ later <+: events →
        ((Traffic.opened path).run first).session.closed = true →
          ((Traffic.opened path).run (first ++ later)).session.closed = true ∧
          ((Traffic.opened path).run (first ++ later)).session.store = .empty) ∧
      ((∀ first, first <+: events → ((Traffic.opened path).run first).session.closed = true →
          ((Traffic.opened path).run first).session.TornDown) ↔
        ∀ first event, first ++ [event] <+: events →
          ¬ ((Traffic.opened path).run first).Leaks event) := by
  have hsnoc : ∀ first event, (Traffic.opened path).run (first ++ [event]) =
      ((Traffic.opened path).run first).step event := fun first event =>
    Traffic.run_append first [event]
  refine ⟨fun first later _ hclosed => ?_, ?_, ?_⟩
  · have hstays : ((Traffic.opened path).run (first ++ later)).session.closed = true := by
      rw [Traffic.run_append]
      exact Traffic.run_closed hclosed later
    exact ⟨hstays, Traffic.run_closed_store path (first ++ later) hstays⟩
  · intro holds first event hprefix hleaks
    have hbefore := holds first ((List.prefix_append first [event]).trans hprefix)
    have hclosed := Traffic.closed_of_leaks hleaks
    have hdown := holds (first ++ [event]) hprefix (hsnoc first event ▸ hclosed)
    rw [hsnoc] at hdown
    exact (Traffic.step_tornDown hbefore hclosed).1 hdown hleaks
  · intro tight first
    -- the session is open at first, and closing it tears it down
    induction first using List.reverseRecOn with
    | nil => exact fun _ h => by cases h
    | append_singleton first event ih =>
      intro hprefix hclosed
      rw [hsnoc] at hclosed ⊢
      exact (Traffic.step_tornDown (ih ((List.prefix_append first [event]).trans hprefix))
        hclosed).2 (tight first event hprefix)

/-- A load that waits for the collection tree when the document is closed. -/
def lateTree : List Event :=
  [.load {} (some .all), .close,
    .tree 0 0 { result := .ok (.success [{ key := "K", name := "K", version := 1 }] none) }]

/-- A load that waits for the collections when the document is closed, and whose answer warns. -/
def lateWarning : List Event :=
  [.load {} (some .all), .tree 0 0 { result := .ok (.success [] none) }, .close,
    .collections 0 0 { result := .ok (.success [] (some "slow")) }]

/-- After the document was closed, the session has the shapes of collections again, or a warning. -/
theorem late_answers_reach_closed_session :
    (((Traffic.opened none).run lateTree).session.closed = true ∧
      ¬ ((Traffic.opened none).run lateTree).session.TornDown ∧
      ((Traffic.opened none).run lateTree).session.specs.map (·.key) = ["K"]) ∧
    ((Traffic.opened none).run lateWarning).session.closed = true ∧
      ¬ ((Traffic.opened none).run lateWarning).session.TornDown ∧
      ((Traffic.opened none).run lateWarning).session.warning = some "slow" := by
  decide

end CiteSync.Session
