import CiteSync.Proofs.Completion.Cycles

/-!
# What is loaded

A session stores nothing before its first cycle has ended, and what it stores can be presented.
Whatever is done with a panel, this holds of the session of every bibliography, because its loads
are cycles, and those remember nothing but what was stored once.
-/

namespace CiteSync.Session

open Library Remote FrontMatter

variable {s : Session}

/-! ## 1. Sessions -/

/-- A session whose works can be presented, and that has none before a cycle has ended. -/
structure Sound (s : Session) : Prop where
  whole : s.store.Whole
  unloaded : s.hasLoaded = false → s.store = .empty

/-- A cycle that ends has ended. -/
theorem Outcome.finish_unloaded {P : Prop} (o : Outcome) (document : Document) (elapsed : Float)
    (h : (o.finish document elapsed).session.hasLoaded = false) : P := by
  simp [finish, hasLoaded, countCycle] at h

theorem Sound.opened (path : Option String) : (Session.opened path).Sound :=
  ⟨Store.Whole.empty, fun _ => rfl⟩

theorem Sound.of_eq {s' : Session} (h : s.Sound) (hstore : s'.store = s.store)
    (hcycles : s'.cycles = s.cycles) : s'.Sound where
  whole := hstore ▸ h.whole
  unloaded := by
    unfold hasLoaded
    rw [hcycles, hstore]
    exact h.unloaded

theorem close_cycles (s : Session) : s.close.cycles = s.cycles := by
  unfold close
  split <;> rfl

theorem Sound.close (h : s.Sound) : s.close.Sound := by
  have hstore := s.close_store
  cases hclosed : s.closed with
  | true =>
    rw [hclosed] at hstore
    exact h.of_eq hstore s.close_cycles
  | false =>
    rw [hclosed] at hstore
    have hempty : s.close.store = .empty := hstore
    exact ⟨by rw [hempty]; exact Store.Whole.empty, fun _ => hempty⟩

theorem Sound.reset (_ : s.Sound) : s.reset.Sound := ⟨Store.Whole.empty, fun _ => rfl⟩

theorem Sound.atArrival (h : s.Sound) {α : Type} (arrival : Arrival α) :
    (s.atArrival arrival).Sound := by
  rcases s.atArrival_cases arrival with ha | ha
  · rwa [ha]
  · rw [ha]
    exact h.close

theorem Sound.start (h : s.Sound) (scope : Scope) : (s.start scope).2.Sound := by
  unfold Session.start
  split
  · exact ⟨Store.Whole.empty, fun _ => rfl⟩
  · exact h.of_eq rfl rfl

theorem takeSpecs_cycles (s : Session) (reply : Reply (List Spec)) :
    (s.takeSpecs reply).1.cycles = s.cycles := by
  unfold takeSpecs
  split <;> rfl

theorem Sound.hearTree (h : s.Sound) (document : Document) (elapsed : Float)
    (arrival : Arrival (Reply (List Spec))) :
    (s.hearTree document elapsed arrival).session.Sound := by
  have harrived := h.atArrival arrival
  unfold Session.hearTree
  split
  next reply _ =>
    exact harrived.of_eq ((s.atArrival arrival).takeSpecs_store reply).1
      ((s.atArrival arrival).takeSpecs_cycles reply)
  next => exact ⟨harrived.whole, Outcome.finish_unloaded _ document elapsed⟩
  next => exact harrived

theorem Sound.conclude (h : s.Sound) (document : Document) (elapsed : Float) {request : Request}
    (hprevious : request.previous.Whole) (arrival : Arrival (Reply (List Collection))) :
    (s.conclude document elapsed request arrival).session.Sound where
  whole := Traffic.conclude_holds .empty
    (fun _ _ _ _ hstore hprevious => settle_whole hstore hprevious) h.whole document elapsed
    hprevious arrival
  unloaded := by
    unfold Session.conclude
    -- only a cycle that was cancelled does not count, and that one stores nothing
    split
    next => exact Outcome.finish_unloaded _ document elapsed
    next => exact Outcome.finish_unloaded _ document elapsed
    next => exact (h.atArrival arrival).unloaded

/-! ## 2. Histories -/

namespace Traffic

variable {t : Traffic}

/-- A sound session, and cycles that remember nothing but what can be presented. -/
structure Sound (t : Traffic) : Prop where
  session : t.session.Sound
  holds : t.Holds Store.Whole

theorem Sound.opened (path : Option String) : (opened path).Sound :=
  ⟨.opened path, .empty, fun _ hcycle => (List.not_mem_nil hcycle).elim⟩

theorem Sound.step (h : t.Sound) (event : Event) : (t.step event).session.Sound := by
  cases event with
  | load document given =>
    show (t.load document given).session.Sound
    unfold load
    split
    next => exact h.session
    next scope _ =>
      have hstarted := h.session.start scope
      split <;> next hstart => rw [hstart] at hstarted; exact hstarted
  | tree number elapsed arrival =>
    show (t.hearTree number elapsed arrival).session.Sound
    unfold hearTree
    split
    next document _ _ => exact h.session.hearTree document elapsed arrival
    next => exact h.session
  | collections number elapsed arrival =>
    show (t.hearCollections number elapsed arrival).session.Sound
    unfold hearCollections
    split
    next document request hat =>
      -- what was stored when the cycle asked is sound as well
      have hprevious := h.holds.pending _ (List.mem_of_getElem? hat) request rfl
      exact h.session.conclude document elapsed hprevious arrival
    next => exact h.session
  | close => exact h.session.close

theorem Sound.meet (h : t.Sound) (occurrence : Occurrence) : (t.meet occurrence).Sound where
  session := by
    cases occurrence with
    | reset => exact h.session.reset
    | event event => exact h.step event
  holds := h.holds.meet .empty
    (fun _ _ _ _ hstore hprevious => settle_whole hstore hprevious) occurrence

theorem Sound.history (h : t.Sound) (occurrences : List Occurrence) :
    (t.history occurrences).Sound := by
  induction occurrences generalizing t with
  | nil => exact h
  | cons occurrence rest ih => exact ih (h.meet occurrence)

theorem Sound.run (h : t.Sound) (events : List Event) : (t.run events).Sound := by
  induction events generalizing t with
  | nil => exact h
  | cons event rest ih => exact ih (h.meet (.event event))

end Traffic

end CiteSync.Session

namespace CiteSync.Completion

open Library Remote Session

variable {σ : Type} {library : RemoteLibrary σ}

/-! ## 3. Bibliographies -/

variable (library) in
/-- A bibliography that does what a sound traffic does. -/
def Bibliography.Sound (b : Bibliography σ) : Prop :=
  ∃ t place, b.Follows library t place ∧ t.Sound

theorem Bibliography.Sound.session {b : Bibliography σ} (h : b.Sound library) :
    b.session.Sound := by
  obtain ⟨t, place, hfollows, ht⟩ := h
  rw [hfollows.session]
  exact ht.session

variable (library) in
/-- A provider whose session is sound, if it has one. -/
def Provider.Sound : Provider σ → Prop
  | bibliography b => b.Sound library
  | _ => True

theorem Provider.Turn.sound {called warned : Prop} {q q' : Provider σ}
    (h : Turn library called warned q q') (sound : q.Sound library) : q'.Sound library := by
  cases q with
  | prepared | references => cases h <;> trivial
  | bibliography b =>
    obtain ⟨t, place, hfollows, ht⟩ := sound
    obtain ⟨-, warning, rfl⟩ | ⟨b', rfl, events, place', -, hfollows'⟩ := hfollows.turn h
    · -- a warning changes nothing of what can be presented
      have hsession : ({ b.session with warning } : Session) = { t.session with warning } := by
        rw [hfollows.session]
      exact ⟨{ t with session := { t.session with warning } }, place,
        { hfollows with session := hsession }, ht.session.of_eq rfl rfl, ht.holds.session,
        ht.holds.pending⟩
    · exact ⟨t.run events, place', hfollows', ht.run events⟩

end CiteSync.Completion
