import CiteSync.Proofs.Session.Interleaving
import Mathlib.Data.List.Induction

/-!
# Documents that no longer want the library

A load that finds the library not wanted empties the session at once.  A load that began before goes
on, though, and what arrives for it is kept.  So a session that is not in use holds nothing exactly
as long as nothing with contents arrives for a load while it is not in use.
-/

namespace CiteSync.Session

open Library Remote FrontMatter

variable (s : Session)

/-! ## 1. What each step does to a session that holds nothing -/

theorem holdsAnything_eq_false :
    s.holdsAnything = false ↔ s.store.collections = [] ∧ s.specs = [] := by
  simp [holdsAnything, Store.isEmpty]

theorem close_holdsAnything (h : s.holdsAnything = false) : s.close.holdsAnything = false := by
  unfold close
  split
  · exact h
  · rfl

theorem close_enabled : s.close.enabled = s.enabled := by
  unfold close
  split <;> rfl

theorem atArrival_enabled {α : Type} (arrival : Arrival α) :
    (s.atArrival arrival).enabled = s.enabled := by
  rcases s.atArrival_cases arrival with h | h
  · rw [h]
  · rw [h, close_enabled]

theorem atArrival_holdsAnything {α : Type} (arrival : Arrival α) (h : s.holdsAnything = false) :
    (s.atArrival arrival).holdsAnything = false := by
  rcases s.atArrival_cases arrival with ha | ha
  · rw [ha]
    exact h
  · rw [ha]
    exact s.close_holdsAnything h

theorem start_disabled {scope : Scope} (h : (s.start scope).2.enabled = false) :
    (s.start scope).2.holdsAnything = false := by
  unfold start at h ⊢
  split at h
  next hscope =>
    rw [if_pos hscope]
    rfl
  next => cases h

/-- The answer about the tree changes the shapes of the collections, and nothing else that is
held. -/
theorem hearTree_specs (document : Document) (elapsed : Float)
    (arrival : Arrival (Reply (List Spec))) :
    (s.hearTree document elapsed arrival).session.enabled = s.enabled ∧
      (s.hearTree document elapsed arrival).session.specs =
        arrival.sent?.getD (s.atArrival arrival).specs := by
  rw [← s.atArrival_enabled arrival]
  unfold hearTree Arrival.sent?
  rcases arrival.result with (note | cause) | answer
  · exact ⟨rfl, rfl⟩
  · exact ⟨rfl, rfl⟩
  · unfold takeSpecs Reply.sent?
    cases hok : answer.ok <;> cases hm : answer.message <;> simp [hok, hm]

/-- The answer about the collections leaves their shapes alone. -/
theorem conclude_specs (document : Document) (elapsed : Float) (r : Request)
    (arrival : Arrival (Reply (List Collection))) :
    (s.conclude document elapsed r arrival).session.enabled = s.enabled ∧
      (s.conclude document elapsed r arrival).session.specs = (s.atArrival arrival).specs := by
  rw [← s.atArrival_enabled arrival]
  unfold conclude
  rcases arrival.result with (note | cause) | answer
  · exact ⟨rfl, rfl⟩
  · exact ⟨rfl, rfl⟩
  · unfold takeCollections
    cases hok : answer.ok <;> cases hm : answer.message <;>
      cases hc : (s.atArrival arrival).closed <;>
      simp [Outcome.finish, countCycle, commit, hok, hm, hc]

/-! ## 2. Answers with contents -/

namespace Traffic

variable (t : Traffic)

/-- Whether an event is an answer that brings something to the session: one with contents, for a
cycle that waits for it.  Collections are brought only to a document that is open. -/
def Brings : Event → Prop
  | .tree number _ arrival =>
    (∃ document request, t.cycles[number]? = some ⟨document, .askingTree request⟩) ∧
      ∃ specs, arrival.sent? = some specs ∧ specs ≠ []
  | .collections number _ arrival =>
    (∃ document request, t.cycles[number]? = some ⟨document, .askingCollections request⟩) ∧
      (t.session.atArrival arrival).closed = false ∧
      ∃ sent, arrival.sent? = some sent ∧ sent ≠ []
  | .load .. => False
  | .close => False

variable {t}

/-- Only a load that begins changes whether the session is in use. -/
theorem step_enabled {event : Event} (h : ∀ document given, event ≠ .load document given) :
    (t.step event).session.enabled = t.session.enabled := by
  cases event with
  | load document given => exact absurd rfl (h document given)
  | tree number elapsed arrival =>
    show (t.hearTree number elapsed arrival).session.enabled = _
    unfold hearTree
    split
    next document _ _ => exact (t.session.hearTree_specs document elapsed arrival).1
    next => rfl
  | collections number elapsed arrival =>
    show (t.hearCollections number elapsed arrival).session.enabled = _
    unfold hearCollections
    split
    next document request _ => exact (t.session.conclude_specs document elapsed request arrival).1
    next => rfl
  | close => exact t.session.close_enabled

theorem hearTree_brings (holds : t.session.holdsAnything = false) (number : Nat) (elapsed : Float)
    (arrival : Arrival (Reply (List Spec))) :
    (t.hearTree number elapsed arrival).session.holdsAnything = false ↔
      ¬ t.Brings (.tree number elapsed arrival) := by
  unfold hearTree Brings
  split
  next document request hat =>
    have hstore := (t.session.hearTree_store document elapsed arrival).1
    have hspecs := (t.session.hearTree_specs document elapsed arrival).2
    obtain ⟨hnone, hempty⟩ :=
      (holdsAnything_eq_false _).1 (t.session.atArrival_holdsAnything arrival holds)
    rw [holdsAnything_eq_false, hstore, hspecs, hnone, hempty]
    cases hsent : arrival.sent? <;> simp [hat, hsent]
  next hnot =>
    refine iff_of_true holds ?_
    rintro ⟨⟨document, request, hat⟩, -⟩
    exact hnot document request hat

theorem hearCollections_brings (holds : t.session.holdsAnything = false) (number : Nat)
    (elapsed : Float) (arrival : Arrival (Reply (List Collection))) :
    (t.hearCollections number elapsed arrival).session.holdsAnything = false ↔
      ¬ t.Brings (.collections number elapsed arrival) := by
  unfold hearCollections Brings
  split
  next document request hat =>
    have hstore := (t.session.conclude_store document elapsed request arrival).2
    have hspecs := (t.session.conclude_specs document elapsed request arrival).2
    obtain ⟨hnone, hempty⟩ :=
      (holdsAnything_eq_false _).1 (t.session.atArrival_holdsAnything arrival holds)
    rw [holdsAnything_eq_false, hstore, hspecs, hempty]
    -- a merge keeps as many collections as were sent
    have hkept : ∀ sent, settle (mergeAll request.useCache (t.session.atArrival arrival).store
        request.previous sent) = [] ↔ sent = [] := by
      intro sent
      rw [← List.map_eq_nil_iff (f := fun c : Collection => c.key), settle_keys,
        List.map_eq_nil_iff]
    cases hclosed : (t.session.atArrival arrival).closed <;> cases hsent : arrival.sent? <;>
      simp [hat, hnone, hkept, hclosed, hsent]
  next hnot =>
    refine iff_of_true holds ?_
    rintro ⟨⟨document, request, hat⟩, -⟩
    exact hnot document request hat

theorem load_disabled (holds : t.session.enabled = false → t.session.holdsAnything = false)
    (document : Document) (given : Option Scope)
    (h : (t.load document given).session.enabled = false) :
    (t.load document given).session.holdsAnything = false := by
  unfold load at h ⊢
  split at h
  next => exact holds h
  next scope _ =>
    have hstart : (t.session.start scope).2.enabled = false →
        (t.session.start scope).2.holdsAnything = false := t.session.start_disabled
    split at h
    next hs =>
      rw [hs] at hstart
      exact hstart h
    next hs =>
      rw [hs] at hstart
      exact hstart h

/-- In a session that is not in use and holds nothing, an event leaves something to hold exactly if
it brings something. -/
theorem step_brings (holds : t.session.enabled = false → t.session.holdsAnything = false)
    {event : Event} (h : (t.step event).session.enabled = false) :
    (t.step event).session.holdsAnything = false ↔
      (t.session.enabled = false → ¬ t.Brings event) := by
  cases event with
  | load document given => exact iff_of_true (load_disabled holds document given h) fun _ hb => hb
  | tree number elapsed arrival =>
    have hdisabled : t.session.enabled = false :=
      (step_enabled fun _ _ => Event.noConfusion).symm.trans h
    exact (hearTree_brings (holds hdisabled) number elapsed arrival).trans
      (imp_iff_right hdisabled).symm
  | collections number elapsed arrival =>
    have hdisabled : t.session.enabled = false :=
      (step_enabled fun _ _ => Event.noConfusion).symm.trans h
    exact (hearCollections_brings (holds hdisabled) number elapsed arrival).trans
      (imp_iff_right hdisabled).symm
  | close =>
    have hdisabled : t.session.enabled = false := t.session.close_enabled.symm.trans h
    exact iff_of_true (t.session.close_holdsAnything (holds hdisabled)) fun _ hb => hb

end Traffic

/-! ## 3. Runs -/

/-- However the loads of a document interleave, the session holds nothing whenever it is not in use
exactly if nothing with contents arrives for a load while it is not in use. -/
theorem disabled_session_holds_nothing_iff (path : Option String) (events : List Event) :
    (∀ first, first <+: events → ((Traffic.opened path).run first).session.enabled = false →
        ((Traffic.opened path).run first).session.holdsAnything = false) ↔
      ∀ first event, first ++ [event] <+: events →
        ((Traffic.opened path).run first).session.enabled = false →
          ¬ ((Traffic.opened path).run first).Brings event := by
  have hsnoc : ∀ first event, (Traffic.opened path).run (first ++ [event]) =
      ((Traffic.opened path).run first).step event := fun first event =>
    Traffic.run_append first [event]
  constructor
  · -- an event that brings something is no load, so the session stays not in use
    intro holds first event hprefix hdisabled hbrings
    have hbefore := holds first ((List.prefix_append first [event]).trans hprefix)
    have hafter : (((Traffic.opened path).run first).step event).session.enabled = false := by
      refine (Traffic.step_enabled ?_).trans hdisabled
      rintro document given rfl
      exact hbrings
    have hnothing := holds (first ++ [event]) hprefix (hsnoc first event ▸ hafter)
    rw [hsnoc] at hnothing
    exact (Traffic.step_brings hbefore hafter).1 hnothing hdisabled hbrings
  · intro nothing first
    -- the session is in use at first, and only a load that empties it ends that
    induction first using List.reverseRecOn with
    | nil => exact fun _ h => by cases h
    | append_singleton first event ih =>
      intro hprefix hdisabled
      rw [hsnoc] at hdisabled ⊢
      exact (Traffic.step_brings (ih ((List.prefix_append first [event]).trans hprefix))
        hdisabled).2 (nothing first event hprefix)

/-- A load that waits for the collections when the next one finds the library not wanted, and is
answered after that. -/
def overtaken : List Event :=
  [.load {} (some .all), .tree 0 0 { result := .ok (.success [] none) }, .load {} (some .nothing),
    .collections 0 0 (edited 1 (some (edition 1)))]

/-- The session is not in use and offers the works of the load that was overtaken. -/
theorem overtaken_session_offers_works :
    ((Traffic.opened none).run overtaken).session.enabled = false ∧
      ((Traffic.opened none).run overtaken).session.works.map (·.id) = [some "k"] := by
  decide

end CiteSync.Session
