import CiteSync.Proofs.Session.Visit
import CiteSync.Session.Traffic

/-!
# Loads that interleave

However the answers to loads of one document arrive, a stored collection holds the works that belong
to its version.  Whether a body is carried over from what is stored when the answer arrives, or from
what was stored when the load began, it is the body of that version, and so is one that was sent.
-/

namespace CiteSync.Session

open Library Remote FrontMatter

/-! ## 1. What a remote says -/

/-- What a remote says of collections: their bodies at each version, and which name goes with which
key. -/
structure Registry where
  body : String → Int → List Source
  Named : (key name : String) → Prop
  name_unique : ∀ key name name', Named key name → Named key name' → name = name'
  key_unique : ∀ key key' name, Named key name → Named key' name → key = key'

namespace Registry

variable (R : Registry)

/-- An answer about the collections says what the registry does, and leaves out only what was known
to the cycle that asked, at the same version. -/
structure Answers (request : Request) (sent : List Collection) : Prop where
  keys : (sent.map (·.key)).Nodup
  named : ∀ c ∈ sent, R.Named c.key c.name
  bodies : ∀ c ∈ sent, ∀ works, c.items = some works → works = R.body c.key c.version
  omitted : ∀ c ∈ sent, c.items = none → request.useCache = true ∧
    ∃ spec ∈ request.known, spec.key = c.key ∧ spec.version = c.version

/-- A store holds collections by the registry, each with the body of its version. -/
structure Holds (store : Store) : Prop where
  keys : (store.collections.map (·.key)).Nodup
  named : ∀ c ∈ store.collections, R.Named c.key c.name
  kept : ∀ c ∈ store.collections, KeptFrom c.key (R.body c.key c.version) c.items

/-- An answer to a cycle is one that the remote gives. -/
def Allows (t : Traffic) : Event → Prop
  | .collections number _ arrival =>
    ∀ document request sent, t.cycles[number]? = some ⟨document, .askingCollections request⟩ →
      arrival.sent? = some sent → R.Answers request sent
  | _ => True

/-- All answers among events are ones that the remote gives. -/
def Admits : Traffic → List Event → Prop
  | _, [] => True
  | t, event :: rest => R.Allows t event ∧ Admits (t.step event) rest

end Registry

variable {R : Registry}

/-! ## 2. One answer -/

theorem Registry.Holds.empty : R.Holds .empty where
  keys := List.nodup_nil
  named _ hc := (List.not_mem_nil hc).elim
  kept _ hc := (List.not_mem_nil hc).elim

/-- What a merge keeps of a collection has the body of its version. -/
theorem Registry.Answers.kept {request : Request} {store : Store} {sent : List Collection}
    (h : R.Answers request sent) (hstore : R.Holds store) (hprevious : R.Holds request.previous)
    {c kept : Collection} (hc : c ∈ sent)
    (hkeeps : Keeps request.useCache store request.previous c kept) :
    KeptFrom kept.key (R.body kept.key kept.version) kept.items := by
  cases hkeeps with
  | @byName known found =>
    -- one name at one version is one key at one version
    obtain ⟨-, hknown, hname, hversion⟩ := unchanged?_some found
    have hkey : known.key = c.key :=
      R.key_unique _ _ _ (hname ▸ hstore.named known hknown) (h.named c hc)
    have hkept := hstore.kept known hknown
    rw [hkey, hversion] at hkept
    exact hkept
  | @byKey known _ omitted found =>
    obtain ⟨-, spec, hspec, hkey, hversion⟩ := h.omitted c hc omitted
    obtain ⟨known', hfind, hversion'⟩ := Store.findByKey?_of_spec hprevious.keys hspec
    rw [hkey, found] at hfind
    cases hfind
    obtain ⟨hknown, hkey'⟩ := Store.findByKey?_some found
    have hkept := hprevious.kept known hknown
    rw [hkey', hversion', hversion] at hkept
    exact hkept
  | @fresh tags _ sentOrNew htags =>
    cases hitems : c.items with
    | none =>
      obtain ⟨-, spec, hspec, hkey, -⟩ := h.omitted c hc hitems
      obtain ⟨known, hfind, -⟩ := Store.findByKey?_of_spec hprevious.keys hspec
      rw [hkey, sentOrNew hitems] at hfind
      cases hfind
    | some works =>
      have hbody := h.bodies c hc works hitems
      have hworks : c.works = R.body c.key c.version := by
        rw [Collection.works, hitems, ← hbody]
        rfl
      rw [hworks] at htags
      exact ⟨tags, rfl, htags⟩

/-- The store that a merge leaves holds the bodies of the versions that were sent. -/
theorem Registry.Answers.merged {request : Request} {store : Store} {sent : List Collection}
    (h : R.Answers request sent) (hstore : R.Holds store) (hprevious : R.Holds request.previous) :
    R.Holds ⟨settle (mergeAll request.useCache store request.previous sent)⟩ := by
  have hmerge := settle_mergeAll request.useCache store request.previous sent
  have hshapes : ∀ kept ∈ settle (mergeAll request.useCache store request.previous sent),
      ∃ c ∈ sent, Keeps request.useCache store request.previous c kept :=
    fun _ hkept => forall₂_exists_left hmerge hkept
  refine ⟨?_, ?_, ?_⟩
  · show ((settle _).map (·.key)).Nodup
    rw [settle_keys]
    exact h.keys
  · intro kept hkept
    obtain ⟨c, hc, hkeeps⟩ := hshapes kept hkept
    rw [hkeeps.key_eq, hkeeps.name_eq]
    exact h.named c hc
  · intro kept hkept
    obtain ⟨c, hc, hkeeps⟩ := hshapes kept hkept
    exact h.kept hstore hprevious hc hkeeps

/-! ## 3. One event -/

/-- What a session keeps: the bodies of its versions while it is open, nothing once it is closed. -/
structure Registry.Guards (R : Registry) (s : Session) : Prop where
  store : R.Holds s.store
  closed : s.closed = true → s.store = .empty

theorem Registry.Guards.close {s : Session} (h : R.Guards s) : R.Guards s.close := by
  have hempty : s.close.store = .empty := by
    rw [close_store]
    split
    next hclosed => exact h.closed hclosed
    next => rfl
  exact ⟨hempty ▸ .empty, fun _ => hempty⟩

theorem Registry.Guards.atArrival {s : Session} (h : R.Guards s) {α : Type}
    (arrival : Arrival α) : R.Guards (s.atArrival arrival) := by
  rcases s.atArrival_cases arrival with ha | ha
  · rw [ha]
    exact h
  · rw [ha]
    exact h.close

theorem Registry.Guards.start {s : Session} (h : R.Guards s) (scope : Scope) :
    R.Guards (s.start scope).2 := by
  have hstore := s.start_store scope
  have hclosed := s.start_closed scope
  by_cases hscope : scope = .nothing
  · rw [if_pos hscope] at hstore
    exact ⟨hstore ▸ .empty, fun _ => hstore⟩
  · rw [if_neg hscope] at hstore
    exact ⟨hstore ▸ h.store, fun hc => hstore ▸ h.closed (hclosed ▸ hc)⟩

theorem Registry.Guards.hearTree {s : Session} (h : R.Guards s) (document : Document)
    (elapsed : Float) (arrival : Arrival (Reply (List Spec))) :
    R.Guards (s.hearTree document elapsed arrival).session := by
  obtain ⟨hstore, hclosed⟩ := s.hearTree_store document elapsed arrival
  have harrived := h.atArrival arrival
  exact ⟨hstore ▸ harrived.store, fun hc => hstore ▸ harrived.closed (hclosed ▸ hc)⟩

theorem Registry.Guards.conclude {s : Session} (h : R.Guards s) (document : Document)
    (elapsed : Float) {request : Request} (hprevious : R.Holds request.previous)
    {arrival : Arrival (Reply (List Collection))}
    (hanswers : ∀ sent, arrival.sent? = some sent → R.Answers request sent) :
    R.Guards (s.conclude document elapsed request arrival).session := by
  obtain ⟨hclosed, hstore⟩ := s.conclude_store document elapsed request arrival
  have harrived := h.atArrival arrival
  -- a closed session takes nothing, and an open one puts the merge in place of its store
  cases hopen : (s.atArrival arrival).closed with
  | true =>
    simp only [hopen] at hstore
    have hempty := hstore.trans (harrived.closed hopen)
    exact ⟨hempty ▸ .empty, fun _ => hempty⟩
  | false =>
    have hnot : ¬ (s.conclude document elapsed request arrival).session.closed = true := by
      rw [hclosed, hopen]
      decide
    cases hsent : arrival.sent? with
    | none =>
      simp only [hopen, hsent] at hstore
      exact ⟨hstore ▸ harrived.store, fun hc => (hnot hc).elim⟩
    | some sent =>
      simp only [hopen, hsent] at hstore
      exact ⟨hstore ▸ (hanswers sent hsent).merged harrived.store hprevious,
        fun hc => (hnot hc).elim⟩

/-- What traffic keeps: the bodies of their versions, in the session and in what the cycles that go
on were started with. -/
structure Registry.Sound (R : Registry) (t : Traffic) : Prop where
  session : R.Guards t.session
  pending : ∀ cycle ∈ t.cycles, ∀ request, cycle.stage.request? = some request →
    R.Holds request.previous

namespace Registry.Sound

variable {t : Traffic}

theorem opened (path : Option String) : R.Sound (.opened path) where
  session := ⟨.empty, fun _ => rfl⟩
  pending _ hcycle := (List.not_mem_nil hcycle).elim

/-- Cycles that go on stay sound when one of them goes on to its next stage. -/
theorem pending_set (h : R.Sound t) {number : Nat} {document : Document} {stage next : Stage}
    (hat : t.cycles[number]? = some ⟨document, stage⟩)
    (hnext : ∀ request, next.request? = some request → stage.request? = some request) :
    ∀ cycle ∈ t.cycles.set number ⟨document, next⟩, ∀ request,
      cycle.stage.request? = some request → R.Holds request.previous := by
  intro cycle hcycle request hrequest
  rcases List.mem_or_eq_of_mem_set hcycle with hold | rfl
  · exact h.pending cycle hold request hrequest
  · exact h.pending _ (List.mem_of_getElem? hat) request (hnext request hrequest)

theorem load (h : R.Sound t) (document : Document) (given : Option Scope) :
    R.Sound (t.load document given) := by
  have happend : ∀ stage : Stage, (∀ request, stage.request? = some request →
      R.Holds request.previous) → ∀ cycle ∈ t.cycles ++ [⟨document, stage⟩], ∀ request,
      cycle.stage.request? = some request → R.Holds request.previous := by
    intro stage hstage cycle hcycle request hrequest
    rcases List.mem_append.1 hcycle with hold | hnew
    · exact h.pending cycle hold request hrequest
    · rw [List.mem_singleton.1 hnew] at hrequest
      exact hstage request hrequest
  unfold Traffic.load
  split
  next => exact ⟨h.session, happend _ fun _ hnone => by cases hnone⟩
  next scope _ =>
    have hstart := h.session.start scope
    split
    next hs =>
      rw [hs] at hstart
      exact ⟨hstart, happend _ fun _ hnone => by cases hnone⟩
    next hs =>
      rw [hs] at hstart
      refine ⟨hstart, happend _ fun request hrequest => ?_⟩
      -- the cycle remembers the store as it is now
      cases hrequest
      by_cases hscope : scope = .nothing
      · rw [Session.start, if_pos hscope] at hs
        cases hs
      · rw [t.session.start_asking hscope] at hs
        cases hs
        exact h.session.store

theorem hearTree (h : R.Sound t) (number : Nat) (elapsed : Float)
    (arrival : Arrival (Reply (List Spec))) : R.Sound (t.hearTree number elapsed arrival) := by
  unfold Traffic.hearTree
  split
  next document request hat =>
    refine ⟨h.session.hearTree document elapsed arrival, h.pending_set hat fun next hnext => ?_⟩
    split at hnext
    · exact hnext
    · cases hnext
  next => exact h

theorem hearCollections (h : R.Sound t) (number : Nat) (elapsed : Float)
    {arrival : Arrival (Reply (List Collection))}
    (allowed : R.Allows t (.collections number elapsed arrival)) :
    R.Sound (t.hearCollections number elapsed arrival) := by
  unfold Traffic.hearCollections
  split
  next document request hat =>
    have hprevious : R.Holds request.previous :=
      h.pending _ (List.mem_of_getElem? hat) request rfl
    refine ⟨?_, h.pending_set hat fun _ hnone => by cases hnone⟩
    exact h.session.conclude document elapsed hprevious fun sent hsent =>
      allowed document request sent hat hsent
  next => exact h

/-- Every event that the remote allows keeps traffic sound. -/
theorem step (h : R.Sound t) {event : Event} (allowed : R.Allows t event) :
    R.Sound (t.step event) := by
  cases event with
  | load document given => exact h.load document given
  | tree number elapsed arrival => exact h.hearTree number elapsed arrival
  | collections number elapsed arrival => exact h.hearCollections number elapsed allowed
  | close => exact ⟨h.session.close, h.pending⟩

theorem run (h : R.Sound t) {events : List Event} (admitted : R.Admits t events) :
    R.Sound (t.run events) := by
  -- an event has to be allowed in the traffic that the events before it led to
  induction events generalizing t with
  | nil => exact h
  | cons event rest ih => exact ih (h.step admitted.1) admitted.2

end Registry.Sound

/-! ## 4. Closing -/

namespace Traffic

variable {t : Traffic}

theorem step_closed (h : t.session.closed = true) (event : Event) :
    (t.step event).session.closed = true := by
  cases event with
  | load document given =>
    show (t.load document given).session.closed = true
    obtain ⟨cause, hrefused⟩ : ∃ cause, t.session.wanted document given = .error cause := by
      unfold wanted checkOpen
      rw [h]
      exact ⟨_, rfl⟩
    unfold load
    rw [hrefused]
    exact h
  | tree number elapsed arrival =>
    show (t.hearTree number elapsed arrival).session.closed = true
    unfold hearTree
    split
    next document _ _ =>
      rw [(t.session.hearTree_store document elapsed arrival).2, atArrival_of_closed h]
      exact h
    next => exact h
  | collections number elapsed arrival =>
    show (t.hearCollections number elapsed arrival).session.closed = true
    unfold hearCollections
    split
    next document request _ =>
      rw [(t.session.conclude_store document elapsed request arrival).1, atArrival_of_closed h]
      exact h
    next => exact h
  | close => exact t.session.close_closed

theorem run_closed (h : t.session.closed = true) (events : List Event) :
    (t.run events).session.closed = true := by
  induction events generalizing t with
  | nil => exact h
  | cons event rest ih => exact ih (step_closed h event)

theorem run_append (first later : List Event) : t.run (first ++ later) = (t.run first).run later :=
  List.foldl_append

end Traffic

/-! ## 5. Loads that nothing comes between -/

namespace Traffic

/-- A load whose answers arrive at once is a load on its own. -/
theorem run_alone {σ : Type} (library : RemoteLibrary σ) (t : Traffic) (v : Visit σ) {scope : Scope}
    (hwanted : t.session.wanted v.document v.given = .ok scope) :
    t.run [.load v.document v.given, .tree t.cycles.length v.elapsed (v.tree library scope).1,
        .collections t.cycles.length v.elapsed (v.answer library t.session scope).1] =
      { session := (v.run library t.session).1.session
        cycles := t.cycles ++ [⟨v.document, .ended (v.run library t.session).1.result⟩]
        records := t.records ++ (v.run library t.session).1.records } := by
  cases v.course library t.session with
  | refused hwanted' _ _ =>
    rw [hwanted] at hwanted'
    cases hwanted'
  | disabled hwanted' hrun _ =>
    rw [hrun]
    simp [run, step, load, hearTree, hearCollections, hwanted', start]
  | gaveUp hwanted' hscope hheard hrun _ =>
    rw [hwanted] at hwanted'
    cases hwanted'
    rw [hrun]
    have hresult := hheard
    unfold Visit.heardTree at hresult
    simp [run, step, load, hearTree, hearCollections, hwanted, t.session.start_asking hscope,
      hresult, Visit.heardTree]
  | concluded hwanted' hscope hheard hlast hrun _ =>
    rw [hwanted] at hwanted'
    cases hwanted'
    rw [hrun, hlast]
    have hresult := hheard
    unfold Visit.heardTree at hresult
    simp [run, step, load, hearTree, hearCollections, hwanted, t.session.start_asking hscope,
      hresult, Visit.heardTree, Visit.request]

end Traffic

/-! ## 6. Runs -/

/-- In every order of answers a stored collection holds the body of its version, and once the
document was closed nothing is stored any more. -/
theorem interleaved_loads_keep_versions (R : Registry) (path : Option String)
    {first later : List Event} (admitted : R.Admits (.opened path) (first ++ later)) :
    (∀ c ∈ ((Traffic.opened path).run (first ++ later)).session.store.collections,
      KeptFrom c.key (R.body c.key c.version) c.items) ∧
    (((Traffic.opened path).run first).session.closed = true →
      ((Traffic.opened path).run (first ++ later)).session.closed = true ∧
      ((Traffic.opened path).run (first ++ later)).session.store = .empty) := by
  have hsound := (Registry.Sound.opened path).run admitted
  refine ⟨hsound.session.store.kept, fun hclosed => ?_⟩
  have hstays : ((Traffic.opened path).run (first ++ later)).session.closed = true := by
    rw [Traffic.run_append]
    exact Traffic.run_closed hclosed later
  exact ⟨hstays, hsound.session.closed hstays⟩

/-- The body of a collection in two editions. -/
def edition (version : Int) : List Source :=
  [{ id := some "k", title := if version = 1 then some "Old" else some "New" }]

/-- A library in which every collection has these editions and is named by its key. -/
def editions : Registry where
  body _ version := edition version
  Named key name := key = name
  name_unique _ _ _ h h' := h.symm.trans h'
  key_unique _ _ _ h h' := h.trans h'.symm

/-- An answer with one collection. -/
def edited (version : Int) (items : Option (List Source)) :
    Arrival (Reply (List Collection)) where
  result := .ok (.success [{ key := "K", name := "K", version, items }] none)

/-- Two loads of which the one that began first is answered last, with the old edition, and a load
after them that leaves the edition out that it finds. -/
def crossing : List Event :=
  [.load {} (some .all), .load {} (some .all),
    .tree 0 0 { result := .ok (.success [] none) }, .tree 1 0 { result := .ok (.success [] none) },
    .collections 1 0 (edited 2 (some (edition 2))), .collections 0 0 (edited 1 (some (edition 1))),
    .load {} (some .all), .tree 2 0 { result := .ok (.success [] none) },
    .collections 2 0 (edited 1 none)]

theorem editions_answers (request : Request) (version : Int) :
    editions.Answers request
      [{ key := "K", name := "K", version, items := some (edition version) }] := by
  refine ⟨by simp, ?_, ?_, ?_⟩ <;> intro c hc <;> rw [List.mem_singleton.1 hc]
  · exact rfl
  · intro works hworks
    cases hworks
    rfl
  · intro hnone
    cases hnone

theorem editions_answers_omitted {request : Request} (huse : request.useCache = true)
    {version : Int} (hknown : request.known = [{ key := "K", name := "K", version }]) :
    editions.Answers request [{ key := "K", name := "K", version }] := by
  refine ⟨by simp, ?_, ?_, ?_⟩ <;> intro c hc <;> rw [List.mem_singleton.1 hc]
  · exact rfl
  · intro works hworks
    cases hworks
  · intro _
    exact ⟨huse, _, hknown ▸ List.mem_singleton.2 rfl, rfl, rfl⟩

/-- The answers to those loads are ones that the library gives. -/
theorem crossing_admitted {later : List Event} (h : ∀ t, editions.Admits t later) :
    editions.Admits (.opened none) (crossing ++ later) := by
  refine ⟨trivial, trivial, trivial, trivial, ?_, ?_, trivial, trivial, ?_, h _⟩
  · intro document request sent hat hs
    cases hs
    exact editions_answers request 2
  · intro document request sent hat hs
    cases hs
    exact editions_answers request 1
  · intro document request sent hat hs
    cases hs
    -- the third load began when the old edition was stored
    cases hat
    exact editions_answers_omitted rfl rfl

/-- The loads keep the old edition at the old version, and nothing once the document was closed. -/
theorem interleaved_loads_keep_versions_crossing :
    (∀ c ∈ ((Traffic.opened none).run (crossing ++ [])).session.store.collections,
      KeptFrom c.key (edition c.version) c.items) ∧
    ((Traffic.opened none).run (crossing ++ [.close] ++ [.load {} none])).session.store =
      .empty := by
  have hcrossing : editions.Admits (.opened none) (crossing ++ []) :=
    crossing_admitted fun _ => trivial
  have hclosing : editions.Admits (.opened none) (crossing ++ [.close] ++ [.load {} none]) := by
    rw [List.append_assoc]
    exact crossing_admitted fun _ => ⟨trivial, trivial, trivial⟩
  constructor
  · exact (interleaved_loads_keep_versions editions none hcrossing).1
  · exact ((interleaved_loads_keep_versions editions none hclosing).2 rfl).2

end CiteSync.Session
