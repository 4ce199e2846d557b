import CiteSync.Proofs.Session.Steps

/-!
# Loads one after the other

A visit is a load together with the state that the remote is in when it begins.  Here is what a
visit hears about the collections and what it leaves in the session; everything about runs of loads
starts from these facts.
-/

namespace CiteSync.Session

open Library Remote FrontMatter

/-- A load and the state of the remote when it begins. -/
structure Visit (σ : Type) where
  document : Document := {}
  given : Option Scope := none
  elapsed : Float := 0
  remote : σ

namespace Visit

variable {σ : Type} (library : RemoteLibrary σ) (s : Session) (v : Visit σ)

/-- Runs a load. -/
def run : Stretch (Except Failure Bool) × σ :=
  load library v.document v.given v.elapsed s v.remote

/-- The session after loads, one after the other. -/
def after (vs : List (Visit σ)) : Session := vs.foldl (fun s v => (v.run library s).1.session) s

/-- The part of the library that a load is about. -/
def scope? : Except Fault Scope := asked v.document v.given

/-- What a load asks for about the collections and what then arrives, if it comes to that. -/
def hears : Option (Request × Arrival (Reply (List Collection))) :=
  match s.wanted v.document v.given with
  | .ok scope =>
    match (begin library v.document v.elapsed scope s v.remote).1.result with
    | .waiting request arrival => some (request, arrival)
    | .ended _ => none
  | .error _ => none

/-- The collections that a load is sent. -/
def sent? : Option (List Collection) := (v.hears library s).bind fun heard => heard.2.sent?

/-! ## What a load leaves -/

theorem wanted_of_open (h : s.closed = false) :
    s.wanted v.document v.given = v.scope? := by
  unfold wanted checkOpen
  rw [h]
  rfl

/-- The answer about the tree that a load hears first. -/
def tree (scope : Scope) : Arrival (Reply (List Spec)) × σ :=
  library.specs v.document scope.roots v.remote

/-- The first half of a load: the session after the answer about the tree. -/
def heardTree (scope : Scope) : Stretch (Option (Except Failure Bool)) :=
  { s with enabled := true }.hearTree v.document v.elapsed (v.tree library scope).1

/-- The answer about the collections that a load hears next. -/
def answer (scope : Scope) : Arrival (Reply (List Collection)) × σ :=
  library.collections v.document scope.roots s.store.specs s.trustsCache (v.tree library scope).2

/-- What a load asks for. -/
def request (scope : Scope) : Request := ⟨scope.roots, s.store, s.trustsCache⟩

theorem begin_asking {scope : Scope} (hscope : scope ≠ .nothing) :
    begin library v.document v.elapsed scope s v.remote =
      match (v.heardTree library s scope).result with
      | none => (⟨.waiting (request s scope) (v.answer library s scope).1,
          (v.heardTree library s scope).session, (v.heardTree library s scope).records⟩,
          (v.answer library s scope).2)
      | some result => (⟨.ended result, (v.heardTree library s scope).session,
          (v.heardTree library s scope).records⟩, (v.tree library scope).2) := by
  unfold begin
  rw [s.start_asking hscope]
  rfl

/-- The courses that a load can take. -/
inductive Course : Prop
  /-- The document is closed, or its metadata cannot be read. -/
  | refused {cause : Fault} (hwanted : s.wanted v.document v.given = .error cause)
      (hrun : v.run library s = (⟨.error (.fault cause), s, []⟩, v.remote))
      (hhears : v.hears library s = none)
  /-- The library is not wanted. -/
  | disabled (hwanted : s.wanted v.document v.given = .ok .nothing)
      (hrun : v.run library s = (⟨.ok s.holdsAnything,
        ({ s with enabled := false }.reset).countCycle, []⟩, v.remote))
      (hhears : v.hears library s = none)
  /-- There is no answer about the tree. -/
  | gaveUp {scope : Scope} {result : Except Failure Bool}
      (hwanted : s.wanted v.document v.given = .ok scope) (hscope : scope ≠ .nothing)
      (hheard : (v.heardTree library s scope).result = some result)
      (hrun : v.run library s = (⟨result, (v.heardTree library s scope).session,
        (v.heardTree library s scope).records⟩, (v.tree library scope).2))
      (hhears : v.hears library s = none)
  /-- The load ends with what arrives about the collections. -/
  | concluded {scope : Scope} {last : Stretch (Except Failure Bool)}
      (hwanted : s.wanted v.document v.given = .ok scope) (hscope : scope ≠ .nothing)
      (hheard : (v.heardTree library s scope).result = none)
      (hlast : last = (v.heardTree library s scope).session.conclude v.document v.elapsed
        (request s scope) (v.answer library s scope).1)
      (hrun : v.run library s = ({ last with
        records := (v.heardTree library s scope).records ++ last.records },
        (v.answer library s scope).2))
      (hhears : v.hears library s = some (request s scope, (v.answer library s scope).1))

theorem course : v.Course library s := by
  cases hwanted : s.wanted v.document v.given with
  | error cause => refine .refused hwanted ?_ ?_ <;> simp only [run, load, hears, hwanted]
  | ok scope =>
    by_cases hscope : scope = .nothing
    · subst hscope
      refine .disabled hwanted ?_ ?_ <;>
        simp only [run, load, hears, runCycle, begin, start, hwanted, if_true]
    · cases hheard : (v.heardTree library s scope).result with
      | some result =>
        refine .gaveUp hwanted hscope hheard ?_ ?_ <;>
          simp only [run, load, hears, runCycle, v.begin_asking library s hscope, hwanted, hheard]
      | none =>
        refine .concluded hwanted hscope hheard rfl ?_ ?_ <;>
          simp only [run, load, hears, runCycle, v.begin_asking library s hscope, hwanted, hheard]

/-- When the answer about the collections is asked for, the document is open with its store as it
was, or closed without one. -/
theorem heardTree_cases (scope : Scope) (hopen : s.closed = false) :
    ((v.heardTree library s scope).session.closed = false ∧
      (v.heardTree library s scope).session.store = s.store) ∨
    ((v.heardTree library s scope).session.closed = true ∧
      (v.heardTree library s scope).session.store = .empty) := by
  unfold heardTree
  obtain ⟨hstore, hclosed⟩ := hearTree_store { s with enabled := true } v.document v.elapsed
    (v.tree library scope).1
  rw [hstore, hclosed]
  rcases atArrival_cases { s with enabled := true } (v.tree library scope).1 with ha | ha
  · rw [ha]
    exact .inl ⟨hopen, rfl⟩
  · rw [ha, close_store]
    exact .inr ⟨close_closed _, if_neg (by simp [hopen])⟩

/-- What a load does to the store: it commits the collections that it is sent; without any it leaves
the store alone, unless it empties it as the library is not wanted or the document is closed. -/
theorem run_store :
    (∃ sent, v.sent? library s = some sent ∧ (v.run library s).1.session.closed = false ∧
      (v.run library s).1.session.store =
        ⟨settle (mergeAll s.trustsCache s.store s.store sent)⟩) ∨
    (v.sent? library s = none ∧ (v.run library s).1.session.store = s.store) ∨
    ((v.sent? library s = none ∨ (v.run library s).1.session.closed = true) ∧
      (v.run library s).1.session.store = .empty) := by
  unfold sent?
  cases v.course library s with
  | refused hwanted hrun hhears =>
    rw [hrun, hhears]
    exact .inr (.inl ⟨rfl, rfl⟩)
  | disabled hwanted hrun hhears =>
    rw [hrun, hhears]
    exact .inr (.inr ⟨.inl rfl, rfl⟩)
  | @gaveUp scope result hwanted hscope hheard hrun hhears =>
    rw [hrun, hhears]
    rcases v.heardTree_cases library s scope (s.wanted_open hwanted).1 with ⟨_, hs⟩ | ⟨_, hs⟩
    · exact .inr (.inl ⟨rfl, hs⟩)
    · exact .inr (.inr ⟨.inl rfl, hs⟩)
  | @concluded scope last hwanted hscope hheard hlast hrun hhears =>
    have hsession : (v.run library s).1.session = last.session := by rw [hrun]
    obtain ⟨hclosed, hstore⟩ := (v.heardTree library s scope).session.conclude_store v.document
      v.elapsed (request s scope) (v.answer library s scope).1
    rw [hsession, hhears, hlast, hclosed, hstore]
    simp only [Option.bind_some]
    -- the document may have been closed while either answer was on its way
    rcases v.heardTree_cases library s scope (s.wanted_open hwanted).1 with ⟨ho, hs⟩ | ⟨hc, hs⟩
    · rcases atArrival_cases (v.heardTree library s scope).session (v.answer library s scope).1
        with ha | ha
      · rw [ha, ho, hs]
        cases (v.answer library s scope).1.sent? with
        | none => exact .inr (.inl ⟨rfl, rfl⟩)
        | some sent => exact .inl ⟨sent, rfl, rfl, rfl⟩
      · rw [ha, close_closed, close_store, ho]
        exact .inr (.inr ⟨.inr rfl, rfl⟩)
    · rw [atArrival_of_closed hc, hc, hs]
      exact .inr (.inr ⟨.inr rfl, rfl⟩)

/-- Collections are sent only to an open document that wants some. -/
theorem asked_of_sent {sent : List Collection} (h : v.sent? library s = some sent) :
    ∃ scope, v.scope? = .ok scope ∧ scope ≠ .nothing ∧ s.closed = false ∧
      (v.answer library s scope).1.sent? = some sent := by
  unfold sent? at h
  cases v.course library s with
  | refused _ _ hhears =>
    rw [hhears] at h
    cases h
  | disabled _ _ hhears =>
    rw [hhears] at h
    cases h
  | gaveUp _ _ _ _ hhears =>
    rw [hhears] at h
    cases h
  | @concluded scope _ hwanted hscope _ _ _ hhears =>
    obtain ⟨hopen, hasked⟩ := s.wanted_open hwanted
    rw [hhears] at h
    exact ⟨scope, hasked, hscope, hopen, h⟩

theorem answered_of_sent {scope : Scope} (hasked : v.scope? = .ok scope) {sent : List Collection}
    (h : v.sent? library s = some sent) :
    scope ≠ .nothing ∧ s.closed = false ∧ (v.answer library s scope).1.sent? = some sent := by
  obtain ⟨scope', hasked', hrest⟩ := v.asked_of_sent library s h
  rw [hasked] at hasked'
  cases hasked'
  exact hrest

/-! ## Remotes that leave the document open -/

/-- A remote that never closes the document while it answers. -/
structure Quiet : Prop where
  specs : ∀ document roots remote, (library.specs document roots remote).1.closing = false
  collections : ∀ document roots known useCache remote,
    (library.collections document roots known useCache remote).1.closing = false

variable {library} in
theorem Quiet.tree (h : Quiet library) (scope : Scope) :
    (v.tree library scope).1.closing = false := h.specs ..

variable {library} in
theorem Quiet.answer (h : Quiet library) (scope : Scope) :
    (v.answer library s scope).1.closing = false := h.collections ..

theorem run_closed (h : Quiet library) : (v.run library s).1.session.closed = s.closed := by
  have hheard : ∀ scope, (v.heardTree library s scope).session.closed = s.closed := by
    intro scope
    rw [heardTree, (hearTree_store ..).2, atArrival_of_not_closing (h.tree v scope)]
  cases v.course library s with
  | refused hwanted hrun hhears => rw [hrun]
  | disabled hwanted hrun hhears =>
    rw [hrun]
    rfl
  | @gaveUp scope _ _ _ _ hrun _ =>
    rw [hrun]
    exact hheard scope
  | @concluded scope last _ _ _ hlast hrun _ =>
    have hsession : (v.run library s).1.session = last.session := by rw [hrun]
    rw [hsession, hlast, (conclude_store ..).1, atArrival_of_not_closing (h.answer s v scope)]
    exact hheard scope

/-- A load that is sent collections commits them if the document stays open. -/
theorem run_store_of_sent (h : Quiet library) {sent : List Collection}
    (hsent : v.sent? library s = some sent) :
    (v.run library s).1.session.store = ⟨settle (mergeAll s.trustsCache s.store s.store sent)⟩ := by
  have hclosed : (v.run library s).1.session.closed = false := by
    obtain ⟨_, _, _, hopen, _⟩ := v.asked_of_sent library s hsent
    rw [v.run_closed library s h, hopen]
  rcases v.run_store library s with ⟨sent', hsent', -, hstore⟩ | ⟨hnone, -⟩ | ⟨hnone | hshut, -⟩
  · rw [hsent] at hsent'
    cases hsent'
    exact hstore
  · rw [hsent] at hnone
    cases hnone
  · rw [hsent] at hnone
    cases hnone
  · rw [hclosed] at hshut
    cases hshut

/-- A load that gets an answer about the tree ends with what arrives about the collections. -/
theorem run_of_tree {scope : Scope} (hopen : s.closed = false) (hasked : v.scope? = .ok scope)
    (hscope : scope ≠ .nothing) (hheard : (v.heardTree library s scope).result = none) :
    (∃ records, v.run library s =
        ({ (v.heardTree library s scope).session.conclude v.document v.elapsed (request s scope)
            (v.answer library s scope).1 with records }, (v.answer library s scope).2)) ∧
      v.hears library s = some (request s scope, (v.answer library s scope).1) := by
  have hwanted : s.wanted v.document v.given = .ok scope :=
    (v.wanted_of_open s hopen).trans hasked
  cases v.course library s with
  | refused hwanted' _ _ =>
    rw [hwanted] at hwanted'
    cases hwanted'
  | disabled hwanted' _ _ =>
    rw [hwanted] at hwanted'
    cases hwanted'
    exact absurd rfl hscope
  | gaveUp hwanted' _ hheard' _ _ =>
    rw [hwanted] at hwanted'
    cases hwanted'
    rw [hheard] at hheard'
    cases hheard'
  | @concluded _ last hwanted' _ _ hlast hrun hhears =>
    rw [hwanted] at hwanted'
    cases hwanted'
    rw [hlast] at hrun
    exact ⟨⟨_, hrun⟩, hhears⟩

/-- A load that gets both answers takes over all that they say. -/
theorem run_of_answers (h : Quiet library) {scope : Scope} (hopen : s.closed = false)
    (hasked : v.scope? = .ok scope) (hscope : scope ≠ .nothing) {specs : List Spec}
    (htree : (v.tree library scope).1.result = .ok (.success specs none))
    {sent : List Collection}
    (hanswer : (v.answer library s scope).1.result = .ok (.success sent none)) :
    (v.run library s).1.session =
        { s with
          store := ⟨settle (mergeAll s.trustsCache s.store s.store sent)⟩
          specs := specs, warning := none, enabled := true, cycles := s.cycles + 1 } ∧
      (v.run library s).1.result =
        .ok ((mergeAll s.trustsCache s.store s.store sent).any (·.changed) ||
          sent.length != s.store.size) ∧
      (v.run library s).2 = (v.answer library s scope).2 ∧ v.sent? library s = some sent := by
  have hheard : (v.heardTree library s scope).result = none ∧
      (v.heardTree library s scope).session = { s with enabled := true, specs := specs } := by
    unfold heardTree hearTree
    rw [htree, atArrival_of_not_closing (h.tree v scope)]
    exact ⟨rfl, rfl⟩
  obtain ⟨⟨_, hrun⟩, hhears⟩ := v.run_of_tree library s hopen hasked hscope hheard.1
  rw [sent?, hrun, hhears]
  unfold conclude Arrival.sent?
  rw [hanswer, atArrival_of_not_closing (h.answer s v scope), hheard.2]
  simp [takeCollections, commit, Outcome.finish, countCycle, Reply.success, Reply.sent?, hopen,
    hanswer, request, mergeAll]

end Visit

end CiteSync.Session
