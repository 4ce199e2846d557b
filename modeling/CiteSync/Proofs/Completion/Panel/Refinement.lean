import CiteSync.Proofs.Completion.Panel.Progress

/-!
# Refinement in any order

A query that finds something loaded shows it and refines it with all that arrives; one that finds
nothing loaded waits for all that can arrive.  Whatever order things happen in, what is shown is
made from what has arrived, in the order of the providers, and the two ways agree.
-/

namespace CiteSync.Completion.Panel

open Remote

variable {σ : Type} {library : RemoteLibrary σ} {p : Panel σ} {number : Nat} {a : Activity}
  {query : Nat} {token : String} {document : Document} {s : Query}

variable (library) in
/-- A panel whose next query has started, after some moves. -/
def started (p : Panel σ) (after : List Move) : Panel σ := (p.happen library).course library after

/-! ## 1. The askers of a query -/

variable (library) in
/-- The activities that a query has started ask the providers in their order, and each brings back
an answer of its provider or fails. -/
structure Asks (p : Panel σ) (work : Nat → Work) : Prop where
  works : ∀ after i, i < p.providers.length → ∃ a,
    (p.started library after).activities[p.activities.length + i]? = some a ∧ a.work = work i
  endings : ∀ after i ending, i < p.providers.length →
    (p.started library after).activityEnding? (p.activities.length + i) = some ending →
      (∃ found, ending = .ok (some found) ∧ p.Brings i (.ok found)) ∨
        ∃ failure, ending = .error failure

variable (library) in
theorem work_course (here : p.activities[number]? = some a) (moves : List Move) :
    ∃ a', (p.course library moves).activities[number]? = some a' ∧ a'.work = a.work :=
  course_keeps library
    (fun p => ∃ a', p.activities[number]? = some a' ∧ a'.work = a.work) (fun _ _ h => h)
    (fun hchange ⟨_, here, hwork⟩ =>
      (hchange.later here).imp fun _ h => ⟨h.1, h.2.work.trans hwork⟩)
    moves ⟨a, here, rfl⟩

/-- An activity of a provider that has ended has brought back an answer of it, or failed. -/
theorem Since.brings_or_fails {source : Panel σ} {base provider : Nat} {ending : Ending}
    (h : Since source base p) (hbase : base ≤ number) (here : p.activities[number]? = some a)
    (work : a.work.provider? = some provider) (hending : p.activityEnding? number = some ending) :
    (∃ found, ending = .ok (some found) ∧ source.Brings provider (.ok found)) ∨
      ∃ failure, ending = .error failure := by
  obtain ⟨ended, hended⟩ := ended_of_ending? (by rw [hending]; rfl) here
  obtain rfl := Option.some.inj ((activityEnding?_of_ended here hended).symm.trans hending)
  cases ended with
  | error failure => exact .inr ⟨failure, rfl⟩
  | ok found =>
    obtain ⟨cs, rfl, hbrings⟩ := (h.credits number a provider hbase here work).2 found hended
    exact .inl ⟨cs, rfl, hbrings⟩

variable (library) in
theorem Asks.of_start {work : Nat → Work} (hwork : ∀ i, (work i).provider? = some i)
    (hstart : ∀ i, i < p.providers.length → ∃ a,
      (p.happen library).activities[p.activities.length + i]? = some a ∧ a.work = work i) :
    Asks library p work := by
  have hworks : ∀ after i, i < p.providers.length → ∃ a,
      (p.started library after).activities[p.activities.length + i]? = some a ∧
        a.work = work i := by
    intro after i hi
    obtain ⟨a, here, hwork⟩ := hstart i hi
    obtain ⟨a', here', hwork'⟩ := work_course library here after
    exact ⟨a', here', hwork'.trans hwork⟩
  refine ⟨hworks, fun after i ending hi hending => ?_⟩
  obtain ⟨a, here, hasks⟩ := hworks after i hi
  have hasked : a.work.provider? = some i := by rw [hasks, hwork]
  exact (since_course library (.happen :: after)).brings_or_fails (Nat.le_add_right _ _) here hasked
    hending

theorem activityEnding?_of_broughtBack {found : List Candidate}
    (h : p.broughtBack? number = some found) :
    p.activityEnding? number = some (.ok (some found)) := by
  unfold broughtBack? at h
  split at h
  next heq => rw [heq, h]
  next => cases h

/-- What is brought back is what the provider has to bring, if that is one and the same list. -/
theorem Asks.arrivals {work : Nat → Work} (h : Asks library p work)
    {fresh : Nat → List Candidate} (hfresh : ∀ i cs, p.Brings i (.ok cs) → cs = fresh i)
    (after : List Move) :
    (p.started library after).arrivals p.nextAskers =
      (List.range p.providers.length).map fun i =>
        if ((p.started library after).broughtBack? (p.activities.length + i)).isSome then
          some (fresh i)
        else none := by
  apply List.ext_getElem?
  intro i
  by_cases hi : i < p.providers.length
  · rw [nextAskers, arrivals_getElem? hi, List.getElem?_map, List.getElem?_range hi,
      Option.map_some]
    cases hfound : (p.started library after).broughtBack? (p.activities.length + i) with
    | none => rfl
    | some found =>
      rcases h.endings after i _ hi (activityEnding?_of_broughtBack hfound) with
        ⟨cs, heq, hbrings⟩ | ⟨failure, heq⟩
      · cases heq
        rw [hfresh i found hbrings]
        rfl
      · cases heq
  · simp [Panel.arrivals, nextAskers, hi]

/-! ## 2. Both ways -/

variable (library) in
/-- What becomes of a query that finds something loaded when it starts. -/
structure Refines (p : Panel σ) (query : Nat) : Prop where
  asks : ∃ document, Asks library p (.refresh query · document)
  /-- It shows what was loaded.  While it is the newest query its refreshed list is made from what
  was brought back and, where nothing was, from what was loaded. -/
  shown : ∀ after, ∃ s, (p.started library after).shown? query = some s ∧
    s.items = merge p.current ∧
      ((p.started library after).generation = p.generation + 1 →
        s.latest = refined ((p.started library after).arrivals p.nextAskers) p.current)
  /-- There is no such list exactly if nothing was brought back. -/
  latest_eq_none : ∀ after s, (p.started library after).shown? query = some s →
    (p.started library after).generation = p.generation + 1 →
      (s.latest = none ↔
        ∀ other ∈ p.nextAskers, (p.started library after).broughtBack? other = none)
  /-- If each provider has one list to bring, the refreshed list is a function of which of them
  have brought it. -/
  settled : ∀ fresh : Nat → List Candidate, (∀ i cs, p.Brings i (.ok cs) → cs = fresh i) →
    ∀ after s, (p.started library after).shown? query = some s →
      (p.started library after).generation = p.generation + 1 →
        s.latest = refined ((List.range p.providers.length).map fun i =>
          if ((p.started library after).broughtBack? (p.activities.length + i)).isSome then
            some (fresh i)
          else none) p.current

variable (library) in
/-- What becomes of a query that finds nothing loaded when it starts. -/
structure Answers (p : Panel σ) (query : Nat) : Prop where
  asks : ∃ document, Asks library p (.entries · document)
  /-- When it shows something, all have ended, and it shows what they have brought back. -/
  shown : ∀ after s, (p.started library after).shown? query = some s →
    (∀ other ∈ p.nextAskers, ((p.started library after).activityEnding? other).isSome) ∧
      s.items = merge ((p.started library after).arrivals p.nextAskers) ∧ s.latest = none
  /-- It shows something when all have ended and nothing is left to happen, unless something was
  cancelled. -/
  ends : ∀ after, (∀ m ∈ after, m.cancels = false) → (p.started library after).ready = [] →
    (∀ other ∈ p.nextAskers, ((p.started library after).activityEnding? other).isSome) →
      ∃ s, (p.started library after).shown? query = some s
  /-- If each provider has one list to bring, the items are a function of which of them have
  brought it. -/
  settled : ∀ fresh : Nat → List Candidate, (∀ i cs, p.Brings i (.ok cs) → cs = fresh i) →
    ∀ after s, (p.started library after).shown? query = some s →
      s.items = merge ((List.range p.providers.length).map fun i =>
        if ((p.started library after).broughtBack? (p.activities.length + i)).isSome then
          some (fresh i)
        else none)
  /-- If all have brought something back, the items are the refreshed list of a query that found
  anything loaded and to which the same was brought back. -/
  agrees : ∀ after s, (p.started library after).shown? query = some s →
    (∀ other ∈ p.nextAskers, ((p.started library after).broughtBack? other).isSome) →
      ∀ current : List (Option (List Candidate)), current.length = p.providers.length →
        current.all Option.isNone = false →
          refined ((p.started library after).arrivals p.nextAskers) current = some s.items

/-! ## 3. Refinement -/

theorem refines_of_loaded (numbered : p.Numbered) (hnext : p.nextQuery? = some query)
    (loaded : p.current.all Option.isNone = false) : Refines library p query := by
  obtain ⟨document, hstart⟩ := Refining.start library numbered hnext loaded
  have hlength : p.current.length = p.providers.length := List.length_map _
  have hasks : Asks library p (.refresh query · document) :=
    .of_start library (fun _ => rfl) fun i hi => hstart.works i (hlength ▸ hi)
  have hshown : ∀ after, ∃ s, (p.started library after).shown? query = some s ∧
      s.items = merge p.current ∧
        ((p.started library after).generation = p.generation + 1 →
          s.latest = refined ((p.started library after).arrivals p.nextAskers) p.current) := by
    intro after
    obtain ⟨s, hs, hrefined⟩ := (hstart.course library after).shown
    have hnewest := hrefined.latest
    rw [hlength] at hnewest
    exact ⟨s, hs, hrefined.items, hnewest⟩
  have hlatest : ∀ after s, (p.started library after).shown? query = some s →
      (p.started library after).generation = p.generation + 1 →
        s.latest = refined ((p.started library after).arrivals p.nextAskers) p.current := by
    intro after s hs hgeneration
    obtain ⟨s', hs', -, hnewest⟩ := hshown after
    obtain rfl := Option.some.inj (hs.symm.trans hs')
    exact hnewest hgeneration
  constructor
  case asks => exact ⟨document, hasks⟩
  case shown => exact hshown
  case latest_eq_none =>
    intro after s hs hgeneration
    rw [hlatest after s hs hgeneration, refined_eq_none]
    exact List.forall_mem_map
  case settled =>
    intro fresh hfresh after s hs hgeneration
    rw [hlatest after s hs hgeneration, hasks.arrivals hfresh]

theorem answers_of_empty (sound : p.Sound) (gathers : p.Gathers)
    (hnext : p.nextQuery? = some query) (empty : p.current.all Option.isNone = true) :
    Answers library p query := by
  obtain ⟨number, a, token, document, rest, hready, here, work, fresh, wanted⟩ :=
    exists_of_nextQuery? hnext
  have hstart := Answering.start library sound gathers hready here work fresh wanted empty
  have hdrives := drives_start library hready here work fresh wanted empty
  have hasks : Asks library p (.entries · document) := by
    refine .of_start library (fun _ => rfl) fun i hi => ?_
    have hsome : p.providers ≠ [] := fun h => by rw [h] at hi; cases hi
    rw [happen_of_start library hready here work fresh wanted,
      startQuery_of_empty (p := { p with ready := rest }) here empty hsome]
    exact ⟨_, asker_here _ _ _ hi, rfl⟩
  have hshown : ∀ after s, (p.started library after).shown? query = some s →
      (p.started library after).Answered p.nextAskers s := by
    intro after s hs
    obtain ⟨q, hq, hshown⟩ := exists_of_shown hs
    obtain ⟨q', hq', -, ⟨hnone, -⟩ | ⟨s', hs', -, hanswered⟩⟩ :=
      (hstart.course library after).query
    · obtain rfl := Option.some.inj (hq.symm.trans hq')
      rw [hshown] at hnone
      cases hnone
    · obtain rfl := Option.some.inj (hq.symm.trans hq')
      obtain rfl := Option.some.inj (hshown.symm.trans hs')
      exact hanswered
  constructor
  case asks => exact ⟨document, hasks⟩
  case shown =>
    intro after s hs
    exact ⟨(hshown after s hs).ended, (hshown after s hs).items, (hshown after s hs).latest⟩
  case ends =>
    intro after hafter hquiet hended
    exact (hstart.course library after).shown (hdrives.course library after hafter) hquiet hended
  case settled =>
    intro fresh hfresh after s hs
    rw [(hshown after s hs).items, hasks.arrivals hfresh]
  case agrees =>
    -- where nothing is missing, nothing that was loaded is used
    intro after s hs hall current hlength hloaded
    rw [(hshown after s hs).items]
    refine refined_of_all ?_ (fun h => by rw [h] at hloaded; cases hloaded) ?_
    · rw [hlength, Panel.arrivals, List.length_map, nextAskers, List.length_range']
    · exact List.forall_mem_map.2 hall

variable (library) in
/-- What is shown for a query does not depend on the order in which its providers answer, but only
on what they bring back. -/
theorem refinement_is_independent_of_order (providers : List (Provider σ)) (limit : Option Int)
    (before : List Move)
    (hnext : ((ofProviders providers limit).course library before).nextQuery? = some query) :
    (((ofProviders providers limit).course library before).current.all Option.isNone = false →
        Refines library ((ofProviders providers limit).course library before) query) ∧
      (((ofProviders providers limit).course library before).current.all Option.isNone = true →
        Answers library ((ofProviders providers limit).course library before) query) := by
  have numbered := (Numbered.ofProviders providers limit).course library before
  have gathers := (Gathers.ofProviders providers limit).course library before
  exact ⟨refines_of_loaded numbered hnext, answers_of_empty numbered.sound gathers hnext⟩

/-- A provider that finds a letter when its gate is opened. -/
def finding (current : Option (List Candidate)) (id : String) : Provider Script :=
  .prepared { current, fresh := [.ok [{ id, kind := "letter" }]], gated := true }

/-- A query is about to start. -/
def letters (current : Option (List Candidate)) : Panel Script :=
  (ofProviders [finding current "b", finding none "c"] none).course Script.library [.ask "s" {}]

/-- One provider answers, and then another one. -/
def answerInTurn (first second : Nat) : List Move :=
  [.happen, .happen, .release first .all, .happen, .happen, .release second .all, .happen, .happen,
    .happen]

/-- Two orders and two speeds lead to the same list. -/
theorem refinement_is_independent_of_order_letters :
    ∃ s s' t, ((letters (some [])).started Script.library (answerInTurn 0 1)).shown? 0 = some s ∧
      ((letters (some [])).started Script.library (answerInTurn 1 0)).shown? 0 = some s' ∧
      ((letters none).started Script.library (answerInTurn 1 0)).shown? 0 = some t ∧
      s.latest = some t.items ∧ s'.latest = some t.items := by
  have warm : Refines Script.library (letters (some [])) 0 :=
    (refinement_is_independent_of_order Script.library [finding (some []) "b", finding none "c"]
      none [.ask "s" {}] rfl).1 rfl
  have cold : Answers Script.library (letters none) 0 :=
    (refinement_is_independent_of_order Script.library [finding none "b", finding none "c"]
      none [.ask "s" {}] rfl).2 rfl
  let found : List (Option (List Candidate)) :=
    [some [{ id := "b", kind := "letter" }], some [{ id := "c", kind := "letter" }]]
  have hfound : ((letters (some [])).started Script.library (answerInTurn 0 1)).arrivals
      (letters (some [])).nextAskers = found := rfl
  have hfound' : ((letters (some [])).started Script.library (answerInTurn 1 0)).arrivals
      (letters (some [])).nextAskers = found := rfl
  have hanswered : ((letters none).started Script.library (answerInTurn 1 0)).arrivals
      (letters none).nextAskers = found := rfl
  obtain ⟨s, hs, -, hlatest⟩ := warm.shown (answerInTurn 0 1)
  obtain ⟨s', hs', -, hlatest'⟩ := warm.shown (answerInTurn 1 0)
  obtain ⟨t, ht⟩ := cold.ends (answerInTurn 1 0) (by decide) rfl (by decide)
  have hagrees := cold.agrees (answerInTurn 1 0) t ht (by decide) [some [], none] rfl rfl
  rw [hanswered] at hagrees
  rw [hfound] at hlatest
  rw [hfound'] at hlatest'
  exact ⟨s, s', t, hs, hs', ht, (hlatest rfl).trans hagrees, (hlatest' rfl).trans hagrees⟩

end CiteSync.Completion.Panel
