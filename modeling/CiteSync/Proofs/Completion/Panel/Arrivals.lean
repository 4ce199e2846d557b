import CiteSync.Proofs.Completion.Merging
import CiteSync.Proofs.Completion.Panel.Superseded

/-!
# What arrives for a query

A query that finds something loaded shows it and refines it with every refresh that arrives, in
whatever order they do.
-/

namespace CiteSync.Completion.Panel

open Remote

variable {σ : Type} {library : RemoteLibrary σ} {actor : Actor} {p p' : Panel σ}
  {number : Nat} {a a' : Activity} {query provider : Nat} {document : Document} {s : Query}

/-! ## 1. What one activity has brought back -/

theorem broughtBack?_of_goesOn (here : p.activities[number]? = some a)
    (goesOn : a.stage.ending? = none) : p.broughtBack? number = none := by
  unfold broughtBack? activityEnding?
  rw [here, Option.bind_some, goesOn]

theorem broughtBack?_of_ok {found : Option (List Candidate)}
    (here : p.activities[number]? = some a) (ended : a.stage = .ended (.ok found)) :
    p.broughtBack? number = found := by
  unfold broughtBack?
  rw [activityEnding?_of_ended here ended]

theorem broughtBack?_of_error {failure : Failure} (here : p.activities[number]? = some a)
    (ended : a.stage = .ended (.error failure)) : p.broughtBack? number = none := by
  unfold broughtBack?
  rw [activityEnding?_of_ended here ended]

theorem broughtBack?_congr (here : p.activities[number]? = some a)
    (here' : p'.activities[number]? = some a') (h : a'.stage.ending? = a.stage.ending?) :
    p'.broughtBack? number = p.broughtBack? number := by
  unfold broughtBack? activityEnding?
  rw [here, here', Option.bind_some, Option.bind_some, h]

theorem Change.broughtBack_of_ended (h : Change actor p p')
    (ended : (p.activityEnding? number).isSome) :
    (p'.activityEnding? number).isSome ∧ p'.broughtBack? number = p.broughtBack? number := by
  cases here : p.activities[number]? with
  | none =>
    rw [activityEnding?, here] at ended
    cases ended
  | some a =>
    obtain ⟨ending, hending⟩ := ended_of_ending? ended here
    obtain ⟨a', here', hlater⟩ := h.later here
    have hending' := hlater.ended ending hending
    refine ⟨?_, broughtBack?_congr here here' (by rw [hending', hending])⟩
    rw [activityEnding?_of_ended here' hending']
    rfl

/-- The step of a refresh brings nothing back. -/
theorem Develops.broughtBack {reactions : List Reaction}
    (h : p.Develops actor number a reactions a') (work : a.work = .refresh query provider document)
    (here : p.activities[number]? = some a) (here' : p'.activities[number]? = some a') :
    p'.broughtBack? number = p.broughtBack? number := by
  have hnone : ∀ {stage : Stage}, a.stage = stage → stage.ending? = none →
      a'.stage.ending? = none → p'.broughtBack? number = p.broughtBack? number := by
    rintro stage rfl hgoesOn hgoesOn'
    rw [broughtBack?_of_goesOn here hgoesOn, broughtBack?_of_goesOn here' hgoesOn']
  cases h with
  | promise reaction => exact broughtBack?_congr here here' rfl
  | askCancel => exact broughtBack?_congr here here' rfl
  | pause fresh => exact hnone fresh rfl rfl
  | again load =>
    rw [work] at load
    cases load
  | tell waits => exact hnone waits rfl rfl
  | last ended waits => exact hnone waits rfl rfl
  | abandon => exact broughtBack?_congr here here' (Stage.ending?_mapGathered _ _)
  | count ended rest => exact broughtBack?_congr here here' (Stage.ending?_mapGathered _ _)
  | fail goesOn =>
    rw [broughtBack?_of_goesOn here goesOn, broughtBack?_of_error here' rfl]
  | finish goesOn free =>
    rw [work] at free
    cases free

/-- A refresh brings something back only by handing it on. -/
theorem Change.broughtBack (h : Change actor p p') (here : p.activities[number]? = some a)
    (work : a.work = .refresh query provider document) :
    p'.broughtBack? number = p.broughtBack? number ∨
      ∃ found, Delivers p p' number a query provider found := by
  rcases h.activity here with hsame | ⟨_, a', hdevelops, here', -⟩ | ⟨_, _, _, hshows⟩ |
    ⟨-, ⟨_, _, _, hwork⟩, -⟩ | ⟨q, i, found, hdelivers⟩
  · exact .inl (broughtBack?_congr here hsame rfl)
  · exact .inl (hdevelops.broughtBack work here here')
  · obtain ⟨_, _, hwork⟩ := hshows.work
    cases work.symm.trans hwork
  · cases work.symm.trans hwork
  · obtain ⟨_, hwork⟩ := hdelivers.work
    cases work.symm.trans hwork
    exact .inr ⟨found, hdelivers⟩

theorem Delivers.before {found : List Candidate}
    (h : Delivers p p' number a query provider found) : p.broughtBack? number = none :=
  broughtBack?_of_goesOn h.here h.runs.not_ended

theorem Delivers.after {found : List Candidate}
    (h : Delivers p p' number a query provider found) : p'.broughtBack? number = some found := by
  obtain ⟨a', here', hended⟩ := h.ended
  exact broughtBack?_of_ok here' hended

theorem Delivers.other {found : List Candidate} {other : Nat}
    (h : Delivers p p' number a query provider found) (ho : number ≠ other) :
    p'.broughtBack? other = p.broughtBack? other := by
  unfold broughtBack? activityEnding?
  rw [h.others other ho]

theorem Delivers.shown? {found : List Candidate}
    (h : Delivers p p' number a query provider found) (hs : p.shown? query = some s) :
    p'.shown? query = some (s.receive p.generation provider found) := by
  obtain ⟨q, hq, hshown⟩ := exists_of_shown hs
  rw [shown?_of_queries (h.query_here hq), hshown]
  rfl

/-! ## 2. What the refreshes of a query have brought back -/

/-- What activities have brought back. -/
def arrivals (p : Panel σ) (numbers : List Nat) : List (Option (List Candidate)) :=
  numbers.map p.broughtBack?

/-- What is shown for a query that found something loaded.  While it is the newest query it has
taken in all that has arrived. -/
structure Refined (p : Panel σ) (base : Nat) (current : List (Option (List Candidate)))
    (generation : Nat) (s : Query) : Prop where
  generation_eq : s.generation = generation
  items : s.items = merge current
  contributions : p.generation = generation →
    s.contributions = contributed (p.arrivals (List.range' base current.length)) current
  latest : p.generation = generation →
    s.latest = refined (p.arrivals (List.range' base current.length)) current

/-- A query that shows what was loaded, while its refreshes arrive. -/
structure Refining (base : Nat) (current : List (Option (List Candidate))) (document : Document)
    (generation query : Nat) (p : Panel σ) : Prop where
  numbered : p.Numbered
  /-- The refreshes of the query ask the providers in their order. -/
  refreshes : ∃ q, p.queries[query]? = some q ∧ q.refreshes = List.range' base current.length
  works : ∀ i, i < current.length → ∃ a, p.activities[base + i]? = some a ∧
    a.work = .refresh query i document
  shown : ∃ s, p.shown? query = some s ∧ p.Refined base current generation s

theorem getElem?_range'_eq_some {base count i number : Nat}
    (h : (List.range' base count)[i]? = some number) : i < count ∧ number = base + i := by
  obtain ⟨hlt, hget⟩ := List.getElem?_eq_some_iff.1 h
  rw [List.length_range'] at hlt
  rw [List.getElem_range', Nat.one_mul] at hget
  exact ⟨hlt, hget.symm⟩

theorem exists_of_mem_range' {base count number : Nat} (h : number ∈ List.range' base count) :
    ∃ i, i < count ∧ number = base + i := by
  obtain ⟨hbase, hlt⟩ := List.mem_range'_1.1 h
  exact ⟨number - base, by omega, by omega⟩

theorem arrivals_getElem? {base count i : Nat} (hi : i < count) :
    (p.arrivals (List.range' base count))[i]? = some (p.broughtBack? (base + i)) := by
  simp [arrivals, hi]

theorem arrivals_congr {numbers : List Nat}
    (h : ∀ number ∈ numbers, p'.broughtBack? number = p.broughtBack? number) :
    p'.arrivals numbers = p.arrivals numbers :=
  List.map_congr_left h

/-- One more refresh has arrived. -/
theorem Delivers.arrivals {base count : Nat} {found : List Candidate}
    (h : Delivers p p' (base + provider) a query provider found) :
    p'.arrivals (List.range' base count) =
      (p.arrivals (List.range' base count)).set provider (some found) := by
  apply List.ext_getElem?
  intro i
  rw [List.getElem?_set']
  by_cases hi : i < count
  · rw [arrivals_getElem? hi, arrivals_getElem? hi]
    by_cases hprovider : provider = i
    · subst hprovider
      rw [if_pos rfl, h.after]
      rfl
    · rw [if_neg hprovider, h.other (by omega)]
  · have hlength : ∀ p : Panel σ, (p.arrivals (List.range' base count))[i]? = none := by
      intro p
      simp only [Panel.arrivals, List.getElem?_eq_none_iff, List.length_map, List.length_range']
      omega
    rw [hlength, hlength]
    split <;> rfl

theorem refined_set {found current : List (Option (List Candidate))} {i : Nat}
    (hi : i < found.length) (fresh : List Candidate) :
    refined (found.set i (some fresh)) current =
      some (merge (upToDate (found.set i (some fresh)) current)) := by
  have hmem : some fresh ∈ found.set i (some fresh) := List.mem_set hi (some fresh)
  rw [refined, if_neg]
  intro hall
  have hnone := List.all_eq_true.1 hall _ hmem
  cases hnone

theorem Change.generation_le (h : Change actor p p') (sound : p.Sound) :
    p.generation ≤ p'.generation := by
  rcases h.starts sound with ⟨hsame, -⟩ | ⟨_, hnext, -⟩
  · omega
  · omega

theorem Refined.of_same {base generation : Nat} {current : List (Option (List Candidate))}
    (h : p.Refined base current generation s)
    (harrivals : p'.arrivals (List.range' base current.length) =
      p.arrivals (List.range' base current.length))
    (hnewest : p'.generation = generation → p.generation = generation) :
    p'.Refined base current generation s where
  generation_eq := h.generation_eq
  items := h.items
  contributions := fun hgeneration => harrivals ▸ h.contributions (hnewest hgeneration)
  latest := fun hgeneration => harrivals ▸ h.latest (hnewest hgeneration)

/-- What is handed on to the newest query is contributed by its provider. -/
theorem Refined.receive {base generation : Nat} {current : List (Option (List Candidate))}
    {found : List Candidate} (h : p.Refined base current generation s)
    (hdelivers : Delivers p p' (base + provider) a query provider found)
    (hprovider : provider < current.length)
    (hnewest : p'.generation = generation → p.generation = generation) :
    p'.Refined base current generation (s.receive p.generation provider found) := by
  have hsame := (Query.Same.refl s).receive p.generation provider found
  have hlength : (p.arrivals (List.range' base current.length)).length = current.length := by
    rw [arrivals, List.length_map, List.length_range']
  have hreceived : p'.generation = generation →
      s.receive p.generation provider found =
        { s with
          contributions := contributed (p'.arrivals (List.range' base current.length)) current
          latest := refined (p'.arrivals (List.range' base current.length)) current } := by
    intro hgeneration
    have hbefore := hnewest hgeneration
    have hisCurrent : s.isCurrent p.generation = true := by
      rw [Query.isCurrent, h.generation_eq, hbefore]
      exact beq_self_eq_true generation
    rw [Query.receive, if_pos hisCurrent, hdelivers.arrivals, h.contributions hbefore,
      refined_set (by rwa [hlength]), ← merge_contributed, contributed_set hprovider]
  refine ⟨hsame.generation.trans h.generation_eq, hsame.items.trans h.items, ?_, ?_⟩
  · intro hgeneration
    rw [hreceived hgeneration]
  · intro hgeneration
    rw [hreceived hgeneration]

/-- Nothing has arrived that was not handed on. -/
theorem Refining.arrivals_of_none {base generation : Nat}
    {current : List (Option (List Candidate))}
    (h : Refining base current document generation query p) (hchange : Change actor p p')
    (hnone : ¬∃ number a provider found, Delivers p p' number a query provider found) :
    p'.arrivals (List.range' base current.length) =
      p.arrivals (List.range' base current.length) := by
  refine arrivals_congr fun number hnumber => ?_
  obtain ⟨i, hi, rfl⟩ := exists_of_mem_range' hnumber
  obtain ⟨a, ha, hwork⟩ := h.works i hi
  rcases hchange.broughtBack ha hwork with hsame | ⟨found, hdelivers⟩
  · exact hsame
  · exact absurd ⟨_, a, i, found, hdelivers⟩ hnone

theorem Refining.change {base generation : Nat} {current : List (Option (List Candidate))}
    (h : Refining base current document generation query p) (hchange : Change actor p p') :
    Refining base current document generation query p' := by
  obtain ⟨q, hq, hrefreshes⟩ := h.refreshes
  obtain ⟨s, hs, hrefined⟩ := h.shown
  have sound := h.numbered.sound
  have hnewest : p'.generation = generation → p.generation = generation := by
    have hle := h.numbered.le (generationOf?_of_shown hs)
    have hle' := hchange.generation_le sound
    have hgeneration := hrefined.generation_eq
    omega
  refine ⟨h.numbered.change hchange, ?_, ?_, ?_⟩
  · -- a query that is shown keeps its refreshes
    obtain ⟨q', hq', hshown⟩ := exists_of_shown hs
    obtain rfl := Option.some.inj (hq.symm.trans hq')
    obtain ⟨q', hq', -, hkeeps⟩ := hchange.asked_keeps sound hq
    exact ⟨q', hq', (hkeeps (by rw [hshown]; rfl)).2.trans hrefreshes⟩
  · intro i hi
    obtain ⟨a, ha, hwork⟩ := h.works i hi
    obtain ⟨a', ha', hlater⟩ := hchange.later ha
    exact ⟨a', ha', hlater.work.trans hwork⟩
  · by_cases hhands : ∃ number a provider found, Delivers p p' number a query provider found
    · obtain ⟨number, a, provider, found, hdelivers⟩ := hhands
      -- only a refresh of the query hands something on to it
      obtain ⟨_, hwork⟩ := hdelivers.work
      obtain ⟨q', hq', -, hnumber⟩ := sound.refresh hdelivers.here hwork
      obtain rfl := Option.some.inj (hq.symm.trans hq')
      rw [hrefreshes] at hnumber
      obtain ⟨hprovider, rfl⟩ := getElem?_range'_eq_some hnumber
      exact ⟨_, hdelivers.shown? hs, hrefined.receive hdelivers hprovider hnewest⟩
    · rcases hchange.shown? sound hs with hstays | ⟨number, a, provider, found, -, hdelivers, -⟩
      · exact ⟨s, hstays, hrefined.of_same (h.arrivals_of_none hchange hhands) hnewest⟩
      · exact absurd ⟨number, a, provider, found, hdelivers⟩ hhands

variable (library) in
/-- A query that starts and finds something loaded shows it, and starts its refreshes. -/
theorem Refining.start (numbered : p.Numbered) (hnext : p.nextQuery? = some query)
    (loaded : p.current.all Option.isNone = false) :
    ∃ document, Refining p.activities.length p.current document (p.generation + 1) query
      (p.happen library) := by
  obtain ⟨number, a, token, document, rest, hready, here, work, fresh, wanted⟩ :=
    exists_of_nextQuery? hnext
  have hstarted := happen_of_start library hready here work fresh wanted
  rw [startQuery_of_loaded (p := { p with ready := rest }) here fresh loaded] at hstarted
  obtain ⟨q, hq, -⟩ := numbered.sound.query here work
  have hlength : p.current.length = p.providers.length := List.length_map _
  have hworks : ∀ i, i < p.current.length →
      (p.happen library).activities[p.activities.length + i]? =
        some { work := .refresh query i document
               reactions := [.noteRefresh (p.activities.length + i)] } := by
    intro i hi
    rw [hlength] at hi
    rw [hstarted]
    exact asker_here _ _ _ hi
  refine ⟨document, numbered.course library [.happen], ?_, ?_, ?_⟩
  · refine ⟨{ q with
      shown := some (.warm token (p.generation + 1) p.current), refreshes := p.nextAskers }, ?_, ?_⟩
    · rw [hstarted]
      show (p.queries.modify query _)[query]? = _
      rw [List.getElem?_modify_eq, hq]
      rfl
    · rw [hlength]
      rfl
  · exact fun i hi => ⟨_, hworks i hi, rfl⟩
  · -- none of the new refreshes has come back
    have hnone : (p.happen library).arrivals (List.range' p.activities.length p.current.length) =
        List.replicate p.current.length none := by
      apply List.ext_getElem?
      intro i
      by_cases hi : i < p.current.length
      · rw [arrivals_getElem? hi, broughtBack?_of_goesOn (hworks i hi) rfl,
          List.getElem?_replicate, if_pos hi]
      · simp [arrivals, hi]
    refine ⟨.warm token (p.generation + 1) p.current, ?_, rfl, rfl, fun _ => ?_, fun _ => ?_⟩
    · rw [hstarted]
      show ((p.queries.modify query _)[query]?).bind _ = _
      rw [List.getElem?_modify_eq, hq]
      rfl
    · rw [hnone, contributed_none]
      rfl
    · rw [hnone, refined, if_pos (List.all_replicate.trans (by simp))]
      rfl

theorem Refining.ready {base generation : Nat} {current : List (Option (List Candidate))}
    (h : Refining base current document generation query p) (ready : List Reaction) :
    Refining base current document generation query { p with ready } := by
  obtain ⟨s, hs, hrefined⟩ := h.shown
  exact ⟨h.numbered.ready ready, h.refreshes, h.works, s, hs, hrefined.of_same rfl fun h => h⟩

variable (library) in
theorem Refining.course {base generation : Nat} {current : List (Option (List Candidate))}
    (h : Refining base current document generation query p) (moves : List Move) :
    Refining base current document generation query (p.course library moves) :=
  course_keeps library (Refining base current document generation query)
    (fun _ ready h => h.ready ready) (fun hchange h => h.change hchange) moves h

end CiteSync.Completion.Panel
