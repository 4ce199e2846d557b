import CiteSync.Proofs.Completion.Panel.Moves
import CiteSync.Proofs.Lists

/-!
# Queries and their refreshes

The activities of a panel and its queries refer to each other: a query has one activity that makes
it, and its refreshes are the activities that it has started.  A query that is shown has ended, and
each of its refreshes is lost or will be cancelled by closing.
-/

namespace CiteSync.Completion.Panel

open Remote

variable {σ : Type} {library : RemoteLibrary σ} {actor : Actor} {p p' : Panel σ}
  {number : Nat} {a a' : Activity} {query provider : Nat} {token : String} {document : Document}

/-! ## 1. What a change does to queries -/

/-- A query ends with something to show. -/
structure Shows (p p' : Panel σ) (number : Nat) (a : Activity) (query : Nat) (shown : Query)
    (refreshes : List Nat) : Prop where
  here : p.activities[number]? = some a
  goesOn : a.stage.ending? = none
  work : ∃ token document, a.work = .query query token document
  queries : p'.queries = p.queries.modify query fun q => { q with shown := some shown, refreshes }
  ended : ∃ a', p'.activities[number]? = some a' ∧ a'.stage = .ended .done
  /-- It starts, or all its providers were asked. -/
  how : a.stage = .fresh ∨ ∃ token generation g found,
    a.stage = .waiting (.asking generation g) (some (.ok found)) ∧
      shown = .cold token generation (g.activities.filterMap p.broughtBack?) ∧ refreshes = []
  ready : a.reactions ⊆ p'.ready

/-- A refresh hands on what it has found. -/
structure Delivers (p p' : Panel σ) (number : Nat) (a : Activity) (query provider : Nat)
    (found : List Candidate) : Prop where
  here : p.activities[number]? = some a
  runs : a.Runs
  work : ∃ document, a.work = .refresh query provider document
  has : p.Has a provider (.ok found)
  queries : p'.queries = (p.receive query provider found).queries
  ended : ∃ a', p'.activities[number]? = some a' ∧ a'.stage = .ended (.ok (some found))
  others : ∀ other, number ≠ other → p'.activities[other]? = p.activities[other]?
  ready : a.reactions ⊆ p'.ready

theorem Shows.query_here {shown : Query} {refreshes : List Nat} {q : Asked}
    (h : Shows p p' number a query shown refreshes) (hq : p.queries[query]? = some q) :
    p'.queries[query]? = some { q with shown := some shown, refreshes } := by
  rw [h.queries, List.getElem?_modify_eq, hq]
  rfl

theorem Delivers.query_here {found : List Candidate} {q : Asked}
    (h : Delivers p p' number a query provider found) (hq : p.queries[query]? = some q) :
    p'.queries[query]? =
      some { q with shown := q.shown.map fun s => s.receive p.generation provider found } := by
  rw [h.queries, receive, List.getElem?_modify_eq, hq]
  rfl

theorem set_append_here (here : p.activities[number]? = some a) (a' : Activity)
    (more : List Activity) : (p.activities.set number a' ++ more)[number]? = some a' := by
  have hlt := (List.getElem?_eq_some_iff.1 here).1
  rw [List.getElem?_append_left (by rwa [List.length_set]), List.getElem?_set_self', here]
  rfl

theorem set_here (here : p.activities[number]? = some a) (a' : Activity) :
    (p.activities.set number a')[number]? = some a' := by
  rw [List.getElem?_set_self', here]
  rfl

/-- Queries change when one is asked for, when one ends and when a refresh hands something on. -/
theorem Change.queries (h : Change actor p p') :
    p'.queries = p.queries ∨ (∃ token document, p' = p.ask token document) ∨
      (∃ number a query shown refreshes, Shows p p' number a query shown refreshes) ∨
      ∃ number a query provider found, actor = .activity number ∧
        Delivers p p' number a query provider found := by
  cases h with
  | aside queries => exact .inl queries
  | develop | begin | cold | note | clear => exact .inl rfl
  | ask token document => exact .inr (.inl ⟨token, document, rfl⟩)
  | warm here fresh work =>
    exact .inr (.inr (.inl ⟨_, _, _, _, _, here, by rw [fresh]; rfl, ⟨_, _, work⟩, rfl,
      ⟨_, set_append_here here _ _, rfl⟩, .inl fresh, List.subset_append_right _ _⟩))
  | alone here fresh work =>
    exact .inr (.inr (.inl ⟨_, _, _, _, _, here, by rw [fresh]; rfl, ⟨_, _, work⟩, rfl,
      ⟨_, set_here here _, rfl⟩, .inl fresh, List.subset_append_right _ _⟩))
  | answered here told work =>
    exact .inr (.inr (.inl ⟨_, _, _, _, _, here, by rw [told]; rfl, ⟨_, _, work⟩, rfl,
      ⟨_, set_here here _, rfl⟩, .inr ⟨_, _, _, _, told, rfl, rfl⟩,
      List.subset_append_right _ _⟩))
  | deliver here runs work has =>
    exact .inr (.inr (.inr ⟨_, _, _, _, _, rfl, here, runs, ⟨_, work⟩, has, rfl,
      ⟨_, set_here here _, rfl⟩, fun _ ho => List.getElem?_set_ne ho,
      List.subset_append_right _ _⟩))

/-! ## 2. What a change does to an activity, and what it adds -/

/-- Where one activity is replaced, that is what becomes of it, and every other one stays. -/
theorem set_append_cases {b b' : Activity} {other : Nat} (there : p.activities[other]? = some b)
    (here : p.activities[number]? = some a) (more : List Activity) :
    (other = number ∧ b = a ∧ (p.activities.set other b' ++ more)[number]? = some b') ∨
      (p.activities.set other b' ++ more)[number]? = some a := by
  by_cases ho : other = number
  · subst ho
    exact .inl ⟨rfl, Option.some.inj (there.symm.trans here), set_append_here there b' more⟩
  · have hlt := (List.getElem?_eq_some_iff.1 here).1
    refine .inr ?_
    rw [List.getElem?_append_left (by rwa [List.length_set]), List.getElem?_set_ne ho, here]

theorem set_cases {b b' : Activity} {other : Nat} (there : p.activities[other]? = some b)
    (here : p.activities[number]? = some a) :
    (other = number ∧ b = a ∧ (p.activities.set other b')[number]? = some b') ∨
      (p.activities.set other b')[number]? = some a := by
  rw [← List.append_nil (p.activities.set other b')]
  exact set_append_cases there here []

/-- An activity stays or takes a step; one that makes a query ends it or asks its providers, and a
refresh may hand something on. -/
theorem Change.activity (h : Change actor p p') (here : p.activities[number]? = some a) :
    p'.activities[number]? = some a ∨
      (∃ reactions a', p.Develops actor number a reactions a' ∧ p'.activities[number]? = some a' ∧
        reactions ⊆ p'.ready) ∨
      (∃ query shown refreshes, Shows p p' number a query shown refreshes) ∨
      (a.stage = .fresh ∧ (∃ query token document, a.work = .query query token document) ∧
        p'.activities[number]? = some { a with stage := .waiting p.askPause none }) ∨
      ∃ query provider found, Delivers p p' number a query provider found := by
  have hlt := (List.getElem?_eq_some_iff.1 here).1
  cases h with
  | aside queries activities => exact .inl (by rw [activities, here])
  | begin | ask => exact .inl ((List.getElem?_append_left hlt).trans here)
  | note | clear => exact .inl here
  | @develop _ _ other b b' _ there develops =>
    rcases set_cases there here with ⟨rfl, rfl, hset⟩ | hset
    · exact .inr (.inl ⟨_, b', develops, hset, List.subset_append_right _ _⟩)
    · exact .inl hset
  | warm there fresh work =>
    rcases set_append_cases there here _ with ⟨rfl, rfl, hset⟩ | hset
    · exact .inr (.inr (.inl ⟨_, _, _, there, by rw [fresh]; rfl, ⟨_, _, work⟩, rfl,
        ⟨_, hset, rfl⟩, .inl fresh, List.subset_append_right _ _⟩))
    · exact .inl hset
  | cold there fresh work =>
    rcases set_append_cases there here _ with ⟨rfl, rfl, hset⟩ | hset
    · exact .inr (.inr (.inr (.inl ⟨fresh, ⟨_, _, _, work⟩, hset⟩)))
    · exact .inl hset
  | alone there fresh work =>
    rcases set_cases there here with ⟨rfl, rfl, hset⟩ | hset
    · exact .inr (.inr (.inl ⟨_, _, _, there, by rw [fresh]; rfl, ⟨_, _, work⟩, rfl,
        ⟨_, hset, rfl⟩, .inl fresh, List.subset_append_right _ _⟩))
    · exact .inl hset
  | answered there told work =>
    rcases set_cases there here with ⟨rfl, rfl, hset⟩ | hset
    · exact .inr (.inr (.inl ⟨_, _, _, there, by rw [told]; rfl, ⟨_, _, work⟩, rfl,
        ⟨_, hset, rfl⟩, .inr ⟨_, _, _, _, told, rfl, rfl⟩, List.subset_append_right _ _⟩))
    · exact .inl hset
  | deliver there runs work has =>
    rcases set_cases there here with ⟨rfl, rfl, hset⟩ | hset
    · exact .inr (.inr (.inr (.inr ⟨_, _, _, there, runs, ⟨_, work⟩, has, rfl, ⟨_, hset, rfl⟩,
        fun _ ho => List.getElem?_set_ne ho, List.subset_append_right _ _⟩)))
    · exact .inl hset

theorem askers_getElem? (work : Nat → Work) (after : Nat → Reaction) {i : Nat}
    (hi : i < p.providers.length) :
    (p.askers work after)[i]? =
      some { work := work i, reactions := [after (p.activities.length + i)] } := by
  rw [askers, nextAskers, List.getElem?_zipWith]
  simp [hi]

theorem askers_length (work : Nat → Work) (after : Nat → Reaction) :
    (p.askers work after).length = p.providers.length := by
  simp [askers, nextAskers]

theorem asker_here (work : Nat → Work) (after : Nat → Reaction) (b : Activity) {i : Nat}
    (hi : i < p.providers.length) :
    (p.activities.set number b ++ p.askers work after)[p.activities.length + i]? =
      some { work := work i, reactions := [after (p.activities.length + i)] } := by
  rw [List.getElem?_append_right (by rw [List.length_set]; omega), List.length_set,
    Nat.add_sub_cancel_left, askers_getElem? work after hi]

theorem nextAskers_getElem? {i : Nat} (hi : i < p.providers.length) :
    p.nextAskers[i]? = some (p.activities.length + i) := by
  simp [nextAskers, hi]

theorem exists_asker {work : Nat → Work} {after : Nat → Reaction} {before : List Activity}
    (hbefore : before.length = p.activities.length)
    (here : (before ++ p.askers work after)[number]? = some a)
    (hnew : p.activities.length ≤ number) :
    ∃ i, i < p.providers.length ∧ number = p.activities.length + i ∧
      a = { work := work i, reactions := [after number] } := by
  rw [List.getElem?_append_right (by omega), hbefore] at here
  have hlt := (List.getElem?_eq_some_iff.1 here).1
  rw [askers_length] at hlt
  refine ⟨number - p.activities.length, hlt, by omega, ?_⟩
  rw [askers_getElem? work after hlt] at here
  have hnumber : p.activities.length + (number - p.activities.length) = number := by omega
  rw [hnumber] at here
  exact (Option.some.inj here).symm

/-- A refresh that a query has just started. -/
structure Refreshes (p p' : Panel σ) (number query provider : Nat) (document : Document)
    (a : Activity) : Prop where
  work : a.work = .refresh query provider document
  shows : ∃ actor b shown, Shows p p' actor b query shown p.nextAskers
  provider_lt : provider < p.providers.length
  number_eq : number = p.activities.length + provider
  outstanding : p'.outstanding = p.outstanding ++ p.nextAskers

/-- An activity that a change adds is fresh, and no query knows of it unless the change says so. -/
theorem Change.new (h : Change actor p p') (here : p'.activities[number]? = some a)
    (hnew : p.activities.length ≤ number) :
    a.stage = .fresh ∧ a.cancelAsked = false ∧
      (a.work.query? = none ∨
        (∃ token document, p' = p.ask token document ∧ number = p.activities.length ∧
          a.work = .query p.queries.length token document) ∨
        ∃ query provider document, Refreshes p p' number query provider document a) := by
  have hlt := (List.getElem?_eq_some_iff.1 here).1
  have hset : ∀ {n : Nat} {b : Activity}, (p.activities.set n b).length = p.activities.length :=
    List.length_set
  -- only what begins, is asked for or starts adds activities
  cases h with
  | aside queries activities =>
    rw [activities] at hlt
    omega
  | note | clear =>
    exact absurd hlt (Nat.not_lt.2 hnew)
  | develop | alone | answered | deliver =>
    simp only [hset] at hlt
    omega
  | begin free =>
    obtain ⟨rfl, rfl⟩ := new_of_append_singleton here hnew
    exact ⟨rfl, rfl, .inl free⟩
  | ask token document =>
    obtain ⟨rfl, rfl⟩ := new_of_append_singleton here hnew
    exact ⟨rfl, rfl, .inr (.inl ⟨token, document, rfl, rfl, rfl⟩)⟩
  | cold =>
    obtain ⟨i, hi, hnumber, rfl⟩ := exists_asker hset here hnew
    exact ⟨rfl, rfl, .inl rfl⟩
  | warm there fresh work =>
    obtain ⟨i, hi, hnumber, rfl⟩ := exists_asker hset here hnew
    refine ⟨rfl, rfl, .inr (.inr ⟨_, i, _, rfl,
      ⟨_, _, _, there, ?_, ⟨_, _, work⟩, rfl, ?_, .inl fresh, ?_⟩, hi, hnumber, rfl⟩)⟩
    · rw [fresh]
      rfl
    · exact ⟨_, set_append_here there _ _, rfl⟩
    · exact List.subset_append_right _ _

theorem Change.new_query (h : Change actor p p') (here : p'.activities[number]? = some a)
    (hnew : p.activities.length ≤ number) (work : a.work = .query query token document) :
    ∃ token document, p' = p.ask token document ∧ number = p.activities.length ∧
      query = p.queries.length := by
  obtain ⟨-, -, hfree | ⟨token', document', hp', hnumber, hasked⟩ | ⟨_, _, _, hrefresh⟩⟩ :=
    h.new here hnew
  · rw [work] at hfree
    cases hfree
  · cases work.symm.trans hasked
    exact ⟨_, _, hp', hnumber, rfl⟩
  · cases work.symm.trans hrefresh.work

theorem Change.new_refresh (h : Change actor p p') (here : p'.activities[number]? = some a)
    (hnew : p.activities.length ≤ number) (work : a.work = .refresh query provider document) :
    Refreshes p p' number query provider document a := by
  obtain ⟨-, -, hfree | ⟨_, _, _, _, hasked⟩ | ⟨_, _, _, hrefresh⟩⟩ := h.new here hnew
  · rw [work] at hfree
    cases hfree
  · cases work.symm.trans hasked
  · cases work.symm.trans hrefresh.work
    exact hrefresh

/-! ## 3. What holds of queries at any time -/

/-- The activities and the queries of a panel refer to each other. -/
structure Sound (p : Panel σ) : Prop where
  /-- A query that is shown has ended. -/
  asked : ∀ {query : Nat} {q : Asked}, p.queries[query]? = some q →
    ∃ a token document, p.activities[q.activity]? = some a ∧
      a.work = .query query token document ∧ (q.shown.isSome → ∃ ending, a.stage = .ended ending)
  query : ∀ {number : Nat} {a : Activity} {query : Nat} {token : String} {document : Document},
    p.activities[number]? = some a → a.work = .query query token document →
      ∃ q, p.queries[query]? = some q ∧ q.activity = number
  refresh : ∀ {number : Nat} {a : Activity} {query provider : Nat} {document : Document},
    p.activities[number]? = some a → a.work = .refresh query provider document →
      ∃ q, p.queries[query]? = some q ∧ q.shown.isSome ∧ q.refreshes[provider]? = some number
  /-- What closing would not cancel is lost. -/
  tracked : ∀ {number : Nat} {a : Activity} {query provider : Nat} {document : Document},
    p.activities[number]? = some a → a.work = .refresh query provider document →
      number ∈ p.outstanding ∨ a.Lost

/-- A query whose activity goes on is not shown yet. -/
theorem Sound.not_shown (sound : p.Sound) (here : p.activities[number]? = some a)
    (work : a.work = .query query token document) (goesOn : a.stage.ending? = none) :
    ∃ q, p.queries[query]? = some q ∧ q.activity = number ∧ q.shown = none := by
  obtain ⟨q, hq, rfl⟩ := sound.query here work
  refine ⟨q, hq, rfl, ?_⟩
  cases hs : q.shown with
  | none => rfl
  | some s =>
    obtain ⟨b, _, _, hb, _, hended⟩ := sound.asked hq
    obtain rfl := Option.some.inj (here.symm.trans hb)
    obtain ⟨ending, hending⟩ := hended (by rw [hs]; rfl)
    rw [hending] at goesOn
    cases goesOn

theorem Change.asked (h : Change actor p p') (sound : p.Sound) {q : Asked}
    (hq : p.queries[query]? = some q) :
    p'.queries[query]? = some q ∨
      (∃ a shown refreshes, q.shown = none ∧ Shows p p' q.activity a query shown refreshes ∧
        p'.queries[query]? = some { q with shown := some shown, refreshes }) ∨
      ∃ number a provider found, actor = .activity number ∧
        Delivers p p' number a query provider found ∧
        p'.queries[query]? =
          some { q with shown := q.shown.map fun s => s.receive p.generation provider found } := by
  rcases h.queries with hsame | ⟨token, document, rfl⟩ |
    ⟨number, a, other, shown, refreshes, hshows⟩ |
    ⟨number, a, other, provider, found, hactor, hdelivers⟩
  · exact .inl (by rw [hsame, hq])
  · have hlt := (List.getElem?_eq_some_iff.1 hq).1
    exact .inl ((List.getElem?_append_left hlt).trans hq)
  · by_cases ho : other = query
    · subst ho
      obtain ⟨token, document, hwork⟩ := hshows.work
      obtain ⟨q', hq', rfl, hnone⟩ := sound.not_shown hshows.here hwork hshows.goesOn
      obtain rfl := Option.some.inj (hq.symm.trans hq')
      exact .inr (.inl ⟨a, shown, refreshes, hnone, hshows, hshows.query_here hq⟩)
    · exact .inl (by rw [hshows.queries, List.getElem?_modify_ne _ _ ho, hq])
  · by_cases ho : other = query
    · subst ho
      exact .inr (.inr ⟨number, a, provider, found, hactor, hdelivers, hdelivers.query_here hq⟩)
    · exact .inl (by
        rw [hdelivers.queries, receive, List.getElem?_modify_ne _ _ ho, hq])

/-- A query keeps its activity, and once it is shown its refreshes. -/
theorem Change.asked_keeps (h : Change actor p p') (sound : p.Sound) {q : Asked}
    (hq : p.queries[query]? = some q) :
    ∃ q', p'.queries[query]? = some q' ∧ q'.activity = q.activity ∧
      (q.shown.isSome → q'.shown.isSome ∧ q'.refreshes = q.refreshes) := by
  rcases h.asked sound hq with hq' | ⟨a, shown, refreshes, hnone, hshows, hq'⟩ |
    ⟨number, a, provider, found, hactor, hdelivers, hq'⟩
  · exact ⟨q, hq', rfl, fun hs => ⟨hs, rfl⟩⟩
  · refine ⟨_, hq', rfl, fun hs => ?_⟩
    rw [hnone] at hs
    cases hs
  · exact ⟨_, hq', rfl, fun hs => ⟨by rwa [Option.isSome_map], rfl⟩⟩

theorem Change.earlier (h : Change actor p p') (here : p'.activities[number]? = some a') :
    (∃ a, p.activities[number]? = some a ∧ a.Later a') ∨ p.activities.length ≤ number := by
  cases hp : p.activities[number]? with
  | none => exact .inr (List.getElem?_eq_none_iff.1 hp)
  | some a =>
    obtain ⟨b, hb, hlater⟩ := h.later hp
    obtain rfl := Option.some.inj (hb.symm.trans here)
    exact .inl ⟨a, rfl, hlater⟩

theorem Refreshes.asked (h : Refreshes p p' number query provider document a) (sound : p.Sound) :
    ∃ q, p'.queries[query]? = some q ∧ q.shown.isSome ∧ q.refreshes[provider]? = some number := by
  obtain ⟨other, b, shown, hshows⟩ := h.shows
  obtain ⟨token, document, hwork⟩ := hshows.work
  obtain ⟨q, hq, -⟩ := sound.query hshows.here hwork
  refine ⟨_, hshows.query_here hq, rfl, ?_⟩
  rw [h.number_eq]
  exact nextAskers_getElem? h.provider_lt

theorem Change.asked_earlier (h : Change actor p p') {q' : Asked}
    (hq' : p'.queries[query]? = some q') :
    (∃ q, p.queries[query]? = some q) ∨
      ∃ token document, p' = p.ask token document ∧ query = p.queries.length := by
  have hlt := (List.getElem?_eq_some_iff.1 hq').1
  rcases h.queries with hsame | ⟨token, document, rfl⟩ | ⟨_, _, _, _, _, hshows⟩ |
    ⟨_, _, _, _, _, _, hdelivers⟩
  · exact .inl ⟨q', hsame ▸ hq'⟩
  · by_cases hold : query < p.queries.length
    · exact .inl ⟨_, List.getElem?_eq_getElem hold⟩
    · have hone : (p.ask token document).queries.length = p.queries.length + 1 :=
        List.length_append
      exact .inr ⟨token, document, rfl, by omega⟩
  · rw [hshows.queries, List.length_modify] at hlt
    exact .inl ⟨_, List.getElem?_eq_getElem hlt⟩
  · rw [hdelivers.queries, receive, List.length_modify] at hlt
    exact .inl ⟨_, List.getElem?_eq_getElem hlt⟩

/-- What closing would cancel stays so, or is lost. -/
theorem Change.outstanding (h : Change actor p p') (here : p.activities[number]? = some a)
    (hmem : number ∈ p.outstanding) : number ∈ p'.outstanding ∨ a.Lost := by
  cases h with
  | aside queries activities generation outstanding => exact .inl (outstanding ▸ hmem)
  | develop | begin | ask | cold | alone | answered | deliver => exact .inl hmem
  | warm => exact .inl (List.mem_append_left _ hmem)
  | @note _ _ other ended =>
    by_cases ho : number = other
    · subst ho
      obtain ⟨ending, hending⟩ := ended_of_ending? ended here
      exact .inr (lost_of_ended hending)
    · exact .inl ((List.mem_erase_of_ne ho).2 hmem)
  | clear lost => exact .inr (lost number hmem a here)

theorem Sound.change (sound : p.Sound) (h : Change actor p p') : p'.Sound where
  asked := by
    intro query q' hq'
    -- a query that was there has kept its activity, a new one comes with its own
    rcases h.asked_earlier hq' with ⟨q, hq⟩ | ⟨token, document, rfl, rfl⟩
    · obtain ⟨a, token, document, ha, hwork, hended⟩ := sound.asked hq
      obtain ⟨a', ha', hlater⟩ := h.later ha
      have hwork' := hlater.work.trans hwork
      have hended' : q.shown.isSome → ∃ ending, a'.stage = .ended ending := fun hs =>
        (hended hs).imp fun ending hending => hlater.ended ending hending
      rcases h.asked sound hq with hsame | ⟨b, shown, refreshes, -, hshows, hsame⟩ |
        ⟨_, b, _, _, -, -, hsame⟩
      · obtain rfl := Option.some.inj (hsame.symm.trans hq')
        exact ⟨a', token, document, ha', hwork', hended'⟩
      · obtain rfl := Option.some.inj (hsame.symm.trans hq')
        obtain ⟨b', hb', hended⟩ := hshows.ended
        obtain rfl := Option.some.inj (ha'.symm.trans hb')
        exact ⟨a', token, document, ha', hwork', fun _ => ⟨_, hended⟩⟩
      · obtain rfl := Option.some.inj (hsame.symm.trans hq')
        exact ⟨a', token, document, ha', hwork', fun hs => hended' (by
          rwa [Option.isSome_map] at hs)⟩
    · have hnew : (p.ask token document).queries[p.queries.length]? =
          some { activity := p.activities.length } := List.getElem?_concat_length
      obtain rfl := Option.some.inj (hnew.symm.trans hq')
      refine ⟨{ work := .query p.queries.length token document }, token, document, ?_, rfl, ?_⟩
      · exact List.getElem?_concat_length
      · intro hs
        cases hs
  query := by
    intro number a' query token document here hwork
    rcases h.earlier here with ⟨a, ha, hlater⟩ | hnew
    · obtain ⟨q, hq, hactivity⟩ := sound.query ha (hlater.work ▸ hwork)
      obtain ⟨q', hq', hsame, -⟩ := h.asked_keeps sound hq
      exact ⟨q', hq', hsame.trans hactivity⟩
    · obtain ⟨token', document', rfl, hnumber, rfl⟩ := h.new_query here hnew hwork
      exact ⟨{ activity := p.activities.length }, List.getElem?_concat_length, hnumber.symm⟩
  refresh := by
    intro number a' query provider document here hwork
    rcases h.earlier here with ⟨a, ha, hlater⟩ | hnew
    · -- its query is shown, so it keeps its refreshes
      obtain ⟨q, hq, hshown, hprovider⟩ := sound.refresh ha (hlater.work ▸ hwork)
      obtain ⟨q', hq', -, hkeeps⟩ := h.asked_keeps sound hq
      obtain ⟨hshown', hrefreshes⟩ := hkeeps hshown
      exact ⟨q', hq', hshown', hrefreshes ▸ hprovider⟩
    · exact (h.new_refresh here hnew hwork).asked sound
  tracked := by
    intro number a' query provider document here hwork
    rcases h.earlier here with ⟨a, ha, hlater⟩ | hnew
    · rcases sound.tracked ha (hlater.work ▸ hwork) with hmem | hlost
      · exact (h.outstanding ha hmem).imp_right hlater.lost
      · exact .inr (hlater.lost hlost)
    · have hrefresh := h.new_refresh here hnew hwork
      rw [hrefresh.outstanding, hrefresh.number_eq]
      exact .inl (List.mem_append_right _
        (List.mem_of_getElem? (nextAskers_getElem? hrefresh.provider_lt)))

theorem Sound.ofProviders (providers : List (Provider σ)) (limit : Option Int) :
    (Panel.ofProviders providers limit).Sound := by
  constructor <;> intro _ _ _ <;> simp_all [Panel.ofProviders]

theorem Sound.ready (sound : p.Sound) (ready : List Reaction) : Sound { p with ready } :=
  ⟨sound.asked, sound.query, sound.refresh, sound.tracked⟩

variable (library) in
theorem Sound.course (sound : p.Sound) (moves : List Move) : (p.course library moves).Sound :=
  course_keeps library Sound (fun _ ready h => h.ready ready) (fun hchange h => h.change hchange)
    moves sound

end CiteSync.Completion.Panel
