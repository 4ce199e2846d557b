import CiteSync.Proofs.Completion.Panel.Answers

/-!
# That queries end

A query that waits for its providers counts their ends.  As long as one of them was not counted, it
goes on and will be counted when it ends, or it has ended and its count is ready to happen.  So a
query that nobody cancels is shown once they all have ended and nothing is left to happen.
-/

namespace CiteSync.Completion

/-- Whether a move cancels anything. -/
def Move.cancels : Move → Bool
  | cancel _ => true
  | close => true
  | _ => false

namespace Panel

open Remote

variable {σ : Type} {library : RemoteLibrary σ} {actor : Actor} {p p' : Panel σ}
  {number : Nat} {a a' : Activity} {query : Nat} {token : String} {document : Document}
  {reaction : Reaction} {rest : List Reaction} {others : List Nat}

theorem mover_ne_canceller {m : Move} (h : m.cancels = false) : p.mover m ≠ .canceller := by
  cases m with
  | cancel | close => cases h
  | happen =>
    show p.actor ≠ .canceller
    unfold actor
    cases p.ready with
    | nil => intro heq; cases heq
    | cons reaction rest => cases reaction <;> intro heq <;> cases heq
  | _ => intro heq; cases heq

/-! ## 1. What is to happen at an end -/

/-- Whether something happens when an activity ends, or is ready to happen as it has ended. -/
def Promised (p : Panel σ) (number : Nat) (reaction : Reaction) : Prop :=
  ∃ a, p.activities[number]? = some a ∧
    (a.stage.ending? = none ∧ reaction ∈ a.reactions ∨
      a.stage.ending?.isSome ∧ reaction ∈ p.ready)

theorem Change.ready (h : Change actor p p') : p.ready ⊆ p'.ready := by
  cases h with
  | aside _ _ _ _ ready => exact ready
  | develop | begin | ask | cold | alone | answered | deliver =>
    exact List.subset_append_left _ _
  | warm => exact fun _ h => List.mem_append_left _ (List.mem_append_left _ h)
  | note | clear => exact List.Subset.refl _

/-- An activity that goes on keeps what is to happen at its end, and one that ends lets it
happen. -/
theorem Develops.reactions {reactions : List Reaction}
    (h : p.Develops actor number a reactions a') (goesOn : a.stage.ending? = none) :
    a'.stage.ending? = none ∧ a.reactions ⊆ a'.reactions ∨
      a'.stage.ending?.isSome ∧ reactions = a.reactions := by
  cases h with
  | promise => exact .inl ⟨goesOn, List.subset_append_left _ _⟩
  | askCancel => exact .inl ⟨goesOn, List.Subset.refl _⟩
  | pause | again | tell | last => exact .inl ⟨rfl, List.Subset.refl _⟩
  | abandon | count =>
    exact .inl ⟨(Stage.ending?_mapGathered _ _).trans goesOn, List.Subset.refl _⟩
  | fail | finish => exact .inr ⟨rfl, rfl⟩

theorem Promised.change (h : p.Promised number reaction) (hchange : Change actor p p') :
    p'.Promised number reaction := by
  obtain ⟨a, here, ⟨goesOn, hmem⟩ | ⟨ended, hmem⟩⟩ := h
  · -- an activity that ends leaves what was promised ready to happen
    rcases hchange.activity here with hsame | ⟨_, a', hdevelops, here', hready⟩ |
      ⟨_, _, _, hshows⟩ | ⟨-, -, hasks⟩ | ⟨_, _, _, hdelivers⟩
    · exact ⟨a, hsame, .inl ⟨goesOn, hmem⟩⟩
    · rcases hdevelops.reactions goesOn with ⟨goesOn', hsubset⟩ | ⟨ended', rfl⟩
      · exact ⟨a', here', .inl ⟨goesOn', hsubset hmem⟩⟩
      · exact ⟨a', here', .inr ⟨ended', hready hmem⟩⟩
    · obtain ⟨a', here', ended'⟩ := hshows.ended
      exact ⟨a', here', .inr ⟨by rw [ended']; rfl, hshows.ready hmem⟩⟩
    · exact ⟨_, hasks, .inl ⟨rfl, hmem⟩⟩
    · obtain ⟨a', here', ended'⟩ := hdelivers.ended
      exact ⟨a', here', .inr ⟨by rw [ended']; rfl, hdelivers.ready hmem⟩⟩
  · obtain ⟨ending, hending⟩ : ∃ ending, a.stage = .ended ending :=
      ended_of_ending? (by rwa [activityEnding?, here, Option.bind_some]) here
    obtain ⟨a', here', hlater⟩ := hchange.later here
    have ended' := hlater.ended ending hending
    exact ⟨a', here', .inr ⟨by rw [ended']; rfl, hchange.ready hmem⟩⟩

theorem Promised.changes (h : p.Promised number reaction) (hchanges : Changes actor p p') :
    p'.Promised number reaction :=
  hchanges.keeps (fun hchange (h : Promised _ number reaction) => h.change hchange) h

theorem Promised.taken {other : Reaction} (h : p.Promised number reaction)
    (hready : p.ready = other :: rest) (hne : reaction ≠ other) :
    ({ p with ready := rest } : Panel σ).Promised number reaction := by
  obtain ⟨a, here, hgoesOn | ⟨ended, hmem⟩⟩ := h
  · exact ⟨a, here, .inl hgoesOn⟩
  · rw [hready] at hmem
    exact ⟨a, here, .inr ⟨ended, (List.mem_cons.1 hmem).resolve_left hne⟩⟩

/-! ## 2. A query that is going to end -/

/-- How far a query has come that nobody has cancelled since it asked others. -/
inductive Driven (p : Panel σ) (number : Nat) (others : List Nat) : Stage → Prop
  /-- Some were not counted, but they will be. -/
  | waits {generation : Nat} {g : Gathering} (wanted : g.cancelled = false) (rest : g.left ≠ [])
    (among : g.left ⊆ others) (promised : ∀ m ∈ g.left, p.Promised m (.count number m)) :
    Driven p number others (.waiting (.asking generation g) none)
  /-- All were counted, and it is about to go on. -/
  | told {generation : Nat} {g : Gathering} {found : Option (List Candidate)}
    (ready : .goOn number ∈ p.ready) :
    Driven p number others (.waiting (.asking generation g) (some (.ok found)))
  | ended (found : Option (List Candidate)) : Driven p number others (.ended (.ok found))

/-- A query that ends when all have ended that it has asked. -/
structure Driving (p : Panel σ) (number : Nat) (others : List Nat) (a : Activity) : Prop where
  here : p.activities[number]? = some a
  work : ∃ query token document, a.work = .query query token document
  wanted : a.stage.ending? = none → a.cancelAsked = false
  driven : p.Driven number others a.stage

/-- Whether a query of that number ends when all have ended that it has asked. -/
def Drives (p : Panel σ) (number : Nat) (others : List Nat) : Prop :=
  ∃ a, p.Driving number others a

theorem Driven.change {stage : Stage} (h : p.Driven number others stage)
    (hchange : Change actor p p') : p'.Driven number others stage := by
  cases h with
  | waits wanted rest among promised =>
    exact .waits wanted rest among fun m hm => (promised m hm).change hchange
  | told ready => exact .told (hchange.ready ready)
  | ended found => exact .ended found

/-- A step of a query that is not cancelled. -/
theorem Driving.develops {reactions : List Reaction} (h : p.Driving number others a)
    (hdevelops : p.Develops actor number a reactions a') (hne : actor ≠ .canceller)
    (hready : reactions ⊆ p'.ready) (hchange : Change actor p p') :
    a'.work = a.work ∧ (a'.stage.ending? = none → a'.cancelAsked = false) ∧
      p'.Driven number others a'.stage := by
  obtain ⟨_, _, _, hwork⟩ := h.work
  have hdriven := h.driven
  cases hdevelops with
  | promise => exact ⟨rfl, h.wanted, hdriven.change hchange⟩
  | askCancel cancels => exact absurd cancels hne
  | abandon cancels => exact absurd cancels hne
  | pause fresh =>
    rw [fresh] at hdriven
    cases hdriven
  | again load =>
    rw [hwork] at load
    cases load
  | tell waits single =>
    rw [waits] at hdriven
    rcases single with hnone | ⟨cancels, -⟩
    · cases hdriven
      cases hnone
    · exact absurd cancels hne
  | count ended rest =>
    refine ⟨rfl, fun goesOn => h.wanted (by rwa [Stage.ending?_mapGathered] at goesOn), ?_⟩
    have hrest := rest
    generalize a.stage = stage at hdriven hrest
    cases hdriven with
    | waits wanted _ among promised =>
      refine .waits wanted (hrest _ _ rfl rfl) (fun m hm => among (List.mem_filter.1 hm).1) ?_
      exact fun m hm => (promised m (List.mem_filter.1 hm).1).change hchange
    | told ready => exact .told (hchange.ready ready)
    | ended found => exact .ended found
  | last ended waits gathers all =>
    refine ⟨rfl, fun _ => h.wanted (by rw [waits]; rfl), ?_⟩
    rw [waits] at hdriven
    cases hdriven with
    | waits wanted =>
      obtain rfl := Option.some.inj gathers
      rw [Gathering.ending, wanted]
      exact .told (hready (List.mem_singleton_self _))
  | fail goesOn lost =>
    -- a query that nobody cancels is not lost
    rcases lost with hprovider | hended | hcancel | ⟨pause, failure, htold⟩
    · rw [hwork] at hprovider
      cases hprovider
    · rw [goesOn] at hended
      cases hended
    · rw [h.wanted goesOn] at hcancel
      cases hcancel
    · rw [htold] at hdriven
      cases hdriven
  | finish goesOn free =>
    rw [hwork] at free
    cases free

theorem Drives.change (h : p.Drives number others) (hchange : Change actor p p')
    (hne : actor ≠ .canceller) : p'.Drives number others := by
  obtain ⟨a, hdriving⟩ := h
  have hdriven := hdriving.driven
  rcases hchange.activity hdriving.here with hsame | ⟨_, a', hdevelops, here', hready⟩ |
    ⟨_, _, _, hshows⟩ | ⟨hfresh, -⟩ | ⟨_, _, _, hdelivers⟩
  · exact ⟨a, hsame, hdriving.work, hdriving.wanted, hdriven.change hchange⟩
  · obtain ⟨hwork, hwanted, hdriven'⟩ := hdriving.develops hdevelops hne hready hchange
    exact ⟨a', here', by rw [hwork]; exact hdriving.work, hwanted, hdriven'⟩
  · obtain ⟨a', here', hended⟩ := hshows.ended
    obtain ⟨b, hb, hlater⟩ := hchange.later hdriving.here
    obtain rfl := Option.some.inj (here'.symm.trans hb)
    refine ⟨a', here', by rw [hlater.work]; exact hdriving.work, fun goesOn => ?_, ?_⟩
    · rw [hended] at goesOn
      cases goesOn
    · rw [hended]
      exact .ended none
  · rw [hfresh] at hdriven
    cases hdriven
  · obtain ⟨_, hrefresh⟩ := hdelivers.work
    obtain ⟨_, _, _, hwork⟩ := hdriving.work
    cases hwork.symm.trans hrefresh

/-! ## 3. What happens by itself -/

theorem Drives.changes (h : p.Drives number others) (hchanges : Changes actor p p')
    (hne : actor ≠ .canceller) : p'.Drives number others :=
  hchanges.keeps (fun hchange (h : Drives _ number others) => h.change hchange hne) h

/-- A query that was told of the last end shows what it has and ends. -/
theorem goOn_of_told {generation : Nat} {g : Gathering} {found : Option (List Candidate)}
    (here : p.activities[number]? = some a) (work : a.work = .query query token document)
    (wanted : a.cancelAsked = false)
    (told : a.stage = .waiting (.asking generation g) (some (.ok found))) :
    (p.goOn library number).activities[number]? = some { a with stage := .ended .done } := by
  have hnow : p.goOn library number =
      p.finishQuery number query token generation g.activities := by
    obtain ⟨work', stage', cancelAsked', reactions'⟩ := a
    obtain rfl : work' = _ := work
    obtain rfl : stage' = _ := told
    obtain rfl : cancelAsked' = _ := wanted
    unfold goOn
    simp only [here, Bool.false_eq_true, if_false]
    rfl
  let shown := Query.cold token generation (g.activities.filterMap p.broughtBack?)
  rw [hnow]
  show ((setQuery query shown [] (p.report _)).endActivity number .done).activities[number]? = _
  rw [endActivity_of_goesOn (p := setQuery query shown [] (p.report _)) here (by rw [told]; rfl)]
  exact set_here here _

/-- When one is counted the others are still to be counted, or the query is told. -/
theorem drives_count {generation : Nat} {g : Gathering} {m : Nat}
    (here : p.activities[number]? = some a) (work : a.work = .query query token document)
    (wanted : a.cancelAsked = false) (waits : a.stage = .waiting (.asking generation g) none)
    (goesOn : g.cancelled = false) (some : g.left ≠ []) (among : g.left ⊆ others)
    (promised : ∀ n ∈ g.left,
      p.Promised n (.count number n) ∨ n = m ∧ (p.activityEnding? m).isSome) :
    (p.count number m).Drives number others := by
  by_cases ended : (p.activityEnding? m).isSome
  · by_cases all : (g.count m).left = []
    · -- the last one: the query is told
      rw [count_of_last ended here waits rfl all]
      refine ⟨_, set_here here _, ⟨_, _, _, work⟩, fun _ => wanted, ?_⟩
      rw [Gathering.ending, goesOn]
      exact .told (List.mem_append_right _ (List.mem_singleton_self _))
    · have hrest : p.count number m = p.setGathering number (.count m) :=
        count_of_rest ended here fun pause g' hwaits hg => by
          obtain ⟨rfl, -⟩ := Stage.waiting.inj (waits.symm.trans hwaits)
          obtain rfl := Option.some.inj hg
          exact all
      refine ⟨{ a with stage := .waiting (.asking generation (g.count m)) none }, ?_,
        ⟨_, _, _, work⟩, fun _ => wanted,
        .waits goesOn all (fun n hn => among (List.mem_filter.1 hn).1) fun n hn => ?_⟩
      · rw [hrest, setGathering, setActivity_of_some here, waits]
        exact set_here here _
      · obtain ⟨hmem, hne⟩ := List.mem_filter.1 hn
        have hother : ¬(n = m ∧ (p.activityEnding? m).isSome) := fun h => by simp [h.1] at hne
        have hcounts : Changes .other p (p.count number m) := count_changes
        exact ((promised n hmem).resolve_right hother).changes hcounts
  · have hsame : p.count number m = p := by
      unfold count
      rw [if_neg ended]
    rw [hsame]
    refine ⟨a, here, ⟨_, _, _, work⟩, fun _ => wanted, ?_⟩
    rw [waits]
    exact .waits goesOn some among fun n hn => (promised n hn).resolve_right fun h => ended h.2

theorem Drives.happen (h : p.Drives number others) : (p.happen library).Drives number others := by
  cases hready : p.ready with
  | nil => rwa [happen_of_nil hready]
  | cons reaction rest =>
    rw [happen_of_cons hready]
    obtain ⟨a, here, ⟨query, token, document, work⟩, wanted, hdriven⟩ := h
    -- what happens may be what the query waits for
    have hafter : ({ p with ready := rest } : Panel σ).Driven number others a.stage →
        (({ p with ready := rest } : Panel σ).react library reaction).Drives number others := by
      intro hdriven'
      have hdrives : ({ p with ready := rest } : Panel σ).Drives number others :=
        ⟨a, here, ⟨_, _, _, work⟩, wanted, hdriven'⟩
      refine hdrives.changes (react_changes reaction) ?_
      cases reaction <;> intro heq <;> cases heq
    generalize hstage : a.stage = stage at hdriven hafter wanted
    cases hdriven with
    | waits goesOn some among promised =>
      by_cases hcount : ∃ m, reaction = .count number m
      · -- one of those that it waits for is counted
        obtain ⟨m, rfl⟩ := hcount
        refine drives_count here work (wanted rfl) hstage goesOn some among fun n hn => ?_
        by_cases hn' : n = m
        · subst hn'
          obtain ⟨b, hb, hgoes | ⟨ended, -⟩⟩ := promised n hn
          · exact .inl ⟨b, hb, .inl hgoes⟩
          · refine .inr ⟨rfl, ?_⟩
            show ((p.activities[n]?).bind _).isSome
            rwa [hb]
        · refine .inl ((promised n hn).taken hready fun heq => hn' ?_)
          exact (Reaction.count.inj heq).2
      · exact hafter (.waits goesOn some among fun m hm =>
          (promised m hm).taken hready fun heq => hcount ⟨m, heq.symm⟩)
    | told hgo =>
      by_cases hnow : reaction = .goOn number
      · subst hnow
        exact ⟨_, goOn_of_told here work (wanted rfl) hstage, ⟨_, _, _, work⟩, (fun h => nomatch h),
          .ended none⟩
      · rw [hready] at hgo
        exact hafter (.told ((List.mem_cons.1 hgo).resolve_left (Ne.symm hnow)))
    | ended found => exact hafter (.ended found)

/-! ## 4. Whatever is done -/

theorem Drives.move (h : p.Drives number others) {m : Move} (hm : m.cancels = false) :
    (p.move library m).Drives number others := by
  cases m with
  | happen => exact h.happen
  | _ => exact h.changes (move_changes _) (mover_ne_canceller hm)

variable (library) in
theorem Drives.course (h : p.Drives number others) (moves : List Move)
    (hmoves : ∀ m ∈ moves, m.cancels = false) : (p.course library moves).Drives number others := by
  induction moves generalizing p with
  | nil => exact h
  | cons m moves ih =>
    exact ih (h.move (hmoves m (List.mem_cons_self ..))) fun n hn =>
      hmoves n (List.mem_cons_of_mem _ hn)

/-- When all have ended and nothing is left to happen, the query has ended. -/
theorem Drives.ends (h : p.Drives number others) (hready : p.ready = [])
    (hothers : ∀ other ∈ others, (p.activityEnding? other).isSome) :
    ∃ a found, p.activities[number]? = some a ∧ a.stage = .ended (.ok found) := by
  obtain ⟨a, here, -, -, hdriven⟩ := h
  generalize hstage : a.stage = stage at hdriven
  cases hdriven with
  | waits goesOn some among promised =>
    -- one that was not counted has ended, so its count would be ready to happen
    obtain ⟨m, hm⟩ := List.exists_mem_of_ne_nil _ some
    obtain ⟨b, hb, ⟨hgoesOn, -⟩ | ⟨-, hmem⟩⟩ := promised m hm
    · obtain ⟨ending, hending⟩ := ended_of_ending? (hothers m (among hm)) hb
      rw [hending] at hgoesOn
      cases hgoesOn
    · rw [hready] at hmem
      cases hmem
  | told hgo =>
    rw [hready] at hgo
    cases hgo
  | ended found => exact ⟨a, found, here, hstage⟩

theorem Answering.shown (h : Answering number others query p) (drives : p.Drives number others)
    (hready : p.ready = []) (hothers : ∀ other ∈ others, (p.activityEnding? other).isSome) :
    ∃ s, p.shown? query = some s := by
  obtain ⟨q, hq, rfl, ⟨-, b, hb, hstage⟩ | ⟨s, hs, -⟩⟩ := h.query
  · obtain ⟨a, found, here, hended⟩ := drives.ends hready hothers
    obtain rfl := Option.some.inj (hb.symm.trans here)
    rw [hended] at hstage
    rcases hstage with ⟨_, _, _, hwaits, -⟩ | ⟨failure, hfailed⟩
    · cases hwaits
    · cases hfailed
  · exact ⟨s, by rw [shown?_of_queries hq, hs]⟩

variable (library) in
theorem drives_start (hready : p.ready = .start number :: rest)
    (here : p.activities[number]? = some a) (work : a.work = .query query token document)
    (fresh : a.stage = .fresh) (wanted : a.cancelAsked = false)
    (empty : p.current.all Option.isNone = true) :
    (p.happen library).Drives number p.nextAskers := by
  rw [happen_of_start library hready here work fresh wanted]
  by_cases hnone : p.providers = []
  · rw [startQuery_of_no_provider (p := { p with ready := rest }) here fresh hnone]
    exact ⟨_, set_here here _, ⟨_, _, _, work⟩, (fun h => nomatch h), .ended none⟩
  · rw [startQuery_of_empty (p := { p with ready := rest }) here empty hnone]
    refine ⟨_, set_append_here here _ _, ⟨_, _, _, work⟩, fun _ => wanted,
      .waits rfl (fun h => hnone (nextAskers_isEmpty.1 (List.isEmpty_iff.2 h)))
        (List.Subset.refl _) fun m hm => ?_⟩
    obtain ⟨i, hi, rfl⟩ := exists_of_mem_range' hm
    exact ⟨_, asker_here _ _ _ hi, .inl ⟨rfl, List.mem_singleton_self _⟩⟩

end Panel

end CiteSync.Completion
