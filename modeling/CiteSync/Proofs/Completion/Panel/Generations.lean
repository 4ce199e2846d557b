import CiteSync.Proofs.Completion.Panel.Queries

/-!
# Generations

A query is started as the next generation of the panel, and that is what it is shown as.  So no two
queries are of the same generation, and one that is started later is of a later generation.
-/

namespace CiteSync.Completion

open Remote

/-- The generation of a query that waits for its providers. -/
def Stage.generation? : Stage → Option Nat
  | waiting (.asking generation _) _ => some generation
  | _ => none

theorem Query.receive_generation (s : Query) (generation provider : Nat) (found : List Candidate) :
    (s.receive generation provider found).generation = s.generation := by
  unfold Query.receive
  split <;> rfl

theorem Stage.generation?_mapGathered (stage : Stage) (change : Gathering → Gathering) :
    (stage.mapGathered change).generation? = stage.generation? := by
  cases stage with
  | fresh => rfl
  | ended ending => rfl
  | waiting pause told => cases pause <;> rfl

namespace Panel

variable {σ : Type} {library : RemoteLibrary σ} {actor : Actor} {p p' : Panel σ}
  {number : Nat} {a a' : Activity} {query generation : Nat} {token : String}
  {document : Document}

/-- The generation of the query that an activity waits to show. -/
def askedAs? (p : Panel σ) (number : Nat) : Option Nat :=
  (p.activities[number]?).bind fun a => a.stage.generation?

/-- The generation that a query was started as, if it is shown or waits for its providers. -/
def generationOf? (p : Panel σ) (query : Nat) : Option Nat :=
  (p.queries[query]?).bind fun q =>
    match q.shown with
    | some shown => some shown.generation
    | none => p.askedAs? q.activity

/-! ## 1. One query -/

theorem generationOf?_of_shown {shown : Query} (h : p.shown? query = some shown) :
    p.generationOf? query = some shown.generation := by
  unfold shown? at h
  obtain ⟨q, hq, hshown⟩ := Option.bind_eq_some_iff.1 h
  rw [generationOf?, hq, Option.bind_some, hshown]

/-- Where a query is untouched, and its activity is of no new generation, it is of no new one. -/
theorem generationOf?_of_same (h : p'.generationOf? query = some generation)
    (hq : p'.queries[query]? = p.queries[query]?)
    (hasked : ∀ q, p.queries[query]? = some q →
      p'.askedAs? q.activity = some generation → p.askedAs? q.activity = some generation) :
    p.generationOf? query = some generation := by
  unfold generationOf? at h ⊢
  rw [hq] at h
  cases hp : p.queries[query]? with
  | none =>
    rw [hp] at h
    cases h
  | some q =>
    rw [hp, Option.bind_some] at h
    rw [Option.bind_some]
    cases hshown : q.shown with
    | some shown =>
      rw [hshown] at h
      exact h
    | none =>
      rw [hshown] at h
      exact hasked q hp h

/-- No step of an activity that makes a query starts it. -/
theorem Develops.generation? {reactions : List Reaction}
    (h : p.Develops actor number a reactions a') (work : a.work = .query query token document)
    (hg : a'.stage.generation? = some generation) : a.stage.generation? = some generation := by
  cases h with
  | promise reaction => exact hg
  | askCancel => exact hg
  | pause fresh wanted hwork => exact absurd work (hwork _ _ _)
  | again load =>
    rw [work] at load
    cases load
  | tell waits single =>
    rw [waits]
    cases hpause : ‹Pause› <;> rw [hpause] at hg <;> exact hg
  | abandon => rwa [Stage.generation?_mapGathered] at hg
  | count ended rest => rwa [Stage.generation?_mapGathered] at hg
  | last ended waits gathers all =>
    rw [waits]
    cases hpause : ‹Pause› <;> rw [hpause] at hg <;> exact hg
  | fail goesOn => cases hg
  | finish goesOn free => rw [work] at free; cases free

theorem askedAs?_of_set {more : List Activity} {other : Nat}
    (h : p'.askedAs? other = some generation) (ho : number ≠ other)
    (hold : other < p.activities.length)
    (hactivities : p'.activities = p.activities.set number a' ++ more) :
    p.askedAs? other = some generation := by
  unfold askedAs? at h ⊢
  rwa [hactivities, List.getElem?_append_left (by rwa [List.length_set]),
    List.getElem?_set_ne ho] at h

theorem askedAs?_of_append {more : List Activity} {other : Nat}
    (h : p'.askedAs? other = some generation) (hold : other < p.activities.length)
    (hactivities : p'.activities = p.activities ++ more) :
    p.askedAs? other = some generation := by
  unfold askedAs? at h ⊢
  rwa [hactivities, List.getElem?_append_left hold] at h

theorem Sound.activity_lt (sound : p.Sound) {q : Asked} (hq : p.queries[query]? = some q) :
    q.activity < p.activities.length := by
  obtain ⟨a, _, _, ha, -⟩ := sound.asked hq
  exact (List.getElem?_eq_some_iff.1 ha).1

/-- The activity of one query makes no other one. -/
theorem Sound.activity_ne (sound : p.Sound) (here : p.activities[number]? = some a)
    (work : a.work = .query query token document) {other : Nat} (ho : other ≠ query) {q : Asked}
    (hq : p.queries[other]? = some q) : number ≠ q.activity := by
  obtain ⟨b, _, _, hb, hwork, -⟩ := sound.asked hq
  rintro rfl
  obtain rfl := Option.some.inj (here.symm.trans hb)
  rw [work] at hwork
  cases hwork
  exact ho rfl

/-! ## 2. What a change does to generations -/

/-- At most one query starts, and takes the next generation. -/
def StartsOne (p p' : Panel σ) : Prop :=
  ∃ started, p'.generation = p.generation + 1 ∧
    ∀ query generation, p'.generationOf? query = some generation →
      p.generationOf? query = some generation ∨
        (query = started ∧ generation = p.generation + 1)

/-- No query starts. -/
def StartsNone (p p' : Panel σ) : Prop :=
  p'.generation = p.generation ∧
    ∀ query generation, p'.generationOf? query = some generation →
      p.generationOf? query = some generation

theorem generationOf?_of_other {more : List Activity} {started : Nat}
    (h : p'.generationOf? query = some generation) (sound : p.Sound)
    (here : p.activities[number]? = some a) (work : a.work = .query started token document)
    (ho : started ≠ query) (hq : p'.queries[query]? = p.queries[query]?)
    (hactivities : p'.activities = p.activities.set number a' ++ more) :
    p.generationOf? query = some generation := by
  refine generationOf?_of_same h hq fun q hq h => ?_
  exact askedAs?_of_set h (sound.activity_ne here work ho.symm hq) (sound.activity_lt hq)
    hactivities

theorem generationOf?_of_shows {shown : Query} {refreshes : List Nat}
    (h : p'.generationOf? query = some generation)
    (hqueries : p'.queries =
      p.queries.modify query fun q => { q with shown := some shown, refreshes }) :
    generation = shown.generation := by
  unfold generationOf? at h
  rw [hqueries, List.getElem?_modify_eq] at h
  cases hq : p.queries[query]? with
  | none =>
    rw [hq] at h
    cases h
  | some q =>
    rw [hq] at h
    exact (Option.some.inj h).symm

/-- A query that is not over is of the generation that its activity waits to show. -/
theorem Sound.generationOf? (sound : p.Sound) (here : p.activities[number]? = some a)
    (work : a.work = .query query token document) (goesOn : a.stage.ending? = none) :
    p.generationOf? query = a.stage.generation? := by
  obtain ⟨q, hq, rfl, hnone⟩ := sound.not_shown here work goesOn
  rw [Panel.generationOf?, hq, Option.bind_some, hnone]
  show p.askedAs? q.activity = _
  rw [askedAs?, here, Option.bind_some]

theorem receive_generationOf? (other provider : Nat) (found : List Candidate) :
    (p.receive other provider found).generationOf? query = p.generationOf? query := by
  unfold Panel.generationOf? receive
  by_cases ho : other = query
  · subst ho
    rw [List.getElem?_modify_eq]
    cases p.queries[other]? with
    | none => rfl
    | some q =>
      cases hshown : q.shown with
      | none => simp [hshown, askedAs?]
      | some s => simp [hshown, Query.receive_generation]
  · rw [List.getElem?_modify_ne _ _ ho]
    rfl

theorem Change.starts (h : Change actor p p') (sound : p.Sound) :
    StartsNone p p' ∨ StartsOne p p' := by
  have sound' := sound.change h
  cases h with
  | aside queries activities generation =>
    refine .inl ⟨generation, fun query g hg => ?_⟩
    refine generationOf?_of_same hg (by rw [queries]) fun q hq h => ?_
    exact askedAs?_of_append h (sound.activity_lt hq) (by rw [activities, List.append_nil])
  | note | clear => exact .inl ⟨rfl, fun _ _ h => h⟩
  | @develop _ _ number a a' _ here develops =>
    refine .inl ⟨rfl, fun query g hg => ?_⟩
    refine generationOf?_of_same hg rfl fun q hq h => ?_
    by_cases ho : number = q.activity
    · subst ho
      obtain ⟨b, token, document, hb, hwork, -⟩ := sound.asked hq
      obtain rfl := Option.some.inj (here.symm.trans hb)
      have hnow : (p.activities.set q.activity a')[q.activity]? = some a' := set_here here a'
      unfold askedAs? at h ⊢
      rw [hnow, Option.bind_some] at h
      rw [here, Option.bind_some]
      exact develops.generation? hwork h
    · exact askedAs?_of_set h ho (sound.activity_lt hq) (List.append_nil _).symm
  | begin free =>
    refine .inl ⟨rfl, fun query g hg => ?_⟩
    refine generationOf?_of_same hg rfl fun q hq h => ?_
    exact askedAs?_of_append h (sound.activity_lt hq) rfl
  | ask token document =>
    refine .inl ⟨rfl, fun query g hg => ?_⟩
    by_cases hold : query < p.queries.length
    · refine generationOf?_of_same hg (List.getElem?_append_left hold) fun q hq h => ?_
      exact askedAs?_of_append h (sound.activity_lt hq) rfl
    · -- the query that is asked for has not started
      have hlast : (p.ask token document).askedAs? p.activities.length = none := by
        unfold askedAs? Panel.ask addActivity schedule
        simp only [List.getElem?_concat_length]
        rfl
      obtain ⟨q, hq, hg⟩ := Option.bind_eq_some_iff.1 hg
      obtain ⟨rfl, rfl⟩ := new_of_append_singleton hq (Nat.le_of_not_lt hold)
      exact absurd (hlast.symm.trans hg) (by simp)
  | @warm _ _ number a started token document here fresh work =>
    refine .inr ⟨started, rfl, fun query g hg => ?_⟩
    by_cases hs : started = query
    · subst hs
      exact .inr ⟨rfl, generationOf?_of_shows hg rfl⟩
    · exact .inl (generationOf?_of_other hg sound here work hs (List.getElem?_modify_ne _ _ hs) rfl)
  | @cold _ _ number a started token document here fresh work =>
    refine .inr ⟨started, rfl, fun query g hg => ?_⟩
    by_cases hs : started = query
    · -- its activity waits with the new generation
      subst hs
      have hasking := sound'.generationOf? (set_append_here here _ _) work rfl
      exact .inr ⟨rfl, (Option.some.inj (hasking.symm.trans hg)).symm⟩
    · exact .inl (generationOf?_of_other hg sound here work hs rfl rfl)
  | @alone _ _ number a started token document here fresh work =>
    refine .inr ⟨started, rfl, fun query g hg => ?_⟩
    by_cases hs : started = query
    · subst hs
      exact .inr ⟨rfl, generationOf?_of_shows hg rfl⟩
    · exact .inl (generationOf?_of_other hg sound here work hs (List.getElem?_modify_ne _ _ hs)
        (List.append_nil _).symm)
  | @answered _ _ number a started token document generation gathering found here told work =>
    refine .inl ⟨rfl, fun query g hg => ?_⟩
    by_cases hs : started = query
    · -- it is shown as of the generation that it has waited with
      subst hs
      rw [generationOf?_of_shows hg rfl, sound.generationOf? here work (by rw [told]; rfl), told]
      rfl
    · exact generationOf?_of_other hg sound here work hs (List.getElem?_modify_ne _ _ hs)
        (List.append_nil _).symm
  | @deliver _ number a other provider document found here runs work =>
    refine .inl ⟨rfl, fun query g hg => ?_⟩
    have hsame : (p.receive other provider found).generationOf? query = some g := by
      refine generationOf?_of_same hg rfl fun q hq h => ?_
      by_cases ho : number = q.activity
      · -- the activity that hands something on is not that of a query that waits
        subst ho
        unfold askedAs? at h
        rw [set_here here] at h
        cases h
      · simp only [askedAs?, List.getElem?_set_ne ho] at h
        exact h
    rwa [receive_generationOf?] at hsame

/-! ## 3. At any time -/

/-- Every query is of a generation that was taken, and no other query is. -/
structure Numbered (p : Panel σ) : Prop where
  sound : p.Sound
  le : ∀ {query generation : Nat}, p.generationOf? query = some generation →
    generation ≤ p.generation
  eq : ∀ {query other generation : Nat}, p.generationOf? query = some generation →
    p.generationOf? other = some generation → query = other

theorem Numbered.change (h : p.Numbered) (hchange : Change actor p p') : p'.Numbered := by
  refine ⟨h.sound.change hchange, ?_, ?_⟩
  · intro query generation hg
    rcases hchange.starts h.sound with ⟨hsame, hnone⟩ | ⟨started, hnext, hone⟩
    · rw [hsame]
      exact h.le (hnone _ _ hg)
    · rw [hnext]
      rcases hone _ _ hg with hold | ⟨-, rfl⟩
      · exact Nat.le_succ_of_le (h.le hold)
      · exact Nat.le_refl _
  · intro query other generation hg hg'
    rcases hchange.starts h.sound with ⟨-, hnone⟩ | ⟨started, -, hone⟩
    · exact h.eq (hnone _ _ hg) (hnone _ _ hg')
    · -- a generation that is taken now is of no query that was started before
      rcases hone _ _ hg with hold | ⟨rfl, rfl⟩ <;> rcases hone _ _ hg' with hold' | ⟨rfl, hnew⟩
      · exact h.eq hold hold'
      · have hle := h.le hold
        omega
      · have hle := h.le hold'
        omega
      · rfl

theorem Numbered.ofProviders (providers : List (Provider σ)) (limit : Option Int) :
    (Panel.ofProviders providers limit).Numbered := by
  refine ⟨.ofProviders providers limit, ?_, ?_⟩
  · intro query generation h
    cases h
  · intro query other generation h
    cases h

theorem Numbered.ready (h : p.Numbered) (ready : List Reaction) : Numbered { p with ready } :=
  ⟨h.sound.ready ready, h.le, h.eq⟩

variable (library) in
theorem Numbered.course (h : p.Numbered) (moves : List Move) :
    (p.course library moves).Numbered :=
  course_keeps library Numbered (fun _ ready h => h.ready ready)
    (fun hchange h => h.change hchange) moves h

/-- What a panel has come to, as far as generations are concerned: none was taken back, and those
that were taken since are later than all before. -/
structure Onward (p p' : Panel σ) : Prop where
  numbered : p'.Numbered
  le : p.generation ≤ p'.generation
  later : ∀ {query generation : Nat}, p'.generationOf? query = some generation →
    p.generationOf? query = some generation ∨ p.generation < generation

theorem Onward.change {p₀ : Panel σ} (h : Onward p₀ p) (hchange : Change actor p p') :
    Onward p₀ p' := by
  refine ⟨h.numbered.change hchange, ?_, ?_⟩
  · rcases hchange.starts h.numbered.sound with ⟨hsame, -⟩ | ⟨started, hnext, -⟩
    · exact hsame ▸ h.le
    · exact hnext ▸ Nat.le_succ_of_le h.le
  · intro query generation hg
    rcases hchange.starts h.numbered.sound with ⟨-, hnone⟩ | ⟨started, -, hone⟩
    · exact h.later (hnone _ _ hg)
    · rcases hone _ _ hg with hold | ⟨-, rfl⟩
      · exact h.later hold
      · exact .inr (Nat.lt_succ_of_le h.le)

variable (library) in
theorem Numbered.onward (h : p.Numbered) (moves : List Move) :
    Onward p (p.course library moves) :=
  course_keeps library (Onward p) (fun _ ready h => ⟨h.numbered.ready ready, h.le, h.later⟩)
    (fun hchange h => h.change hchange) moves ⟨h, Nat.le_refl _, .inl⟩

end Panel

end CiteSync.Completion
