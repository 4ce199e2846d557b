import CiteSync.Proofs.Completion.Panel.Generations
import CiteSync.Remote.Script

/-!
# Superseded queries

What is shown for a query changes only when one of its own refreshes hands something on while no
newer query was started and the panel was not closed.  The two guards work differently: a refresh of
an older query is not taken in, and one that was cancelled has nothing to hand on.
-/

namespace CiteSync.Completion

open Remote

namespace Query

/-- What was started as one thing stays that, however current its list is. -/
structure Same (s s' : Query) : Prop where
  token : s'.token = s.token
  generation : s'.generation = s.generation
  items : s'.items = s.items

theorem Same.refl (s : Query) : Same s s := ⟨rfl, rfl, rfl⟩

theorem Same.receive {s s' : Query} (h : Same s s') (generation provider : Nat)
    (found : List Candidate) : Query.Same s (s'.receive generation provider found) := by
  unfold Query.receive
  split
  · exact ⟨h.token, h.generation, h.items⟩
  · exact h

theorem receive_of_ne {s : Query} {generation : Nat} (h : s.generation ≠ generation)
    (provider : Nat) (found : List Candidate) : s.receive generation provider found = s := by
  unfold Query.receive Query.isCurrent
  rw [if_neg (by simpa using h)]

end Query

namespace Panel

variable {σ : Type} {library : RemoteLibrary σ} {actor : Actor} {p p' : Panel σ}
  {number : Nat} {a a' : Activity} {query : Nat} {s : Query}

/-! ## 1. What a change does to what is shown -/

theorem exists_of_shown (h : p.shown? query = some s) :
    ∃ q, p.queries[query]? = some q ∧ q.shown = some s :=
  Option.bind_eq_some_iff.1 h

theorem shown?_of_queries {q : Asked} (h : p.queries[query]? = some q) :
    p.shown? query = q.shown := by
  rw [shown?, h, Option.bind_some]

/-- What is shown for a query stays, or one of its refreshes hands something on. -/
theorem Change.shown? (h : Change actor p p') (sound : p.Sound)
    (hs : p.shown? query = some s) :
    p'.shown? query = some s ∨ ∃ number a provider found, actor = .activity number ∧
      Delivers p p' number a query provider found ∧
      p'.shown? query = some (s.receive p.generation provider found) := by
  obtain ⟨q, hq, hshown⟩ := exists_of_shown hs
  rcases h.asked sound hq with hsame | ⟨_, _, _, hnone, -⟩ |
    ⟨number, a, provider, found, hactor, hdelivers, hsame⟩
  · exact .inl (by rw [shown?_of_queries hsame, hshown])
  · rw [hnone] at hshown
    cases hshown
  · refine .inr ⟨number, a, provider, found, hactor, hdelivers, ?_⟩
    rw [shown?_of_queries hsame, hshown]
    rfl

theorem Sound.shown_stays (sound : p.Sound) (hs : p.shown? query = some s)
    (moves : List Move) :
    ∃ s', (p.course library moves).shown? query = some s' ∧ Query.Same s s' := by
  have hkeeps := course_keeps library
    (fun p => p.Sound ∧ ∃ s', p.shown? query = some s' ∧ Query.Same s s')
    (fun _ ready h => ⟨h.1.ready ready, h.2⟩)
    (fun hchange ⟨sound, s', hs, hsame⟩ => ⟨sound.change hchange, by
      rcases hchange.shown? sound hs with hstays | ⟨_, _, provider, found, _, _, htakes⟩
      · exact ⟨s', hstays, hsame⟩
      · exact ⟨_, htakes, hsame.receive _ provider found⟩⟩) moves
    ⟨sound, s, hs, rfl, rfl, rfl⟩
  exact hkeeps.2

/-! ## 2. After a newer query has started -/

theorem Numbered.stale_stays (h : p.Numbered) (hs : p.shown? query = some s)
    (hstale : s.generation ≠ p.generation) (moves : List Move) :
    (p.course library moves).shown? query = some s := by
  have hlt : s.generation < p.generation :=
    Nat.lt_of_le_of_ne (h.le (generationOf?_of_shown hs)) hstale
  have hkeeps := course_keeps library
    (fun p => p.Numbered ∧ p.shown? query = some s ∧ s.generation < p.generation)
    (fun _ ready h => ⟨h.1.ready ready, h.2⟩)
    (fun hchange ⟨numbered, hs, hlt⟩ => ⟨numbered.change hchange, by
      rcases hchange.shown? numbered.sound hs with hstays | ⟨_, _, provider, found, _, _, htakes⟩
      · exact hstays
      · rw [htakes, Query.receive_of_ne (Nat.ne_of_lt hlt)], by
      rcases hchange.starts numbered.sound with ⟨hsame, -⟩ | ⟨_, hnext, -⟩
      · rwa [hsame]
      · omega⟩) moves ⟨h, hs, hlt⟩
  exact hkeeps.2.1

/-! ## 3. After the panel was closed -/

/-- Whether an activity hands nothing on to a query. -/
def Mute (p : Panel σ) (query number : Nat) : Prop :=
  ∀ a provider document, p.activities[number]? = some a →
    a.work = .refresh query provider document → a.Lost

/-- An activity that hands nothing on to a query that is shown never does. -/
theorem Change.mute (h : Change actor p p') (sound : p.Sound) (hs : p.shown? query = some s)
    (hmute : p.Mute query number) : p'.Mute query number := by
  intro a' provider document here hwork
  rcases h.earlier here with ⟨a, ha, hlater⟩ | hnew
  · exact hlater.lost (hmute a provider document ha (hlater.work ▸ hwork))
  · -- only a query that is not shown yet starts refreshes
    have hrefresh := h.new_refresh here hnew hwork
    obtain ⟨starter, b, _, hshows⟩ := hrefresh.shows
    obtain ⟨_, _, hstarter⟩ := hshows.work
    obtain ⟨q, hq, hshown⟩ := exists_of_shown hs
    obtain ⟨q', hq', -, hnone⟩ := sound.not_shown hshows.here hstarter hshows.goesOn
    obtain rfl := Option.some.inj (hq.symm.trans hq')
    rw [hnone] at hshown
    cases hshown

/-- While one that hands nothing on is active, what is shown stays. -/
theorem Change.shown_of_mute (h : Change actor p p') (sound : p.Sound)
    (hs : p.shown? query = some s)
    (hmute : ∀ number, actor = .activity number → p.Mute query number) :
    p'.shown? query = some s := by
  rcases h.shown? sound hs with hstays | ⟨number, a, provider, found, hactor, hdelivers, -⟩
  · exact hstays
  · obtain ⟨document, hwork⟩ := hdelivers.work
    exact absurd (hmute number hactor a provider document hdelivers.here hwork)
      hdelivers.runs.not_lost

/-- Closing leaves no refresh that would hand anything on. -/
theorem Sound.mute_of_no_outstanding (sound : p.Sound) (h : p.outstanding = []) :
    p.Mute query number := by
  intro a provider document here hwork
  refine (sound.tracked here hwork).resolve_left fun hmem => ?_
  rw [h] at hmem
  cases hmem

theorem Sound.mute_stays (sound : p.Sound) (hs : p.shown? query = some s)
    (hmute : ∀ number, p.Mute query number) (moves : List Move) :
    (p.course library moves).shown? query = some s := by
  have hkeeps := course_keeps library
    (fun p => p.Sound ∧ p.shown? query = some s ∧ ∀ number, p.Mute query number)
    (fun _ ready h => ⟨h.1.ready ready, h.2⟩)
    (fun hchange ⟨sound, hs, hmute⟩ => ⟨sound.change hchange,
      hchange.shown_of_mute sound hs fun number _ => hmute number,
      fun number => hchange.mute sound hs (hmute number)⟩) moves ⟨sound, hs, hmute⟩
  exact hkeeps.2.1

/-! ## 4. One move -/

variable (library) in
theorem Sound.move_of_mute (sound : p.Sound) (hs : p.shown? query = some s) {m : Move}
    (hmute : ∀ number, p.mover m = .activity number → p.Mute query number) :
    (p.move library m).shown? query = some s := by
  -- along the changes of one move the same activity is active
  let holds (p' : Panel σ) : Prop :=
    p'.Sound ∧ p'.shown? query = some s ∧
      ∀ number, p.mover m = .activity number → p'.Mute query number
  have htaken : holds (p.taken m) := by
    cases m with
    | happen => exact ⟨sound.ready _, hs, hmute⟩
    | _ => exact ⟨sound, hs, hmute⟩
  have hmoved : holds (p.move library m) :=
    (move_changes m).keeps (fun hchange ⟨sound, hs, hmute⟩ => ⟨sound.change hchange,
      hchange.shown_of_mute sound hs hmute,
      fun number hn => hchange.mute sound hs (hmute number hn)⟩) htaken
  exact hmoved.2.1

/-- What is shown changes only when one of the refreshes of the query starts or goes on. -/
theorem Sound.refresh_of_move (sound : p.Sound) (hs : p.shown? query = some s) {m : Move}
    (h : (p.move library m).shown? query ≠ some s) :
    m = .happen ∧ ∃ number a provider document, p.actor = .activity number ∧
      p.activities[number]? = some a ∧ a.work = .refresh query provider document := by
  by_contra hnone
  refine h (sound.move_of_mute library hs fun number hnumber a provider document here hwork => ?_)
  cases m with
  | happen => exact absurd ⟨rfl, number, a, provider, document, hnumber, here, hwork⟩ hnone
  | _ => cases hnumber

/-! ## 5. The start of a query -/

/-- The query that starts next. -/
def nextQuery? (p : Panel σ) : Option Nat :=
  match p.ready with
  | .start number :: _ =>
    match p.activities[number]? with
    | some { work := .query query _ _, stage := .fresh, cancelAsked := false, .. } => some query
    | _ => none
  | _ => none

theorem exists_of_nextQuery? (h : p.nextQuery? = some query) :
    ∃ number a token document rest, p.ready = .start number :: rest ∧
      p.activities[number]? = some a ∧ a.work = .query query token document ∧
      a.stage = .fresh ∧ a.cancelAsked = false := by
  unfold nextQuery? at h
  split at h
  next number rest hready =>
    split at h
    next q token document reactions here =>
      cases h
      exact ⟨number, _, token, document, rest, hready, here, rfl, rfl, rfl⟩
    next => cases h
  next => cases h

variable (library) in
theorem happen_of_start {token : String} {document : Document} {rest : List Reaction}
    (hready : p.ready = .start number :: rest) (here : p.activities[number]? = some a)
    (work : a.work = .query query token document) (fresh : a.stage = .fresh)
    (wanted : a.cancelAsked = false) :
    p.happen library = { p with ready := rest }.startQuery number query token document := by
  rw [happen_of_cons hready]
  obtain ⟨work', stage', cancelAsked', reactions'⟩ := a
  obtain rfl : work' = _ := work
  obtain rfl : stage' = _ := fresh
  obtain rfl : cancelAsked' = _ := wanted
  show ({ p with ready := rest } : Panel σ).startActivity library number = _
  unfold startActivity
  simp only [here, Bool.false_eq_true, if_false]
  rfl

theorem startQuery_generation {token : String} {document : Document}
    (here : p.activities[number]? = some a) (fresh : a.stage = .fresh) :
    (p.startQuery number query token document).generation = p.generation + 1 := by
  by_cases hnone : p.providers = []
  · rw [startQuery_of_no_provider here fresh hnone]
  · cases hall : p.current.all Option.isNone with
    | true => rw [startQuery_of_empty here hall hnone]
    | false => rw [startQuery_of_loaded here fresh hall]

variable (library) in
theorem happen_generation (h : p.nextQuery? = some query) :
    (p.happen library).generation = p.generation + 1 := by
  obtain ⟨number, a, token, document, rest, hready, here, work, fresh, wanted⟩ :=
    exists_of_nextQuery? h
  rw [happen_of_start library hready here work fresh wanted]
  exact startQuery_generation (p := { p with ready := rest }) here fresh

theorem Sound.shown?_of_start (sound : p.Sound) (hs : p.shown? query = some s) {newer : Nat}
    (h : p.nextQuery? = some newer) : (p.happen library).shown? query = some s := by
  obtain ⟨number, a, token, document, rest, hready, here, work, -⟩ := exists_of_nextQuery? h
  by_contra hchanged
  obtain ⟨-, other, b, _, _, hactor, hother, hwork⟩ :=
    sound.refresh_of_move (m := .happen) hs hchanged
  have hstart : p.actor = .activity number := by
    unfold actor
    rw [hready]
    rfl
  obtain rfl := Actor.activity.inj (hstart.symm.trans hactor)
  obtain rfl := Option.some.inj (here.symm.trans hother)
  cases work.symm.trans hwork

/-! ## 6. Superseded queries -/

/-- What becomes of what is shown for a query of a panel. -/
structure Keeps (library : RemoteLibrary σ) (p : Panel σ) (query : Nat) (s : Query) : Prop where
  /-- Whatever is done, the query is shown with the same items. -/
  items : ∀ after, ∃ s', (p.course library after).shown? query = some s' ∧ Query.Same s s'
  /-- From the moment a newer query starts nothing of it changes. -/
  newer : ∀ other after, p.nextQuery? = some other →
    ((p.happen library).course library after).shown? query = some s
  stale : ∀ after, s.generation ≠ p.generation → (p.course library after).shown? query = some s
  /-- Nor does it once the panel is closed. -/
  closed : ∀ after, (p.close.course library after).shown? query = some s
  /-- Until then it changes only as one of its own refreshes starts or goes on. -/
  own : ∀ m, (p.move library m).shown? query ≠ some s →
    m = .happen ∧ s.generation = p.generation ∧
      ∃ number a provider document, p.actor = .activity number ∧ p.activities[number]? = some a ∧
        a.work = .refresh query provider document
  /-- At most one query is of the generation of the panel, and none is of a later one. -/
  generation_le : s.generation ≤ p.generation
  unique : ∀ other s', p.shown? other = some s' → s'.generation = s.generation → other = query
  /-- Each query that starts is of the next generation. -/
  next : ∀ other, p.nextQuery? = some other → (p.happen library).generation = p.generation + 1
  later : ∀ other after s', p.generationOf? other = none →
    (p.course library after).shown? other = some s' → p.generation < s'.generation

/-- However queries are started, refreshed, cancelled and closed, what is shown for a query is
frozen from the moment a newer one starts or the panel is closed, and before that changes only by
its own refreshes. -/
theorem superseded_queries_are_frozen (library : RemoteLibrary σ) (providers : List (Provider σ))
    (limit : Option Int) (before : List Move)
    (hs : ((ofProviders providers limit).course library before).shown? query = some s) :
    Keeps library ((ofProviders providers limit).course library before) query s := by
  have numbered := (Numbered.ofProviders providers limit).course library before
  generalize (ofProviders providers limit).course library before = p at hs numbered ⊢
  have sound := numbered.sound
  have hle := numbered.le (generationOf?_of_shown hs)
  have hstarted : (p.happen library).Numbered := numbered.course library [.happen]
  have hclosed : p.close.Sound := (numbered.course library [.close]).sound
  constructor
  case items => exact sound.shown_stays hs
  case newer =>
    -- the guard is the generation
    intro other after hnext
    have hgeneration := happen_generation library hnext
    refine hstarted.stale_stays (sound.shown?_of_start hs hnext) ?_ after
    omega
  case stale => exact fun after hstale => numbered.stale_stays hs hstale after
  case closed =>
    -- the guard is that no refresh is left that was not cancelled
    intro after
    have hkept : p.close.shown? query = some s :=
      sound.move_of_mute library (m := .close) hs fun number hn => by cases hn
    exact hclosed.mute_stays hkept (fun number => hclosed.mute_of_no_outstanding rfl) after
  case own =>
    intro m hchanged
    obtain ⟨hhappen, hrefresh⟩ := sound.refresh_of_move hs hchanged
    refine ⟨hhappen, ?_, hrefresh⟩
    by_contra hstale
    exact hchanged (numbered.stale_stays hs hstale [m])
  case generation_le => exact hle
  case unique =>
    intro other s' hs' hsame
    have hother := generationOf?_of_shown hs'
    rw [hsame] at hother
    exact numbered.eq hother (generationOf?_of_shown hs)
  case next => exact fun other hnext => happen_generation library hnext
  case later =>
    intro other after s' hnone hs'
    rcases (numbered.onward library after).later (generationOf?_of_shown hs') with
      hold | hlater
    · rw [hnone] at hold
      cases hold
    · exact hlater

/-- A provider that has a letter loaded and finds another one when its gate is opened. -/
def lettersProvider : Provider Script :=
  .prepared {
    current := some [{ id := "a", kind := "letter" }]
    fresh := [.ok [{ id := "b", kind := "letter" }]]
    gated := true }

/-- A query has started its refresh, and the next one is about to start. -/
def typedOnce : List Move := [.ask "s" {}, .happen, .ask "sm" {}, .happen]

/-- The refreshes of both queries arrive. -/
def bothArrive : List Move := [.happen, .release 0 .all, .happen, .happen]

/-- The refresh of an older query arrives and is not taken in; that of the newer one is. -/
theorem superseded_queries_are_frozen_letters :
    ∃ s, ((ofProviders [lettersProvider] none).course Script.library typedOnce).shown? 0 = some s ∧
      (((ofProviders [lettersProvider] none).course Script.library typedOnce).happen
        Script.library |>.course Script.library bothArrive).shown? 0 = some s ∧
      s.latest.isSome = false ∧
      (((((ofProviders [lettersProvider] none).course Script.library typedOnce).happen
        Script.library |>.course Script.library bothArrive).shown? 1).bind Query.latest).isSome =
          true := by
  refine ⟨_, rfl, ?_, rfl, rfl⟩
  have frozen : Keeps Script.library _ 0 _ :=
    superseded_queries_are_frozen Script.library [lettersProvider] none typedOnce rfl
  exact frozen.newer 1 bothArrive rfl

end Panel

end CiteSync.Completion
