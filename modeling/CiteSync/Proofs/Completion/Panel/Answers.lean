import CiteSync.Proofs.Completion.Panel.Arrivals

/-!
# What providers answer

A query that finds nothing loaded waits until all providers have answered, and shows what those
answered that did not fail.
-/

namespace CiteSync.Completion.Panel

open Remote

variable {σ : Type} {library : RemoteLibrary σ} {actor : Actor} {p p' : Panel σ}
  {number : Nat} {a a' : Activity} {query : Nat} {document : Document} {s : Query}

/-! ## 1. Those who gather -/

/-- Whether those that were counted have ended, and all were if one is told that all is well. -/
def Counted (p : Panel σ) (stage : Stage) : Prop :=
  ∀ pause told g, stage = .waiting pause told → pause.gathered? = some g →
    (∀ m ∈ g.activities, m ∈ g.left ∨ (p.activityEnding? m).isSome) ∧
      ∀ found, told = some (.ok found) → g.left = []

/-- Whether every activity has counted only what has ended. -/
def Gathers (p : Panel σ) : Prop :=
  ∀ (number : Nat) (a : Activity), p.activities[number]? = some a → p.Counted a.stage

theorem Counted.change {stage : Stage} (h : p.Counted stage) (hchange : Change actor p p') :
    p'.Counted stage := by
  intro pause told g hstage hg
  obtain ⟨hcounted, hall⟩ := h pause told g hstage hg
  refine ⟨fun m hm => (hcounted m hm).imp_right fun hended => ?_, hall⟩
  exact (hchange.broughtBack_of_ended hended).1

theorem counted_of_ending? {stage : Stage} (h : stage.ending?.isSome) : p.Counted stage := by
  intro pause told g hstage
  rw [hstage] at h
  cases h

theorem counted_of_whole {pause : Pause}
    (whole : ∀ g, pause.gathered? = some g → g.left = g.activities) :
    p.Counted (.waiting pause none) := by
  intro pause' told g hstage hg
  obtain ⟨rfl, rfl⟩ := Stage.waiting.inj hstage
  refine ⟨fun m hm => .inl (whole g hg ▸ hm), fun found hfound => ?_⟩
  cases hfound

theorem Counted.count {pause : Pause} {told : Option Ending} {g : Gathering} {activity : Nat}
    (h : p.Counted (.waiting pause told)) (hg : pause.gathered? = some g)
    (ended : (p.activityEnding? activity).isSome) :
    ∀ m ∈ (g.count activity).activities,
      m ∈ (g.count activity).left ∨ (p.activityEnding? m).isSome := by
  intro m hm
  by_cases hm' : m = activity
  · exact .inr (hm' ▸ ended)
  · refine ((h pause told g rfl hg).1 m hm).imp_left fun hleft => ?_
    exact List.mem_filter.2 ⟨hleft, by simpa using hm'⟩

theorem exists_of_mapGathered {stage : Stage} {change : Gathering → Gathering} {pause : Pause}
    {told : Option Ending} (h : stage.mapGathered change = .waiting pause told) :
    ∃ before, stage = .waiting before told ∧ pause = before.mapGathered change := by
  cases stage with
  | fresh => cases h
  | ended ending => cases h
  | waiting before told' =>
    obtain ⟨rfl, rfl⟩ := Stage.waiting.inj h
    exact ⟨before, rfl, rfl⟩

theorem Develops.counted {reactions : List Reaction} (h : p.Develops actor number a reactions a')
    (hcounted : p.Counted a.stage) : p.Counted a'.stage := by
  cases h with
  | promise => exact hcounted
  | askCancel => exact hcounted
  | pause fresh wanted work whole => exact counted_of_whole whole
  | again =>
    intro pause told g hstage hg
    obtain ⟨rfl, -⟩ := Stage.waiting.inj hstage
    cases hg
  | tell waits single =>
    intro pause told g hstage hg
    obtain ⟨rfl, rfl⟩ := Stage.waiting.inj hstage
    refine ⟨(hcounted _ _ g waits hg).1, fun found hfound => ?_⟩
    rcases single with hnone | ⟨-, rfl⟩
    · rw [hnone] at hg
      cases hg
    · cases hfound
  | abandon =>
    intro pause told g hstage hg
    obtain ⟨before, hbefore, rfl⟩ := exists_of_mapGathered hstage
    rw [gathered?_mapGathered] at hg
    obtain ⟨g, hgathers, rfl⟩ := Option.map_eq_some_iff.1 hg
    exact hcounted before told g hbefore hgathers
  | count ended rest =>
    intro pause told g hstage hg
    obtain ⟨before, hbefore, rfl⟩ := exists_of_mapGathered hstage
    rw [gathered?_mapGathered] at hg
    obtain ⟨g, hgathers, rfl⟩ := Option.map_eq_some_iff.1 hg
    have hall := (hcounted before told g hbefore hgathers).2
    rw [hbefore] at hcounted
    refine ⟨hcounted.count hgathers ended, fun found hfound => ?_⟩
    rw [Gathering.count, hall found hfound]
    rfl
  | last ended waits gathers all =>
    intro pause told g hstage hg
    obtain ⟨rfl, rfl⟩ := Stage.waiting.inj hstage
    rw [gathered?_mapGathered, gathers] at hg
    obtain rfl := Option.some.inj hg
    rw [waits] at hcounted
    exact ⟨hcounted.count gathers ended, fun _ _ => all⟩
  | fail => exact counted_of_ending? rfl
  | finish => exact counted_of_ending? rfl

theorem Gathers.change (h : p.Gathers) (hchange : Change actor p p') : p'.Gathers := by
  intro number a' here'
  rcases hchange.earlier here' with ⟨a, here, -⟩ | hnew
  · have hcounted := h number a here
    rcases hchange.activity here with hsame | ⟨_, b, hdevelops, hb, -⟩ | ⟨_, _, _, hshows⟩ |
      ⟨-, -, hasks⟩ | ⟨_, _, _, hdelivers⟩
    · obtain rfl := Option.some.inj (hsame.symm.trans here')
      exact hcounted.change hchange
    · obtain rfl := Option.some.inj (hb.symm.trans here')
      exact (hdevelops.counted hcounted).change hchange
    · obtain ⟨b, hb, hended⟩ := hshows.ended
      obtain rfl := Option.some.inj (hb.symm.trans here')
      exact counted_of_ending? (by rw [hended]; rfl)
    · obtain rfl := Option.some.inj (hasks.symm.trans here')
      refine counted_of_whole fun g hg => ?_
      cases hg
      rfl
    · obtain ⟨b, hb, hended⟩ := hdelivers.ended
      obtain rfl := Option.some.inj (hb.symm.trans here')
      exact counted_of_ending? (by rw [hended]; rfl)
  · obtain ⟨hfresh, -⟩ := hchange.new here' hnew
    intro pause told g hstage
    rw [hfresh] at hstage
    cases hstage

/-! ## 2. A query that waits for answers -/

/-- Whether the activity of a query waits for others to end, or has failed. -/
def Awaits (p : Panel σ) (number : Nat) (others : List Nat) : Prop :=
  ∃ a, p.activities[number]? = some a ∧
    ((∃ generation g told, a.stage = .waiting (.asking generation g) told ∧
      g.activities = others) ∨ ∃ failure, a.stage = .ended (.error failure))

/-- A query that asks its providers waits for them until it is told of the last one or fails. -/
theorem Develops.awaits {reactions : List Reaction} {token : String} {generation : Nat}
    {g : Gathering} {told : Option Ending} (h : p.Develops actor number a reactions a')
    (work : a.work = .query query token document)
    (waits : a.stage = .waiting (.asking generation g) told) :
    (∃ g' told', a'.stage = .waiting (.asking generation g') told' ∧
      g'.activities = g.activities) ∨ ∃ failure, a'.stage = .ended (.error failure) := by
  cases h with
  | promise => exact .inl ⟨g, told, waits, rfl⟩
  | askCancel => exact .inl ⟨g, told, waits, rfl⟩
  | pause fresh =>
    rw [fresh] at waits
    cases waits
  | again load =>
    rw [load] at work
    cases work
  | tell hwaits single =>
    obtain ⟨rfl, rfl⟩ := Stage.waiting.inj (hwaits.symm.trans waits)
    exact .inl ⟨g, _, rfl, rfl⟩
  | abandon => exact .inl ⟨{ g with cancelled := true }, told, by rw [waits]; rfl, rfl⟩
  | count ended rest => exact .inl ⟨g.count _, told, by rw [waits]; rfl, rfl⟩
  | last ended hwaits =>
    obtain ⟨rfl, rfl⟩ := Stage.waiting.inj (hwaits.symm.trans waits)
    exact .inl ⟨g.count _, _, rfl, rfl⟩
  | fail => exact .inr ⟨_, rfl⟩
  | finish goesOn free =>
    rw [work] at free
    cases free

/-- What the query of an activity shows once its providers have answered. -/
structure Answered (p : Panel σ) (others : List Nat) (s : Query) : Prop where
  ended : ∀ other ∈ others, (p.activityEnding? other).isSome
  items : s.items = merge (p.arrivals others)
  latest : s.latest = none

/-- A query that waits for answers, or shows them. -/
structure Answering (number : Nat) (others : List Nat) (query : Nat) (p : Panel σ) : Prop where
  sound : p.Sound
  gathers : p.Gathers
  query : ∃ q, p.queries[query]? = some q ∧ q.activity = number ∧
    ((q.shown = none ∧ p.Awaits number others) ∨
      ∃ s, q.shown = some s ∧ q.refreshes = [] ∧ p.Answered others s)

theorem Answered.change {others : List Nat} (h : p.Answered others s)
    (hchange : Change actor p p') : p'.Answered others s where
  ended := fun other ho => (hchange.broughtBack_of_ended (h.ended other ho)).1
  items := by
    rw [h.items, arrivals_congr fun other ho => (hchange.broughtBack_of_ended (h.ended other ho)).2]
  latest := h.latest

/-- A query that is told that all have ended shows what they have brought back. -/
theorem Shows.answered {others : List Nat} {refreshes : List Nat}
    (h : Shows p p' number a query s refreshes) (hchange : Change actor p p')
    (gathers : p.Gathers) (awaits : p.Awaits number others) :
    refreshes = [] ∧ p'.Answered others s := by
  obtain ⟨b, hb, hstage⟩ := awaits
  obtain rfl := Option.some.inj (h.here.symm.trans hb)
  rcases hstage with ⟨generation, g, told, hwaits, rfl⟩ | ⟨failure, hended⟩
  · rcases h.how with hfresh | ⟨token, generation', g', found, htold, rfl, rfl⟩
    · rw [hfresh] at hwaits
      cases hwaits
    · -- it is told that all is well only when none is left to be counted
      obtain ⟨hpause, rfl⟩ := Stage.waiting.inj (htold.symm.trans hwaits)
      obtain ⟨rfl, rfl⟩ := Pause.asking.inj hpause
      obtain ⟨hcounted, hall⟩ := gathers _ _ h.here _ _ g' htold rfl
      have hleft : g'.left = [] := hall found rfl
      have hanswered : p.Answered g'.activities
          (.cold token generation' (g'.activities.filterMap p.broughtBack?)) := by
        refine ⟨fun m hm => (hcounted m hm).resolve_left fun hmem => ?_, ?_, rfl⟩
        · rw [hleft] at hmem
          cases hmem
        · exact merge_filterMap p.broughtBack? g'.activities
      exact ⟨rfl, hanswered.change hchange⟩
  · have hgoesOn := h.goesOn
    rw [hended] at hgoesOn
    cases hgoesOn

/-- A query that is not shown yet and does not come to show anything goes on waiting. -/
theorem Awaits.change {others : List Nat} {q : Asked} (h : p.Awaits q.activity others)
    (sound : p.Sound) (hchange : Change actor p p') (hq : p.queries[query]? = some q) {q' : Asked}
    (hq' : p'.queries[query]? = some q') (hnone : q'.shown = none) :
    p'.Awaits q.activity others := by
  obtain ⟨a, here, hstage⟩ := h
  obtain ⟨b, token, document, hb, hwork, -⟩ := sound.asked hq
  obtain rfl := Option.some.inj (here.symm.trans hb)
  rcases hchange.activity here with hsame | ⟨_, a', hdevelops, here', -⟩ | ⟨_, shown, _, hshows⟩ |
    ⟨hfresh, -⟩ | ⟨_, _, _, hdelivers⟩
  · exact ⟨a, hsame, hstage⟩
  · refine ⟨a', here', ?_⟩
    rcases hstage with ⟨generation, g, told, hwaits, rfl⟩ | ⟨failure, hended⟩
    · refine (hdevelops.awaits hwork hwaits).imp_left ?_
      rintro ⟨g', told', hwaits', hsame⟩
      exact ⟨generation, g', told', hwaits', hsame⟩
    · exact .inr ⟨failure, hdevelops.later.ended _ hended⟩
  · -- then the query would be shown
    obtain ⟨_, _, hshown⟩ := hshows.work
    cases hwork.symm.trans hshown
    obtain rfl := Option.some.inj ((hshows.query_here hq).symm.trans hq')
    cases hnone
  · rcases hstage with ⟨_, _, _, hwaits, -⟩ | ⟨failure, hended⟩
    · rw [hfresh] at hwaits
      cases hwaits
    · rw [hfresh] at hended
      cases hended
  · obtain ⟨_, hrefresh⟩ := hdelivers.work
    cases hwork.symm.trans hrefresh

theorem Answering.change {others : List Nat} (h : Answering number others query p)
    (hchange : Change actor p p') : Answering number others query p' := by
  obtain ⟨q, hq, rfl, hstate⟩ := h.query
  refine ⟨h.sound.change hchange, h.gathers.change hchange, ?_⟩
  rcases hstate with ⟨hnone, hawaits⟩ | ⟨s, hs, hrefreshes, hanswered⟩
  · -- it goes on waiting, or all have ended and it shows what they have brought back
    rcases hchange.asked h.sound hq with hsame | ⟨a, shown, refreshes, -, hshows, hsame⟩ |
      ⟨_, _, i, found, -, -, hsame⟩
    · exact ⟨q, hsame, rfl, .inl ⟨hnone, hawaits.change h.sound hchange hq hsame hnone⟩⟩
    · obtain ⟨hrefreshes, hanswered⟩ := hshows.answered hchange h.gathers hawaits
      exact ⟨_, hsame, rfl, .inr ⟨shown, rfl, hrefreshes, hanswered⟩⟩
    · have hnone' : q.shown.map (fun s => s.receive p.generation i found) = none := by
        rw [hnone]
        rfl
      exact ⟨_, hsame, rfl, .inl ⟨hnone', hawaits.change h.sound hchange hq hsame hnone'⟩⟩
  · rcases hchange.asked h.sound hq with hsame | ⟨_, _, _, hnone, -⟩ |
      ⟨other, b, i, found, -, hdelivers, -⟩
    · exact ⟨q, hsame, rfl, .inr ⟨s, hs, hrefreshes, hanswered.change hchange⟩⟩
    · rw [hnone] at hs
      cases hs
    · -- it has no refresh that could hand anything on
      obtain ⟨_, hwork⟩ := hdelivers.work
      obtain ⟨q', hq', -, hother⟩ := h.sound.refresh hdelivers.here hwork
      obtain rfl := Option.some.inj (hq.symm.trans hq')
      rw [hrefreshes] at hother
      cases hother

theorem Gathers.ofProviders (providers : List (Provider σ)) (limit : Option Int) :
    (Panel.ofProviders providers limit).Gathers := by
  intro number a here
  cases here

variable (library) in
theorem Gathers.course (h : p.Gathers) (moves : List Move) : (p.course library moves).Gathers :=
  course_keeps library Gathers (fun _ _ h => h) (fun hchange h => h.change hchange) moves h

variable (library) in
theorem Answering.start {token : String} {rest : List Reaction} (sound : p.Sound)
    (gathers : p.Gathers) (hready : p.ready = .start number :: rest)
    (here : p.activities[number]? = some a) (work : a.work = .query query token document)
    (fresh : a.stage = .fresh) (wanted : a.cancelAsked = false)
    (empty : p.current.all Option.isNone = true) :
    Answering number p.nextAskers query (p.happen library) := by
  have hstarted := happen_of_start library hready here work fresh wanted
  obtain ⟨q, hq, hactivity, hshown⟩ := sound.not_shown here work (by rw [fresh]; rfl)
  refine ⟨sound.course library [.happen], gathers.course library [.happen], ?_⟩
  by_cases hnone : p.providers = []
  · rw [startQuery_of_no_provider (p := { p with ready := rest }) here fresh hnone] at hstarted
    have hnobody : p.nextAskers = [] := List.isEmpty_iff.1 (nextAskers_isEmpty.2 hnone)
    rw [hnobody]
    refine ⟨{ q with shown := some (.cold token (p.generation + 1) []), refreshes := [] }, ?_,
      hactivity, .inr ⟨_, rfl, rfl, ?_, rfl, rfl⟩⟩
    · rw [hstarted]
      show (p.queries.modify query _)[query]? = _
      rw [List.getElem?_modify_eq, hq]
      rfl
    · intro other ho
      cases ho
  · rw [startQuery_of_empty (p := { p with ready := rest }) here empty hnone] at hstarted
    refine ⟨q, by rw [hstarted]; exact hq, hactivity, .inl ⟨hshown, ?_⟩⟩
    refine ⟨{ a with stage := .waiting p.askPause none }, ?_, .inl ⟨_, _, _, rfl, rfl⟩⟩
    rw [hstarted]
    exact set_append_here here _ _

theorem Answering.ready {others : List Nat} (h : Answering number others query p)
    (ready : List Reaction) : Answering number others query { p with ready } where
  sound := h.sound.ready ready
  gathers := h.gathers
  query := by
    obtain ⟨q, hq, hactivity, hawaits | ⟨s, hs, hrefreshes, hanswered⟩⟩ := h.query
    · exact ⟨q, hq, hactivity, .inl hawaits⟩
    · exact ⟨q, hq, hactivity, .inr ⟨s, hs, hrefreshes, hanswered.ended, hanswered.items,
        hanswered.latest⟩⟩

variable (library) in
theorem Answering.course {others : List Nat} (h : Answering number others query p)
    (moves : List Move) : Answering number others query (p.course library moves) :=
  course_keeps library (Answering number others query) (fun _ ready h => h.ready ready)
    (fun hchange h => h.change hchange) moves h

/-! ## 3. Where it comes from -/

/-- Whether what an activity holds or has brought back is an answer of a provider. -/
def Credits (source : Panel σ) (provider : Nat) (stage : Stage) : Prop :=
  (∀ answer, stage.answer? = some answer → source.Brings provider answer) ∧
    ∀ found, stage = .ended (.ok found) → ∃ cs, found = some cs ∧ source.Brings provider (.ok cs)

/-- Whether all that was brought back since an earlier time are answers that the providers might
have given then. -/
structure Since (source : Panel σ) (base : Nat) (p : Panel σ) : Prop where
  brings : ∀ i answer, p.Brings i answer → source.Brings i answer
  credits : ∀ (number : Nat) (a : Activity) (i : Nat), base ≤ number →
    p.activities[number]? = some a → a.work.provider? = some i → source.Credits i a.stage

theorem credits_of_none {source : Panel σ} {provider : Nat} {stage : Stage}
    (hanswer : stage.answer? = none) (hended : ∀ found, stage ≠ .ended (.ok found)) :
    source.Credits provider stage := by
  refine ⟨fun answer h => ?_, fun found h => absurd h (hended found)⟩
  rw [hanswer] at h
  cases h

theorem credits_ended {source : Panel σ} {provider : Nat} {found : List Candidate}
    (h : source.Brings provider (.ok found)) :
    source.Credits provider (.ended (.ok (some found))) := by
  refine ⟨fun answer h => ?_, fun found' h' => ?_⟩
  · cases h
  · obtain rfl := Except.ok.inj (Stage.ended.inj h')
    exact ⟨found, rfl, h⟩

theorem credits_mapGathered {source : Panel σ} {provider : Nat} {stage : Stage}
    (h : source.Credits provider stage) (change : Gathering → Gathering) :
    source.Credits provider (stage.mapGathered change) := by
  cases stage with
  | fresh => exact h
  | ended ending => exact h
  | waiting pause told =>
    refine ⟨fun answer hanswer => h.1 answer ?_, fun _ h => nomatch h⟩
    cases pause <;> exact hanswer

theorem credits_told {source : Panel σ} {provider : Nat} {pause : Pause} {told : Option Ending}
    (h : source.Credits provider (.waiting pause told)) (told' : Option Ending) :
    source.Credits provider (.waiting pause told') :=
  ⟨h.1, fun _ h => nomatch h⟩

theorem Credits.has {source : Panel σ} {provider : Nat} {answer : Except Failure (List Candidate)}
    (h : source.Credits provider a.stage) (has : p.Has a provider answer)
    (hbrings : ∀ i answer, p.Brings i answer → source.Brings i answer) :
    source.Brings provider answer :=
  has.elim (h.1 answer) (hbrings provider answer)

theorem Develops.credits {source : Panel σ} {provider : Nat} {reactions : List Reaction}
    (h : p.Develops actor number a reactions a') (work : a.work.provider? = some provider)
    (hbrings : ∀ i answer, p.Brings i answer → source.Brings i answer)
    (hcredits : source.Credits provider a.stage) : source.Credits provider a'.stage := by
  cases h with
  | promise => exact hcredits
  | askCancel => exact hcredits
  | pause fresh wanted hwork whole brings =>
    exact ⟨fun answer h => hbrings _ _ (brings provider answer work h), fun _ h => nomatch h⟩
  | again load =>
    rw [load] at work
    cases work
  | tell waits single =>
    rw [waits] at hcredits
    exact credits_told hcredits _
  | abandon => exact credits_mapGathered hcredits _
  | count ended rest => exact credits_mapGathered hcredits _
  | last ended waits gathers all =>
    rw [waits] at hcredits
    exact credits_told (credits_mapGathered hcredits (.count _)) _
  | fail => exact credits_of_none rfl fun _ h => nomatch h
  | finish goesOn free has =>
    refine ⟨fun _ h => (nomatch h), fun found hfound => ?_⟩
    obtain ⟨cs, rfl, hhas⟩ := has provider work found (Stage.ended.inj hfound)
    exact ⟨cs, rfl, hcredits.has hhas hbrings⟩

theorem Change.brings (h : Change actor p p') :
    ∀ i answer, p'.Brings i answer → p.Brings i answer := by
  cases h with
  | aside _ _ _ _ _ brings => exact brings
  | _ => exact fun _ _ h => h

theorem Since.change {source : Panel σ} {base : Nat} (h : Since source base p)
    (hchange : Change actor p p') : Since source base p' where
  brings := fun i answer hbrings => h.brings i answer (hchange.brings i answer hbrings)
  credits := by
    intro number a' i hbase here' work
    rcases hchange.earlier here' with ⟨a, here, hlater⟩ | hnew
    · have hwork : a.work.provider? = some i := hlater.work ▸ work
      have hcredits := h.credits number a i hbase here hwork
      rcases hchange.activity here with hsame | ⟨_, b, hdevelops, hb, -⟩ | ⟨_, _, _, hshows⟩ |
        ⟨-, ⟨_, _, _, hquery⟩, -⟩ | ⟨q, j, found, hdelivers⟩
      · obtain rfl := Option.some.inj (hsame.symm.trans here')
        exact hcredits
      · obtain rfl := Option.some.inj (hb.symm.trans here')
        exact hdevelops.credits hwork h.brings hcredits
      · obtain ⟨_, _, hquery⟩ := hshows.work
        rw [hquery] at hwork
        cases hwork
      · rw [hquery] at hwork
        cases hwork
      · obtain ⟨_, hrefresh⟩ := hdelivers.work
        rw [hrefresh] at hwork
        obtain rfl := Option.some.inj hwork
        obtain ⟨b, hb, hended⟩ := hdelivers.ended
        obtain rfl := Option.some.inj (hb.symm.trans here')
        rw [hended]
        exact credits_ended (hcredits.has hdelivers.has h.brings)
    · -- a new activity has brought nothing yet
      obtain ⟨hfresh, -⟩ := hchange.new here' hnew
      rw [hfresh]
      exact credits_of_none rfl fun _ h => nomatch h

variable (library) in
/-- All that will be brought back by activities to come are answers that the providers may give. -/
theorem since_course (moves : List Move) :
    Since p p.activities.length (p.course library moves) := by
  refine course_keeps library (Since p p.activities.length)
    (fun _ _ h => ⟨h.brings, h.credits⟩) (fun hchange h => h.change hchange) moves
    ⟨fun _ _ h => h, fun number a i hbase here => ?_⟩
  rw [List.getElem?_eq_none hbase] at here
  cases here

end CiteSync.Completion.Panel
