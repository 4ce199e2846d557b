import CiteSync.Proofs.Completion.Panel.Departures
import CiteSync.Proofs.Completion.Panel.Outside
import CiteSync.Proofs.Completion.Panel.Underway

/-!
# Loads run to their ends

Whatever is done with a panel, no load comes to a halt, nor does anybody who waits for one, unless
a load is cancelled itself.  So when nothing is left to happen and no gate of a bibliography is
closed, every load has ended with a result and everybody who asked has come back.
-/

namespace CiteSync.Completion

open Remote

variable {σ : Type} {library : RemoteLibrary σ} {shelf : Nat → Bool} {gone : List Nat}

namespace Panel

variable {actor : Actor} {called warned : Nat → Prop} {p p' : Panel σ} {number provider load : Nat}
  {a a' : Activity} {stage : Stage} {role : Role} {rest : List Reaction}

/-! ## 1. What happens next -/

/-- What is ready is taken from those only who are about to start, to go on or to be told. -/
theorem Proceeds.taken {n : Nat} {r : Reaction} (h : p.Proceeds n role stage)
    (hready : p.ready = r :: rest) (start : r = .start n → stage ≠ .fresh)
    (goOn : r = .goOn n → ∀ pause ending, stage ≠ .waiting pause (some ending))
    (pass : ∀ other, r = .passOn n other → stage ≠ .waiting .joined none) :
    ({ p with ready := rest } : Panel σ).Proceeds n role stage := by
  have hrest : ∀ {x : Reaction}, x ∈ p.ready → r ≠ x → x ∈ rest := by
    intro x hx hne
    rw [hready] at hx
    exact (List.mem_cons.1 hx).resolve_left (Ne.symm hne)
  exact h.mono (older_of_shelves fun _ => rfl)
    (fun fresh ready => hrest ready fun heq => start heq fresh)
    (fun pause ending waits ready => hrest ready fun heq => goOn heq pause ending waits)
    (fun other waits told => told.taken hready fun heq => pass other heq.symm waits)
    fun _ _ _ _ gate => gate

/-- While a load goes on, its end is still to be passed on, whoever asks for it too early. -/
theorem Promised.taken_going {n other waiting : Nat}
    (h : p.Promised other (.passOn n other)) (hready : p.ready = .passOn waiting load :: rest)
    (going : p.activityEnding? load = none) :
    ({ p with ready := rest } : Panel σ).Promised other (.passOn n other) := by
  obtain ⟨c, there, hpass⟩ := h
  refine ⟨c, there, hpass.imp_right fun ⟨ended, hmem⟩ => ⟨ended, ?_⟩⟩
  rw [hready] at hmem
  refine (List.mem_cons.1 hmem).resolve_left fun heq => ?_
  obtain rfl : other = load := (Reaction.passOn.inj heq).2
  rw [activityEnding?, there, Option.bind_some] at going
  rw [going] at ended
  cases ended

theorem Underway.taken {n : Nat} {r : Reaction} (h : Underway shelf p n)
    (hready : p.ready = r :: rest)
    (start : r = .start n → ∀ a, p.activities[n]? = some a → a.stage ≠ .fresh)
    (goOn : r = .goOn n → ∀ a, p.activities[n]? = some a →
      ∀ pause ending, a.stage ≠ .waiting pause (some ending))
    (pass : ∀ other, r = .passOn n other → ∀ a, p.activities[n]? = some a →
      a.stage ≠ .waiting .joined none) :
    Underway shelf { p with ready := rest } n := by
  intro a here
  obtain ⟨hproceeds, hwanted⟩ := h a here
  exact ⟨hproceeds.taken hready (fun heq => start heq a here) (fun heq => goOn heq a here)
    fun other heq => pass other heq a here, hwanted⟩

theorem underway_of_none (hnone : p.activities[number]? = none) : Underway shelf p number := by
  intro a here
  rw [hnone] at here
  cases here

/-- One that asks a bibliography, or has nothing to do with loads, ends. -/
theorem underway_of_ended (hrole : ∀ a, p.activities[number]? = some a →
      (a.work.role shelf).isLoad = false)
    (ended : ∀ a, p.activities[number]? = some a → ∃ ending, a.stage = .ended ending) :
    Underway shelf p number := by
  intro a here
  obtain ⟨ending, hended⟩ := ended a here
  have hload := hrole a here
  refine ⟨?_, fun h => by rw [hload] at h; cases h⟩
  rw [hended]
  cases hrole : a.work.role shelf with
  | asker => exact .back ending
  | query | aside => exact .plain rfl _
  | load => rw [hrole] at hload; cases hload

theorem Changes.work_eq (h : Changes actor p p') (here : p.activities[number]? = some a) :
    ∀ a', p'.activities[number]? = some a' → a'.work = a.work := by
  intro a' here'
  obtain ⟨b, hb, hlater⟩ := h.later here
  rw [Option.some.inj (here'.symm.trans hb), hlater.work]

theorem Touches.work_eq (h : Touches number provider p p') (here : p.activities[number]? = some a) :
    ∀ a', p'.activities[number]? = some a' → a'.work = a.work := by
  intro a' here'
  obtain ⟨b, hb, hcontinues⟩ := h.self a here
  rw [Option.some.inj (here'.symm.trans hb), hcontinues.work]

section Ending

variable (here : p.activities[number]? = some a) (hrole : (a.work.role shelf).isLoad = false)

include here hrole

theorem underway_endActivity (ending : Ending) :
    Underway shelf (p.endActivity number ending) number := by
  have htouches : Touches number p.providers.length p (p.endActivity number ending) :=
    endActivity_touches ending
  refine underway_of_ended (fun a' here' => ?_) fun a' here' => ended_of_endActivity here'
  rw [htouches.work_eq here a' here', hrole]

theorem underway_deliver (answer : Except Failure (List Candidate)) :
    Underway shelf (p.deliver number answer) number := by
  obtain ⟨q, -, hactivities, -, -, hq⟩ := exists_of_deliver p number answer
  rw [hq]
  exact underway_endActivity (by rw [hactivities, here]) hrole _

end Ending

/-- Whoever asks a bibliography is going to be told. -/
theorem underway_ask {document : Document} (attended : Attended provider p)
    (here : p.activities[number]? = some a) (hrole : a.work.role shelf = .asker provider document)
    {b : Bibliography σ} (hb : p.bibliography? provider = some b)
    (changes : Changes actor p (p.askProvider number provider document)) :
    Underway shelf (p.askProvider number provider document) number := by
  obtain ⟨-, ⟨c, hc, hwaits⟩, other, -, -, -, htold⟩ :=
    askProvider_joins hb attended here (work_of_asker hrole).1
  intro a' here'
  obtain rfl := Option.some.inj (hc.symm.trans here')
  obtain ⟨d, hd, hlater⟩ := changes.later here
  obtain rfl := Option.some.inj (hc.symm.trans hd)
  rw [hlater.work, hrole, hwaits]
  exact ⟨.joins htold, fun h => nomatch h⟩

section Loads

variable {b : Bibliography σ}

theorem amend_bibliography? (hb : p.bibliography? provider = some b)
    (change : Bibliography σ → Bibliography σ × List Log.Record) :
    (p.amend provider change).bibliography? provider = some (change b).1 := by
  rw [amend_of_some hb]
  exact (bibliography?_setProvider hb _ provider).trans (if_pos rfl)

theorem amend_here (here : p.activities[number]? = some a) (i : Nat)
    (change : Bibliography σ → Bibliography σ × List Log.Record) :
    (p.amend i change).activities[number]? = some a := by
  rw [amend_activities, here]

variable (here : p.activities[number]? = some a) (work : a.work = .load provider load)
  (wanted : a.cancelAsked = false)

include here work wanted

/-- A load that has a result ends with it. -/
theorem underway_endLoadActivity (hover : p.OfShelf provider (·.Over load)) :
    Underway shelf (p.endLoadActivity number provider load) number := by
  obtain ⟨b, hb, l, hl, hresult⟩ := hover
  obtain ⟨result, hresult⟩ := Option.isSome_iff_exists.1 hresult
  have hnow : p.endLoadActivity number provider load =
      p.endActivity number (loadEnding result) := by
    rw [endLoadActivity_eq, hb, Option.bind_some, hl, Option.bind_some, hresult]
  have htouches : Touches number provider p (p.endActivity number (loadEnding result)) :=
    endActivity_touches _
  rw [hnow]
  intro a' here'
  obtain ⟨ending, hended⟩ := ended_of_endActivity here'
  have hwork := htouches.work_eq here a' here'
  -- whether it had ended before or ends now, nobody asks it to stop
  have hcancel : a'.cancelAsked = false := by
    cases hgoing : a.stage.ending? with
    | some ended =>
      rw [endActivity_of_ended here (by rw [hgoing]; rfl), here] at here'
      rw [← Option.some.inj here', wanted]
    | none =>
      rw [endActivity_of_goesOn here hgoing] at here'
      rw [← Option.some.inj ((set_here here _).symm.trans here'), wanted]
  refine ⟨?_, fun _ => hcancel⟩
  rw [hwork, work, hended, Work.role]
  split
  · refine .ended ⟨b, ?_, l, hl, by rw [hresult]; rfl⟩
    rw [bibliography?, endActivity_providers]
    exact hb
  · exact .plain rfl _

theorem underway_awaitGate (begun : p.OfShelf provider (·.Begun load)) :
    Underway shelf (p.awaitGate number provider .loading) number := by
  have hset := set_here here { a with stage := .waiting .loading none }
  intro a' here'
  unfold awaitGate Panel.pause at here'
  rw [setActivity_of_some (p := { p with gates := p.gates ++ [(provider, number)] }) here] at here'
  obtain rfl := Option.some.inj (hset.symm.trans here')
  refine ⟨?_, fun _ => wanted⟩
  show Proceeds _ number (a.work.role shelf) _
  rw [work, Work.role]
  split
  · exact .gated (List.mem_append_right _ (List.mem_singleton_self _)) begun
  · exact .plain rfl _

/-- A load that has begun waits for its answer, hears it at once or has ended. -/
theorem underway_proceed {goOn : Panel σ → Panel σ}
    (begun : p.OfShelf provider (·.Begun load)) (next : Underway shelf (goOn p) number) :
    Underway shelf (p.proceed number provider load goOn) number := by
  unfold proceed
  split
  next => exact underway_awaitGate here work wanted begun
  next => exact next
  next hheld =>
    obtain ⟨b, hb, hbegun⟩ := begun
    rw [heldBack?_eq, hb, Option.bind_some] at hheld
    exact underway_endLoadActivity here work wanted ⟨b, hb, hbegun.over hheld⟩

variable (library)

theorem underway_finishLoad (narrowed : p.OfShelf provider (·.Narrowed load)) :
    Underway shelf (p.finishLoad library number provider load) number := by
  obtain ⟨b, hb, hnarrowed⟩ := narrowed
  have here' := amend_here here provider (·.takeAnswer library load)
  exact underway_endLoadActivity here' work wanted
    ⟨_, amend_bibliography? hb _, Bibliography.takeAnswer_over library hnarrowed⟩

theorem underway_continueLoad (begun : p.OfShelf provider (·.Begun load)) :
    Underway shelf (p.continueLoad library number provider load) number := by
  obtain ⟨b, hb, hbegun⟩ := begun
  have hnarrowed := Bibliography.takeAnswer_narrowed library hbegun
  have hafter := amend_bibliography? hb (·.takeAnswer library load)
  have here' := amend_here here provider (·.takeAnswer library load)
  exact underway_proceed here' work wanted ⟨_, hafter, hnarrowed.begun⟩
    (underway_finishLoad library here' work wanted ⟨_, hafter, hnarrowed⟩)

theorem underway_startLoad (there : p.OfShelf provider fun b => load < b.loads.length) :
    Underway shelf (p.startLoad library number provider load) number := by
  obtain ⟨b, hb, hlt⟩ := there
  have hbegun := Bibliography.beginLoad_begun library hlt
  have hafter := amend_bibliography? hb fun b => (b.beginLoad library load, [])
  have here' := amend_here here provider fun b => (b.beginLoad library load, [])
  exact underway_proceed here' work wanted ⟨_, hafter, hbegun⟩
    (underway_continueLoad library here' work wanted ⟨_, hafter, hbegun⟩)

end Loads

theorem underway_of_work_eq (plain : (a.work.role shelf).isPlain = true)
    (same : ∀ a', p'.activities[number]? = some a' → a'.work = a.work) :
    Underway shelf p' number := by
  intro a' here'
  exact underway_of_plain here' (by rw [same a' here']; exact plain) a' here'

variable (library) in
/-- Whoever starts is underway afterwards. -/
theorem underway_start (attended : ∀ i, Attended i p) (tidy : Tidy shelf [] p)
    (here : p.activities[number]? = some a) (fresh : a.stage = .fresh)
    (wanted : (a.work.role shelf).isLoad = true → a.cancelAsked = false)
    (there : ∀ i l, a.work.role shelf = .load i l → p.OfShelf i fun b => l < b.loads.length) :
    Stretch number p (p.startActivity library number) ∧
      Underway shelf (p.startActivity library number) number := by
  have changes : Changes (.activity number) p (p.startActivity library number) :=
    startActivity_changes
  have turned := startActivity_turned library p number
  cases hcancel : a.cancelAsked with
  | true =>
    -- nobody cancels a load, so this is none
    have hload : (a.work.role shelf).isLoad = false := by
      cases hload : (a.work.role shelf).isLoad with
      | false => rfl
      | true => rw [wanted hload] at hcancel; cases hcancel
    have htouches : Touches number p.providers.length p (p.endActivity number .cancelled) :=
      endActivity_touches _
    rw [startActivity_of_cancelled here fresh hcancel, tidy.giveUp_eq hload] at changes turned ⊢
    exact ⟨htouches.stretch changes turned, underway_endActivity here hload _⟩
  | false =>
    rw [startActivity_of_fresh here fresh hcancel] at changes turned ⊢
    cases hrole : a.work.role shelf with
    | query document =>
      obtain ⟨q, token, hwork⟩ := work_of_query hrole
      rw [hwork] at changes ⊢
      refine ⟨(startQuery_opens here fresh).stretch changes, ?_⟩
      exact underway_of_work_eq (by rw [hrole]; rfl) (changes.work_eq here)
    | aside =>
      obtain ⟨i, -, htouches⟩ := tidy.start_touches library here hrole
      rw [startActivity_of_fresh here fresh hcancel] at htouches
      exact ⟨htouches.stretch changes turned,
        underway_of_work_eq (by rw [hrole]; rfl) (htouches.work_eq here)⟩
    | asker i document =>
      obtain ⟨hasks, hshelf⟩ := work_of_asker hrole
      obtain ⟨b, hb⟩ := Option.isSome_iff_exists.1 ((tidy.shelves i).trans hshelf)
      rw [begin_of_asks hasks] at changes turned ⊢
      exact ⟨askProvider_stretch hb (attended i) changes turned,
        underway_ask (attended i) here hrole hb changes⟩
    | load i l =>
      have hwork := (work_of_load hrole).1
      rw [hwork] at changes turned ⊢
      have htouches : Touches number i p (p.startLoad library number i l) := startLoad_touches l
      exact ⟨htouches.stretch changes turned, underway_startLoad library here hwork hcancel
        (there i l hrole)⟩

theorem goOn_stretch (library : RemoteLibrary σ) (here : p.activities[number]? = some a) :
    Stretch number p (p.goOn library number) := by
  have htouches : Touches number ((a.work.place?).getD 0) p (p.goOn library number) :=
    goOn_touches here fun i hi => by rw [hi]; rfl
  have turned : Turned library (fun _ => True) (fun _ => True) p (p.goOn library number) :=
    goOn_turned
  exact htouches.stretch goOn_changes turned

variable (library) in
/-- Whoever goes on is underway afterwards. -/
theorem underway_goOn (tidy : Tidy shelf [] p) (here : p.activities[number]? = some a)
    {pause : Pause} {told : Ending} (waits : a.stage = .waiting pause (some told))
    (load : ∀ i l, a.work.role shelf = .load i l → a.cancelAsked = false ∧
      (∃ found, told = .ok found) ∧ p.OfShelf i (·.Begun l)) :
    Underway shelf (p.goOn library number) number := by
  have hawaits := tidy.awaits number a pause _ here waits
  cases hrole : a.work.role shelf with
  | query | aside =>
    have changes : Changes (.activity number) p (p.goOn library number) := goOn_changes
    exact underway_of_work_eq (by rw [hrole]; rfl) (changes.work_eq here)
  | load i l =>
    obtain ⟨hwanted, ⟨found, rfl⟩, hbegun⟩ := load i l hrole
    rw [hrole] at hawaits
    obtain rfl : pause = .loading := hawaits
    have hwork := (work_of_load hrole).1
    rw [goOn_of_ok here waits hwanted, hwork]
    exact underway_continueLoad library here hwork hwanted hbegun
  | asker i document =>
    have hload : (a.work.role shelf).isLoad = false := by rw [hrole]; rfl
    rw [hrole] at hawaits
    obtain rfl : pause = .joined := hawaits
    obtain ⟨hasks, hshelf⟩ := work_of_asker hrole
    cases hcancel : a.cancelAsked with
    | true =>
      rw [goOn_of_cancelled here waits hcancel, tidy.giveUp_eq hload]
      exact underway_endActivity here hload _
    | false =>
      cases told with
      | error failure =>
        rw [goOn_of_error here waits hcancel, tidy.giveUp_eq hload]
        exact underway_endActivity here hload _
      | ok found =>
        obtain ⟨b, hb⟩ := Option.isSome_iff_exists.1 ((tidy.shelves i).trans hshelf)
        rw [goOn_of_ok here waits hcancel, resume_joined hasks, takeLoaded_eq, hb]
        exact underway_deliver here hload _

/-! ### Telling -/

theorem tell_of_fits {fits : Pause → Bool} {pause : Pause} (here : p.activities[number]? = some a)
    (waits : a.stage = .waiting pause none) (hfits : fits pause = true) (ending : Ending) :
    p.tell fits number ending =
      { p with
        activities := p.activities.set number { a with stage := .waiting pause (some ending) }
        ready := p.ready ++ [.goOn number] } := by
  unfold tell
  rw [here, Option.map_some, waits]
  simp only [hfits, if_true]
  rw [setActivity_of_some here]
  rfl

theorem underway_told {fits : Pause → Bool} {i : Nat} {document : Document}
    (here : p.activities[number]? = some a) (hrole : a.work.role shelf = .asker i document)
    (waits : a.stage = .waiting .joined none) (hfits : fits .joined = true) (ending : Ending) :
    Underway shelf (p.tell fits number ending) number := by
  rw [tell_of_fits here waits hfits]
  intro a' here'
  obtain rfl := Option.some.inj ((set_here here _).symm.trans here')
  show Proceeds _ number (a.work.role shelf) _ ∧ ((a.work.role shelf).isLoad = true → _)
  rw [hrole]
  exact ⟨.told (List.mem_append_right _ (List.mem_singleton_self _)), fun h => nomatch h⟩

theorem underway_released {fits : Pause → Bool} {i l : Nat} {found : Option (List Candidate)}
    (here : p.activities[number]? = some a) (hrole : a.work.role shelf = .load i l)
    (waits : a.stage = .waiting .loading none) (hfits : fits .loading = true)
    (wanted : a.cancelAsked = false) (begun : p.OfShelf i (·.Begun l)) :
    Underway shelf (p.tell fits number (.ok found)) number := by
  rw [tell_of_fits here waits hfits]
  intro a' here'
  obtain rfl := Option.some.inj ((set_here here _).symm.trans here')
  show Proceeds _ number (a.work.role shelf) _ ∧ ((a.work.role shelf).isLoad = true → _)
  rw [hrole]
  exact ⟨.released (List.mem_append_right _ (List.mem_singleton_self _)) begun, fun _ => wanted⟩

theorem passOn_of_not_joined
    (h : ∀ a, p.activities[number]? = some a → a.stage ≠ .waiting .joined none) :
    p.passOn number load = p := by
  unfold passOn
  split
  next =>
    unfold tell
    split
    next pause hstage =>
      obtain ⟨a, here, hwaits⟩ := Option.map_eq_some_iff.1 hstage
      cases pause with
      | joined => exact absurd hwaits (h a here)
      | _ => rfl
    next => rfl
  next => rfl

/-! ### Whatever happens -/

theorem Stretch.all (h : Stretch number p p') (others : ∀ n, n ≠ number → Underway shelf p n)
    (self : Underway shelf p' number) (n : Nat) : Underway shelf p' n := by
  by_cases hn : n = number
  · rw [hn]
    exact self
  · exact h.underway hn (others n hn)

section Happen

variable (underway : ∀ n, Underway shelf p n)

include underway

variable (library) in
theorem underway_of_start (tidy : Tidy shelf [] p) (attended : ∀ i, Attended i p)
    (hready : p.ready = .start number :: rest) (n : Nat) :
    Underway shelf (startActivity library number { p with ready := rest }) n := by
  by_cases hfresh : ∃ a, p.activities[number]? = some a ∧ a.stage = .fresh
  · obtain ⟨a, here, fresh⟩ := hfresh
    obtain ⟨hproceeds, hwanted⟩ := underway number a here
    obtain ⟨hstretch, hself⟩ := underway_start (p := { p with ready := rest }) library attended
      (tidy.taken hready) here fresh hwanted fun i l hrole => by
        rw [fresh, hrole] at hproceeds
        cases hproceeds with
        | starts ready there => exact there
        | plain plain => cases plain
    refine hstretch.all (fun k hk => ?_) hself n
    exact (underway k).taken hready (fun heq => absurd (Reaction.start.inj heq).symm hk)
      (fun h => nomatch h) fun _ h => nomatch h
  · -- it has started before, so nothing happens
    have hnot : ∀ a, p.activities[number]? = some a → a.stage ≠ .fresh :=
      fun a here fresh => hfresh ⟨a, here, fresh⟩
    rw [startActivity_of_not_fresh (p := { p with ready := rest }) hnot]
    refine (underway n).taken hready (fun heq a here => ?_) (fun h => nomatch h)
      fun _ h => nomatch h
    exact hnot a (by rw [Reaction.start.inj heq]; exact here)

theorem underway_of_goOn (library : RemoteLibrary σ) (tidy : Tidy shelf [] p)
    (hready : p.ready = .goOn number :: rest) (n : Nat) :
    Underway shelf (goOn library number { p with ready := rest }) n := by
  by_cases htold : ∃ a pause told, p.activities[number]? = some a ∧
      a.stage = .waiting pause (some told)
  · obtain ⟨a, pause, told, here, waits⟩ := htold
    obtain ⟨hproceeds, hwanted⟩ := underway number a here
    have hself := underway_goOn library (p := { p with ready := rest }) (tidy.taken hready) here
      waits fun i l hrole => by
        rw [waits, hrole] at hproceeds
        refine ⟨hwanted (by rw [hrole]; rfl), ?_⟩
        cases hproceeds with
        | released ready begun => exact ⟨⟨_, rfl⟩, begun⟩
        | plain plain => cases plain
    have hstretch :
        Stretch number { p with ready := rest } (goOn library number { p with ready := rest }) :=
      goOn_stretch library here
    refine hstretch.all (fun k hk => ?_) hself n
    exact (underway k).taken hready (fun h => nomatch h)
      (fun heq => absurd (Reaction.goOn.inj heq).symm hk) fun _ h => nomatch h
  · have hnot : ∀ a pause told, p.activities[number]? = some a →
        a.stage ≠ .waiting pause (some told) :=
      fun a pause told here waits => htold ⟨a, pause, told, here, waits⟩
    rw [goOn_of_not_told (p := { p with ready := rest }) hnot]
    refine (underway n).taken hready (fun h => nomatch h) (fun heq a here pause told => ?_)
      fun _ h => nomatch h
    exact hnot a pause told (by rw [Reaction.goOn.inj heq]; exact here)

theorem underway_of_passOn {waiting : Nat} (hready : p.ready = .passOn waiting load :: rest)
    (n : Nat) : Underway shelf (passOn waiting load { p with ready := rest }) n := by
  have htaken : ∀ k, (k = waiting → ∀ a, p.activities[k]? = some a →
      a.stage ≠ .waiting .joined none) → Underway shelf { p with ready := rest } k := fun k hk =>
    (underway k).taken hready (fun h => by cases h) (fun h => by cases h) fun _ heq =>
      hk (Reaction.passOn.inj heq).1.symm
  by_cases hjoined : ∃ a, p.activities[waiting]? = some a ∧ a.stage = .waiting .joined none
  · obtain ⟨a, here, hwaits⟩ := hjoined
    have hothers : ∀ k, k ≠ waiting → Underway shelf { p with ready := rest } k := fun k hk =>
      htaken k fun heq => absurd heq hk
    obtain ⟨hproceeds, -⟩ := underway waiting a here
    rw [hwaits] at hproceeds
    generalize hrole : a.work.role shelf = role at hproceeds
    unfold passOn
    split
    next ending _ =>
      -- the load has ended, and whoever waits for it is told
      have changes : Changes .other { p with ready := rest }
          (tell Pause.isJoined waiting (passedOn ending) { p with ready := rest }) :=
        tell_changes (.inl fun pause hfits => by cases pause <;> cases hfits; rfl)
      refine (tell_stretch changes).all hothers ?_ n
      cases hproceeds with
      | joins => exact underway_told (p := { p with ready := rest }) here hrole hwaits rfl _
      | plain plain =>
        exact underway_of_work_eq (by rw [hrole, plain])
          (changes.work_eq (p := { p with ready := rest }) here)
    next hgoing =>
      by_cases hn : n = waiting
      · subst hn
        cases hproceeds with
        | plain plain =>
          exact underway_of_plain (p := { p with ready := rest }) here (by rw [hrole, plain])
        | @joins i other document told =>
          -- this load goes on, so what was promised is still to come
          intro b hb
          obtain rfl := Option.some.inj (here.symm.trans hb)
          rw [hrole, hwaits]
          exact ⟨.joins (told.taken_going hready hgoing), fun h => by cases h⟩
      · exact hothers n hn
  · have hnot : ∀ a, p.activities[waiting]? = some a → a.stage ≠ .waiting .joined none :=
      fun a here hwaits => hjoined ⟨a, here, hwaits⟩
    rw [passOn_of_not_joined (p := { p with ready := rest }) hnot]
    exact htaken n fun heq => heq ▸ hnot

variable (library) in
theorem underway_happen (tidy : Tidy shelf [] p) (attended : ∀ i, Attended i p) (n : Nat) :
    Underway shelf (p.happen library) n := by
  cases hready : p.ready with
  | nil =>
    rw [happen_of_nil hready]
    exact underway n
  | cons r rest =>
    cases hdue : p.due shelf [] r with
    | false =>
      obtain ⟨-, halike, -⟩ := tidy.alike_of_not_due library hready hdue
      exact halike.underway tidy (underway n)
    | true =>
      rw [happen_of_cons hready]
      cases r with
      | start number => exact underway_of_start library underway tidy attended hready n
      | goOn number => exact underway_of_goOn underway library tidy hready n
      | passOn waiting load => exact underway_of_passOn underway hready n
      | noteRefresh | count => cases hdue

end Happen

/-! ## 2. What is done with a panel -/

section Moves

variable (underway : ∀ n, Underway shelf p n)

include underway

/-- Something is added that is no load, and nothing else happens to the activities. -/
theorem underway_added (changes : Changes actor p p') (work : Work)
    (free : ∀ i l, work ≠ .load i l)
    (activities : p'.activities = p.activities ++ [({ work } : Activity)])
    (ready : p'.ready = p.ready ++ [.start p.activities.length])
    (gates : p'.gates = p.gates) (providers : p'.providers = p.providers) (n : Nat) :
    Underway shelf p' n := by
  -- the stretch is nobody's, so any number but `n` will do for it
  have hstretch : Stretch (n + 1) p p' :=
    { ready := changes.ready
      gates := by rw [gates]; exact List.Subset.refl _
      promised := fun _ _ hpromised => hpromised.changes changes
      older := older_of_providers providers
      others := fun k a' _ here' => by
        rw [activities] at here'
        by_cases hlt : k < p.activities.length
        · exact .inl ⟨a', (List.getElem?_append_left hlt).symm.trans here', rfl, rfl, rfl⟩
        · obtain ⟨rfl, rfl⟩ := new_of_append_singleton here' (Nat.le_of_not_lt hlt)
          refine .inr ⟨rfl, rfl, ?_, fun i l hload => absurd hload (free i l)⟩
          rw [ready]
          exact List.mem_append_right _ (List.mem_singleton_self _) }
  exact hstretch.underway (Nat.ne_of_lt (Nat.lt_succ_self n)) (underway n)

/-- Only the providers change. -/
theorem underway_turned (turned : Turned library called warned p p')
    (activities : p'.activities = p.activities) (gates : p'.gates = p.gates)
    (ready : p'.ready = p.ready) (n : Nat) : Underway shelf p' n := by
  intro a here'
  rw [activities] at here'
  obtain ⟨hproceeds, hwanted⟩ := underway n a here'
  refine ⟨hproceeds.mono (fun _ _ => turned.older) (fun _ h => ready ▸ h)
    (fun _ _ _ h => ready ▸ h) (fun _ _ told => ?_) fun _ _ _ _ h => gates ▸ h, hwanted⟩
  obtain ⟨c, there, hpass⟩ := told
  exact ⟨c, by rw [activities, there], by rwa [ready]⟩

end Moves

/-! ### Gates -/

/-- Gates are closed to those only who do not wait there any more. -/
theorem Underway.setGates {n : Nat} (h : Underway shelf p n) (gates : List (Nat × Nat))
    (hgates : ∀ a, p.activities[n]? = some a → a.stage = .waiting .loading none →
      ∀ i, (i, n) ∈ p.gates → (i, n) ∈ gates) : Underway shelf { p with gates } n := by
  intro a here
  obtain ⟨hproceeds, hwanted⟩ := h a here
  exact ⟨hproceeds.mono (older_of_shelves fun _ => rfl) (fun _ ready => ready)
    (fun _ _ _ ready => ready) (fun _ _ told => told) fun i _ _ hwaits => hgates a here hwaits i,
    hwanted⟩

theorem tell_setGates (fits : Pause → Bool) (ending : Ending) (gates : List (Nat × Nat)) :
    ({ p.tell fits number ending with gates } : Panel σ) =
      { p with gates }.tell fits number ending := by
  unfold tell
  simp only
  split
  · split <;> rfl
  · rfl

theorem tell_of_none (hnone : p.activities[number]? = none) (fits : Pause → Bool)
    (ending : Ending) : p.tell fits number ending = p := by
  unfold tell
  rw [hnone]
  rfl

/-- Whoever waits at a gate goes on when it is opened. -/
theorem underway_opened {gate : Nat × Nat} {gates : List (Nat × Nat)}
    (underway : ∀ n, Underway shelf { p with gates := gate :: gates } n) (n : Nat) :
    Underway shelf { p.tell Pause.isGate gate.2 .done with gates } n := by
  have changes : Changes .other { p with gates }
      ({ p with gates }.tell Pause.isGate gate.2 .done) :=
    tell_changes (.inl fun pause hfits => by cases pause <;> cases hfits <;> rfl)
  have hkept : ∀ k, (∀ a, p.activities[k]? = some a → a.stage = .waiting .loading none →
      k ≠ gate.2) → Underway shelf { p with gates } k := fun k hk =>
    (underway k).setGates gates fun a here hwaits i hgate =>
      (List.mem_cons.1 hgate).resolve_left fun heq => hk a here hwaits (congrArg Prod.snd heq)
  rw [tell_setGates]
  -- only who waits at this gate has needed it
  refine (tell_stretch changes).all (fun k hk => hkept k fun _ _ _ => hk) ?_ n
  cases here : p.activities[gate.2]? with
  | none =>
    rw [tell_of_none (p := { p with gates }) here]
    exact underway_of_none (p := { p with gates }) here
  | some a =>
    by_cases hfits : ∃ pause, a.stage = .waiting pause none ∧ pause.isGate = true
    · obtain ⟨pause, hwaits, hgate⟩ := hfits
      obtain ⟨hproceeds, hwanted⟩ := underway gate.2 a here
      rw [hwaits] at hproceeds
      generalize hrole : a.work.role shelf = role at hproceeds
      cases hproceeds with
      | joins => cases hgate
      | gated _ begun =>
        exact underway_released (p := { p with gates }) here hrole hwaits rfl
          (hwanted (by rw [hrole]; rfl)) begun
      | plain plain =>
        exact underway_of_work_eq (by rw [hrole, plain])
          (changes.work_eq (p := { p with gates }) here)
    · have hnot : ∀ pause, a.stage = .waiting pause none → pause.isGate = false :=
        fun pause hwaits => Bool.eq_false_iff.2 fun hgate => hfits ⟨pause, hwaits, hgate⟩
      rw [tell_of_not_fits (p := { p with gates }) here hnot]
      refine hkept _ fun b hb hwaits => ?_
      obtain rfl := Option.some.inj (here.symm.trans hb)
      cases hnot _ hwaits

theorem underway_openAll (opened gates : List (Nat × Nat))
    (underway : ∀ n, Underway shelf { p with gates := opened ++ gates } n) (n : Nat) :
    Underway shelf
      (opened.foldl (fun p gate => p.tell Pause.isGate gate.2 .done) { p with gates }) n := by
  induction opened generalizing p with
  | nil => exact underway n
  | cons gate opened ih =>
    rw [List.foldl_cons, ← tell_setGates]
    exact ih (underway_opened underway)

theorem underway_release (underway : ∀ n, Underway shelf p n) (which : Which) (n : Nat) :
    Underway shelf (p.release provider which) n := by
  refine underway_openAll _ _ (fun k => (underway k).setGates _ fun _ _ _ i hgate => ?_) n
  generalize which.of (p.gates.filter (·.1 == provider)) = opened
  -- a gate is opened now or stays closed
  rw [List.mem_append, List.mem_filter]
  cases hopened : opened.contains (i, k) with
  | true => exact .inl (List.contains_iff_mem.1 hopened)
  | false => exact .inr ⟨hgate, rfl⟩

/-! ### Moves -/

theorem closeSession_same (p : Panel σ) (provider : Nat) :
    (p.closeSession provider).activities = p.activities ∧
    (p.closeSession provider).gates = p.gates ∧ (p.closeSession provider).ready = p.ready := by
  unfold closeSession amend
  split <;> exact ⟨rfl, rfl, rfl⟩

theorem setWarning_same (p : Panel σ) (provider : Nat) (warning : Option String) :
    (p.setWarning provider warning).activities = p.activities ∧
      (p.setWarning provider warning).gates = p.gates ∧
      (p.setWarning provider warning).ready = p.ready := by
  unfold setWarning
  split <;> exact ⟨rfl, rfl, rfl⟩

variable (library) in
theorem underway_acts (tidy : Tidy shelf [] p) (underway : ∀ n, Underway shelf p n) {m : Move}
    (acts : m.acts = true) (n : Nat) : Underway shelf (p.move library m) n := by
  have turned := p.move_turned library m
  have changes : Changes (p.mover m) p (p.move library m) := by
    have htaken : p.taken m = p := by
      cases m with
      | happen => cases acts
      | _ => rfl
    have hchanges : Changes (p.mover m) (p.taken m) (p.move library m) := move_changes m
    rwa [htaken] at hchanges
  cases m with
  | happen | cancel | close => cases acts
  | ask token document =>
    exact underway_added underway changes (.query p.queries.length token document)
      (fun _ _ h => nomatch h) rfl rfl rfl rfl n
  | bringUpToDate i document =>
    exact underway_added underway changes (.entries i document) (fun _ _ h => nomatch h) rfl rfl
      rfl rfl n
  | wait query =>
    exact underway_added underway changes (.wait query) (fun _ _ h => nomatch h) rfl rfl rfl rfl n
  | release i which => exact underway_release underway which n
  | closeSession i =>
    obtain ⟨hactivities, hgates, hready⟩ := closeSession_same p i
    exact underway_turned underway turned hactivities hgates hready n
  | setWarning i warning =>
    obtain ⟨hactivities, hgates, hready⟩ := setWarning_same p i warning
    exact underway_turned underway turned hactivities hgates hready n
  | narrow entries token =>
    exact (tidy.hides_narrowList entries token).alike.underway tidy (underway n)
  | search i token limit =>
    exact (tidy.hides_searchOne token limit).alike.underway tidy (underway n)
  | exact i token => exact (tidy.hides_exactOne token).alike.underway tidy (underway n)

/-! ### Cancelling -/

theorem setActivity_stretch {change : Activity → Activity}
    (changes : Changes actor p (p.setActivity number change)) :
    Stretch number p (p.setActivity number change) where
  ready := List.Subset.refl _
  gates := List.Subset.refl _
  promised := fun _ _ hpromised => hpromised.changes changes
  older := fun _ b hb => ⟨b, hb, .refl b⟩
  others := fun n a' hn here' => by
    rcases setActivity_cases here' with ⟨-, here⟩ | ⟨rfl, -⟩
    · exact .inl ⟨a', here, rfl, rfl, rfl⟩
    · exact absurd rfl hn

theorem underway_cancelSingle (tidy : Tidy shelf [] p) (underway : ∀ n, Underway shelf p n)
    (free : Free shelf p number) (n : Nat) : Underway shelf (p.cancelSingle number) n := by
  have changes : Changes .canceller p (p.cancelSingle number) := cancelSingle_changes
  unfold cancelSingle at changes ⊢
  split at changes
  next pause hstage =>
    -- it is told that it was cancelled, and so it goes on
    obtain ⟨a, here, hwaits⟩ := Option.map_eq_some_iff.1 hstage
    refine (tell_stretch changes).all (fun k _ => underway k) ?_ n
    obtain ⟨hload, -⟩ := free a here (by rw [hwaits]; rfl)
    have hawaits := tidy.awaits number a pause none here hwaits
    cases hrole : a.work.role shelf with
    | load => rw [hrole] at hload; cases hload
    | asker i document =>
      rw [hrole] at hawaits
      obtain rfl : pause = .joined := hawaits
      exact underway_told here hrole hwaits rfl _
    | query | aside =>
      exact underway_of_work_eq (by rw [hrole]; rfl) (changes.work_eq here)
  next => exact underway n
  next hfresh hended =>
    -- it is marked only, and it is no load
    have hstretch : Stretch number p (p.askCancel number) := setActivity_stretch changes
    refine hstretch.all (fun k _ => underway k) (fun a' here' => ?_) n
    rcases setActivity_cases here' with ⟨hn, -⟩ | ⟨-, a, here, rfl⟩
    · exact absurd rfl hn
    · refine ⟨(underway number a here).1.stretch hstretch, fun hload => ?_⟩
      have goesOn : a.stage.ending? = none := by
        cases hstage : a.stage with
        | ended ending =>
          exact absurd (by rw [here, Option.map_some, hstage]) (hended ending)
        | fresh | waiting => rfl
      rw [(free a here goesOn).1] at hload
      cases hload

/-! ## 3. Courses -/

theorem Tidy.forget (tidy : Tidy shelf gone p) : Tidy shelf [] p :=
  { tidy with left := fun _ h => nomatch h }

variable (shelf) in
/-- Everything is where it belongs, and nothing has come to a halt. -/
structure Running (p : Panel σ) : Prop where
  tidy : Tidy shelf [] p
  underway : ∀ n, Underway shelf p n
  attended : ∀ i, Attended i p

variable (library) in
theorem Running.move (h : Running shelf p) {m : Move} (spares : p.spares m = true) :
    Running shelf (p.move library m) := by
  have hpaired : Paired shelf [] p p := ⟨h.tidy, h.tidy, .refl p⟩
  have hattended : ∀ i, Attended i (p.move library m) := fun i => (h.attended i).move library m
  cases cancels : m.cancels with
  | true =>
    -- both are kept by each that is cancelled and by all that does not matter
    have hcancelled : Tidy shelf [] (p.move library m) ∧
        ∀ n, Underway shelf (p.move library m) n := by
      refine cancels_keep (fun q => Tidy shelf [] q ∧ ∀ n, Underway shelf q n)
        (fun q n ⟨tidy, underway⟩ free _ => ?_) (fun q q' ⟨tidy, underway⟩ hides => ?_) cancels
        h.tidy spares (List.Subset.refl _) ⟨h.tidy, h.underway⟩
      · have hself : Paired shelf [] q q := ⟨tidy, tidy, .refl q⟩
        refine ⟨?_, underway_cancelSingle tidy underway free⟩
        exact (hself.cancelSingle free).elim (·.tidy) (·.1.tidy.forget)
      · have hhides := hides [] tidy
        exact ⟨hhides.tidy, fun n => hhides.alike.underway tidy (underway n)⟩
    exact ⟨hcancelled.1, hcancelled.2, hattended⟩
  | false =>
    by_cases hhappen : m = .happen
    · subst hhappen
      refine ⟨?_, underway_happen library h.underway h.tidy h.attended, hattended⟩
      show Tidy shelf [] (p.happen library)
      cases hready : p.ready with
      | nil => rw [happen_of_nil hready]; exact h.tidy
      | cons r rest =>
        cases hdue : p.due shelf [] r with
        | false => exact (h.tidy.alike_of_not_due library hready hdue).1
        | true => exact (hpaired.happen hready hready hdue).tidy
    · have hacts := Move.acts_of_not_cancels cancels hhappen
      exact ⟨(hpaired.acts hacts).tidy, underway_acts library h.tidy h.underway hacts, hattended⟩

variable (library) in
theorem Running.course (h : Running shelf p) (moves : List Move)
    (spared : p.spared library moves = true) : Running shelf (p.course library moves) := by
  induction moves generalizing p with
  | nil => exact h
  | cons m moves ih =>
    obtain ⟨hspares, hspared⟩ := (Bool.and_eq_true _ _).mp spared
    exact ih (h.move library hspares) hspared

/-! ## 4. When all is quiet -/

/-- Every load has ended with a result, and everybody who has asked a bibliography has come back. -/
structure Concluded (p : Panel σ) : Prop where
  loads : ∀ i b, p.bibliography? i = some b → ∀ load ∈ b.loads, load.result.isSome
  waiters : ∀ (n : Nat) (a : Activity) i document, p.activities[n]? = some a →
    a.work.asks? = some (i, document) → (p.bibliography? i).isSome →
      ∃ ending, a.stage = .ended ending

theorem Running.load_over (h : Running shelf p) (hready : p.ready = [])
    (hgates : ∀ gate ∈ p.gates, p.bibliography? gate.1 = none) {i l : Nat}
    (here : p.activities[number]? = some a) (hrole : a.work.role shelf = .load i l) :
    (∃ ending, a.stage = .ended ending) ∧ p.OfShelf i (·.Over l) := by
  obtain ⟨hproceeds, -⟩ := h.underway number a here
  rw [hrole] at hproceeds
  generalize a.stage = stage at hproceeds
  cases hproceeds with
  | starts ready | released ready => rw [hready] at ready; cases ready
  | gated gate =>
    have hshelf := (h.tidy.shelves i).trans (work_of_load hrole).2
    rw [hgates _ gate] at hshelf
    cases hshelf
  | ended hover => exact ⟨⟨_, rfl⟩, hover⟩
  | plain plain => cases plain

theorem Running.concluded (h : Running shelf p) (hready : p.ready = [])
    (hgates : ∀ gate ∈ p.gates, p.bibliography? gate.1 = none) : Concluded p where
  loads := fun i b hb load hmem => by
    obtain ⟨l, hl⟩ := List.getElem?_of_mem hmem
    obtain ⟨n, a, here, hwork⟩ := h.attended i b hb l (List.getElem?_eq_some_iff.1 hl).1
    have hrole : a.work.role shelf = .load i l := by
      have hshelf := h.tidy.shelves i
      rw [hb] at hshelf
      rw [hwork, Work.role, ← hshelf]
      rfl
    obtain ⟨-, b', hb', load', hload', hresult⟩ := h.load_over hready hgates here hrole
    obtain rfl := Option.some.inj (hb.symm.trans hb')
    rwa [Option.some.inj (hl.symm.trans hload')]
  waiters := fun n a i document here hasks hshelf => by
    rw [h.tidy.shelves] at hshelf
    have hrole := role_of_asks hasks hshelf
    obtain ⟨hproceeds, -⟩ := h.underway n a here
    rw [hrole] at hproceeds
    generalize a.stage = stage at hproceeds
    cases hproceeds with
    | asks ready | told ready => rw [hready] at ready; cases ready
    | joins told =>
      -- the load has ended, and so there is nothing left to be passed on
      obtain ⟨c, there, ⟨goesOn, hmem⟩ | ⟨-, hmem⟩⟩ := told
      · obtain ⟨-, hload⟩ := h.tidy.passes_reactions there hmem
        cases hrole : c.work.role shelf with
        | load j l =>
          obtain ⟨⟨ending, hended⟩, -⟩ := h.load_over hready hgates there hrole
          rw [hended] at goesOn
          cases goesOn
        | asker | query | aside => rw [hrole] at hload; cases hload
      · rw [hready] at hmem
        cases hmem
    | back ending => exact ⟨ending, rfl⟩
    | plain plain => cases plain

end Panel

end CiteSync.Completion
