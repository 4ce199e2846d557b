import CiteSync.Proofs.Completion.Panel.Stretches

/-!
# The changes that each move makes

What happens next, and everything that is done with a panel, is a number of changes.
-/

namespace CiteSync.Completion.Panel

open Remote

variable {σ : Type} {library : RemoteLibrary σ} {actor : Actor} {p p' : Panel σ}
  {number : Nat} {a : Activity} {query : Nat} {token : String} {document : Document}

/-! ## 1. Starting a query -/

theorem nextAskers_isEmpty : p.nextAskers.isEmpty = true ↔ p.providers = [] := by
  rw [List.isEmpty_iff, nextAskers, List.range'_eq_nil_iff, List.length_eq_zero_iff]

theorem addActivities_range (work : Nat → Work) (after : Nat → Reaction) :
    p.addActivities ((List.range p.providers.length).map work) after =
      (p.nextAskers, { p with
        activities := p.activities ++ p.askers work after
        ready := p.ready ++ p.nextAskers.map .start }) := by
  unfold addActivities askers nextAskers schedule
  simp only [List.length_map, List.length_range]

/-- The activities that a query starts, which has taken the next generation by then. -/
theorem addActivities_next (work : Nat → Work) (after : Nat → Reaction) :
    ({ p with generation := p.generation + 1 } : Panel σ).addActivities
        ((List.range p.providers.length).map work) after =
      (p.nextAskers, { p with
        generation := p.generation + 1
        activities := p.activities ++ p.askers work after
        ready := p.ready ++ p.nextAskers.map .start }) :=
  addActivities_range (p := { p with generation := p.generation + 1 }) work after

/-- A query that finds something loaded shows it at once. -/
theorem startQuery_of_loaded (here : p.activities[number]? = some a) (fresh : a.stage = .fresh)
    (loaded : p.current.all Option.isNone = false) :
    p.startQuery number query token document =
      { p with
        generation := p.generation + 1
        queries := p.queries.modify query fun q =>
          { q with
            shown := some (.warm token (p.generation + 1) p.current)
            refreshes := p.nextAskers }
        activities := p.activities.set number { a with stage := .ended .done } ++
          p.askers (.refresh query · document) .noteRefresh
        outstanding := p.outstanding ++ p.nextAskers
        ready := p.ready ++ p.nextAskers.map .start ++ a.reactions } := by
  have hlt := (List.getElem?_eq_some_iff.1 here).1
  have hcurrent : ({ p with generation := p.generation + 1 } : Panel σ).current = p.current := rfl
  have hnow : (p.activities ++ p.askers (.refresh query · document) .noteRefresh)[number]? =
      some a := (List.getElem?_append_left hlt).trans here
  unfold startQuery
  simp only [hcurrent, loaded, Bool.false_eq_true, if_false]
  rw [addActivities_next, endActivity_of_goesOn hnow (by rw [fresh]; rfl)]
  simp only [setQuery]
  rw [List.set_append_left _ _ hlt]

/-- A query that finds nothing loaded waits for the answers of all providers. -/
theorem startQuery_of_empty (here : p.activities[number]? = some a)
    (empty : p.current.all Option.isNone = true) (hsome : p.providers ≠ []) :
    p.startQuery number query token document =
      { p with
        generation := p.generation + 1
        activities := p.activities.set number { a with stage := .waiting p.askPause none } ++
          p.askers (.entries · document) (.count number)
        ready := p.ready ++ p.nextAskers.map .start } := by
  have hlt := (List.getElem?_eq_some_iff.1 here).1
  have hcurrent : ({ p with generation := p.generation + 1 } : Panel σ).current = p.current := rfl
  have hasked : ¬p.nextAskers.isEmpty = true := fun h => hsome (nextAskers_isEmpty.1 h)
  have hnow : (p.activities ++ p.askers (.entries · document) (.count number))[number]? =
      some a := (List.getElem?_append_left hlt).trans here
  unfold startQuery
  simp only [hcurrent, empty, if_true]
  rw [addActivities_next]
  simp only [hasked, if_false, Bool.false_eq_true]
  rw [Panel.pause, setActivity_of_some hnow]
  simp only
  rw [List.set_append_left _ _ hlt]
  rfl

theorem startQuery_of_no_provider (here : p.activities[number]? = some a)
    (fresh : a.stage = .fresh) (hnone : p.providers = []) :
    p.startQuery number query token document =
      { p with
        generation := p.generation + 1
        queries := p.queries.modify query fun q =>
          { q with shown := some (.cold token (p.generation + 1) []), refreshes := [] }
        activities := p.activities.set number { a with stage := .ended .done }
        ready := p.ready ++ a.reactions } := by
  have hcurrent : ({ p with generation := p.generation + 1 } : Panel σ).current = [] := by
    rw [current, hnone, List.map_nil]
  have hasked : p.nextAskers = [] := List.isEmpty_iff.1 (nextAskers_isEmpty.2 hnone)
  have haskers : p.askers (.entries · document) (.count number) = [] := by
    rw [askers, hasked, List.zipWith_nil_right]
  unfold startQuery
  simp only [hcurrent, List.all_nil, if_true]
  rw [addActivities_next, hasked, haskers]
  simp only [List.isEmpty_nil, if_true, List.append_nil, List.map_nil]
  exact endActivity_of_goesOn
    (p := setQuery query (.cold token (p.generation + 1) []) [] { p with generation := _ }) here
    (by rw [fresh]; rfl) .done

theorem startQuery_changes (here : p.activities[number]? = some a) (fresh : a.stage = .fresh)
    (work : a.work = .query query token document) :
    Changes actor p (p.startQuery number query token document) := by
  by_cases hnone : p.providers = []
  · rw [startQuery_of_no_provider here fresh hnone]
    exact .single (.alone here fresh work hnone)
  · cases hall : p.current.all Option.isNone with
    | true =>
      rw [startQuery_of_empty here hall hnone]
      exact .single (.cold here fresh work hall hnone)
    | false =>
      rw [startQuery_of_loaded here fresh hall]
      exact .single (.warm here fresh work hall)

/-! ## 2. Ending a query -/

theorem finishQuery_changes {generation : Nat} {g : Gathering} {found : Option (List Candidate)}
    (here : p.activities[number]? = some a)
    (told : a.stage = .waiting (.asking generation g) (some (.ok found)))
    (work : a.work = .query query token document) :
    Changes actor p (p.finishQuery number query token generation g.activities) := by
  let reported := p.report (g.activities.flatMap p.missingAnswer)
  let shown : Query := .cold token generation (g.activities.filterMap p.broughtBack?)
  have hfinish : (reported.setQuery query shown []).endActivity number .done =
      { reported.setQuery query shown [] with
        activities := p.activities.set number { a with stage := .ended .done }
        ready := p.ready ++ a.reactions } :=
    endActivity_of_goesOn (p := reported.setQuery query shown []) here (by rw [told]; rfl) .done
  have hanswered : Change actor reported ((reported.setQuery query shown []).endActivity number
      .done) := by
    rw [hfinish]
    exact .answered here told work
  exact (report_changes _).tail hanswered

/-! ## 3. Waiting for refreshes -/

theorem whenOver_foldl_changes (reaction : Nat → Reaction) (others : List Nat) :
    Changes actor p (others.foldl (fun p other => p.whenOver other (reaction other)) p) := by
  induction others generalizing p with
  | nil => exact .refl
  | cons other others ih => exact (whenOver_changes _).trans ih

theorem Still.whenOver_foldl (h : p.Still number a) (reaction : Nat → Reaction)
    (others : List Nat) :
    (others.foldl (fun p other => p.whenOver other (reaction other)) p).Still number a := by
  induction others generalizing p with
  | nil => exact h
  | cons other others ih => exact ih (h.whenOver other (reaction other))

theorem startWait_changes (here : p.activities[number]? = some a) (fresh : a.stage = .fresh)
    (wanted : a.cancelAsked = false) (work : a.work = .wait query) :
    Changes actor p (p.startWait number query) := by
  unfold startWait
  simp only
  split
  · exact endActivity_changes here (by rw [work]; rfl) fun i hi => by rw [work] at hi; cases hi
  · have hstill := (Still.here here).whenOver_foldl (.count number)
      (((p.queries[query]?).map Asked.refreshes).getD [])
    refine (whenOver_foldl_changes (.count number) _).trans
      (hstill.pause_changes fresh wanted ?_ ?_ ?_)
    · rw [work]
      intro q token document hq
      cases hq
    · intro g hg
      cases hg
      rfl
    · intro i answer _ hanswer
      cases hanswer

/-! ## 4. Stretches -/

theorem begin_changes (here : p.activities[number]? = some a) (fresh : a.stage = .fresh)
    (wanted : a.cancelAsked = false) :
    Changes (.activity number) p (p.begin library a.work number) := by
  cases hwork : a.work with
  | query q token document => exact startQuery_changes here fresh hwork
  | entries i document => exact askProvider_changes here fresh wanted (by rw [hwork]; rfl)
  | refresh q i document => exact askProvider_changes here fresh wanted (by rw [hwork]; rfl)
  | load i l => exact startLoad_changes here hwork (runs_of_fresh fresh wanted)
  | wait q => exact startWait_changes here fresh wanted hwork

theorem hear_changes {provider : Nat} {pause : Pause} {told : Option Ending}
    (here : p.activities[number]? = some a) (runs : a.Runs) (stage : a.stage = .waiting pause told)
    (work : a.work.provider? = some provider) :
    Changes (.activity number) p (p.hear provider pause number) := by
  unfold hear
  split
  next answer =>
    refine deliver_changes here runs work fun found hfound => .inl ?_
    rw [stage, hfound]
    rfl
  next answer =>
    refine takeIndexed_changes here runs work (.inl ?_)
    rw [stage]
    rfl
  next =>
    unfold takeLoaded
    split
    next b hb =>
      exact deliver_changes here runs work fun found hfound => .inr ⟨_, hb, trivial⟩
    next => exact .refl
  next => exact .refl

theorem resume_changes {pause : Pause} {found : Option (List Candidate)}
    (here : p.activities[number]? = some a) (wanted : a.cancelAsked = false)
    (told : a.stage = .waiting pause (some (.ok found))) :
    Changes (.activity number) p (p.resume library a.work pause number) := by
  have hruns : a.Runs := ⟨wanted, .inr ⟨pause, found, told⟩⟩
  unfold resume
  split
  next hwork => exact finishQuery_changes here told hwork
  next hwork => exact hear_changes here hruns told (by rw [hwork]; rfl)
  next hwork => exact hear_changes here hruns told (by rw [hwork]; rfl)
  next hwork => exact continueLoad_changes here hwork hruns
  next hwork =>
    exact endActivity_changes here (by rw [hwork]; rfl) fun i hi => by rw [hwork] at hi; cases hi
  next => exact .refl

theorem startActivity_changes : Changes (.activity number) p (p.startActivity library number) := by
  unfold startActivity
  split
  next work cancelAsked reactions here =>
    cases cancelAsked with
    | true => exact giveUp_changes _ here (.inr (.inl rfl))
    | false => exact begin_changes here rfl rfl
  next => exact .refl

theorem goOn_changes : Changes (.activity number) p (p.goOn library number) := by
  unfold goOn
  split
  next work pause told cancelAsked reactions here =>
    cases cancelAsked with
    | true => exact giveUp_changes _ here (.inr (.inl rfl))
    | false =>
      cases told with
      | ok found => exact resume_changes here rfl rfl
      | error failure => exact giveUp_changes failure here (.inr (.inr ⟨pause, failure, rfl⟩))
  next => exact .refl

/-! ## 5. Notes, counts and what is passed on -/

theorem activityEnding?_of_ended {ending : Ending} (here : p.activities[number]? = some a)
    (ended : a.stage = .ended ending) : p.activityEnding? number = some ending := by
  rw [activityEnding?, here, Option.bind_some, ended]
  rfl

theorem noteRefresh_changes : Changes actor p (p.noteRefresh number) := by
  unfold noteRefresh
  split
  next work ending _ _ here =>
    have hnote : Changes actor p { p with outstanding := p.outstanding.erase number } :=
      .single (.note (by rw [activityEnding?_of_ended here rfl]; rfl))
    simp only
    split
    · exact hnote.trans (report_changes _)
    · exact hnote
  next => exact .refl

theorem gathered?_mapGathered (pause : Pause) (change : Gathering → Gathering) :
    (pause.mapGathered change).gathered? = pause.gathered?.map change := by
  cases pause <;> rfl

/-- The last one that is counted tells the one who gathers. -/
theorem count_of_last {activity : Nat} {pause : Pause} {g : Gathering}
    (ended : (p.activityEnding? activity).isSome) (here : p.activities[number]? = some a)
    (waits : a.stage = .waiting pause none) (gathers : pause.gathered? = some g)
    (all : (g.count activity).left = []) :
    p.count number activity =
      { p with
        activities := p.activities.set number { a with
          stage := .waiting (pause.mapGathered (.count activity)) (some g.ending) }
        ready := p.ready ++ [.goOn number] } := by
  have hcounted := setActivity_of_some here fun a =>
    { a with stage := a.stage.mapGathered (.count activity) }
  have hgathered := gathered?_mapGathered pause (.count activity)
  rw [gathers, Option.map_some] at hgathered
  have hnow : (p.setGathering number (.count activity)).activities[number]? = some
      { a with stage := .waiting (pause.mapGathered (.count activity)) none } := by
    rw [setGathering, hcounted, waits, List.getElem?_set_self', here]
    rfl
  have hcomplete : (pause.mapGathered (.count activity)).isComplete = true := by
    rw [Pause.isComplete, hgathered, Option.any_some, all]
    rfl
  unfold count
  rw [if_pos ended]
  simp only [gathering?, hnow, Option.bind_some, Stage.gathered?, hgathered, tell, Option.map_some,
    hcomplete, if_true]
  rw [setActivity_of_some hnow, setGathering, hcounted]
  simp only [schedule, List.set_set]
  rfl

theorem tell_of_not_fits {fits : Pause → Bool} (here : p.activities[number]? = some a)
    (h : ∀ pause, a.stage = .waiting pause none → fits pause = false) (ending : Ending) :
    p.tell fits number ending = p := by
  unfold tell
  rw [here, Option.map_some]
  split
  next pause hstage =>
    rw [if_neg (by rw [h pause (Option.some.inj hstage)]; exact Bool.false_ne_true)]
  next => rfl

/-- One that is counted before others is only counted. -/
theorem count_of_rest {activity : Nat} (ended : (p.activityEnding? activity).isSome)
    (here : p.activities[number]? = some a)
    (rest : ∀ pause g, a.stage = .waiting pause none → pause.gathered? = some g →
      (g.count activity).left ≠ []) :
    p.count number activity = p.setGathering number (.count activity) := by
  have hnow : (p.setGathering number (.count activity)).activities[number]? =
      some { a with stage := a.stage.mapGathered (.count activity) } :=
    setActivity_here here _
  unfold count
  rw [if_pos ended]
  simp only
  split
  next =>
    refine tell_of_not_fits hnow (fun pause hpause => ?_) _
    cases hstage : a.stage with
    | fresh => rw [hstage] at hpause; cases hpause
    | ended ending => rw [hstage] at hpause; cases hpause
    | waiting pause' told =>
      rw [hstage] at hpause
      obtain ⟨rfl, rfl⟩ := Stage.waiting.inj hpause
      rw [Pause.isComplete, gathered?_mapGathered]
      cases hgathers : pause'.gathered? with
      | none => rfl
      | some g => simpa using rest pause' g hstage hgathers
  next => rfl

theorem count_changes {activity : Nat} : Changes actor p (p.count number activity) := by
  by_cases ended : (p.activityEnding? activity).isSome
  · cases here : p.activities[number]? with
    | none =>
      have hsame : p.setGathering number (.count activity) = p := setActivity_of_none here _
      unfold count
      rw [if_pos ended]
      simp only [hsame, gathering?, here, Option.bind_none]
      exact .refl
    | some a =>
      -- the last one that is left also tells the one who gathers
      by_cases rest : ∀ pause g, a.stage = .waiting pause none → pause.gathered? = some g →
          (g.count activity).left ≠ []
      · have hchange : Change actor p
            { p with
              activities := p.activities.set number
                { a with stage := a.stage.mapGathered (.count activity) }
              ready := p.ready ++ [] } := .develop here (.count a ended rest)
        rw [count_of_rest ended here rest, setGathering, setActivity_of_some here]
        rw [List.append_nil] at hchange
        exact .single hchange
      · push Not at rest
        obtain ⟨pause, g, waits, gathers, all⟩ := rest
        rw [count_of_last ended here waits gathers all]
        exact .single (.develop here (.last ended waits gathers all))
  · unfold count
    rw [if_neg ended]

theorem passOn_changes {load : Nat} : Changes actor p (p.passOn number load) := by
  unfold passOn
  split
  next =>
    refine tell_changes (.inl fun pause hfits => ?_)
    cases pause <;> cases hfits
    rfl
  next => exact .refl

/-! ## 6. What happens by itself -/

theorem react_changes (reaction : Reaction) :
    Changes reaction.actor p (p.react library reaction) := by
  cases reaction with
  | start number => exact startActivity_changes
  | goOn number => exact goOn_changes
  | noteRefresh number => exact noteRefresh_changes
  | count gatherer activity => exact count_changes
  | passOn waiting load => exact passOn_changes

theorem happen_of_nil (h : p.ready = []) : p.happen library = p := by
  unfold happen
  rw [h]

theorem happen_of_cons {reaction : Reaction} {rest : List Reaction}
    (h : p.ready = reaction :: rest) :
    p.happen library = { p with ready := rest }.react library reaction := by
  unfold happen
  rw [h]

/-- Letting all happen that is ready is a course. -/
theorem settleWithin_eq_course (left : Nat) :
    p.settleWithin library left = p.course library (List.replicate left .happen) := by
  induction left generalizing p with
  | zero => rfl
  | succ left ih =>
    show (if p.ready.isEmpty then p else (p.happen library).settleWithin library left) =
      (p.happen library).course library (List.replicate left .happen)
    rw [← ih]
    split
    next hempty =>
      have hquiet : p.ready = [] := List.isEmpty_iff.1 hempty
      rw [happen_of_nil hquiet]
      cases left with
      | zero => rfl
      | succ left => rw [settleWithin, if_pos hempty]
    next => rfl

/-! ## 7. What is done with a panel -/

theorem tell_foldl_changes (opened : List (Nat × Nat)) :
    Changes actor p (opened.foldl (fun p gate => p.tell Pause.isGate gate.2 .done) p) := by
  induction opened generalizing p with
  | nil => exact .refl
  | cons gate opened ih =>
    refine .trans (tell_changes (.inl fun pause hfits => ?_)) ih
    cases pause <;> cases hfits <;> rfl

theorem release_changes {provider : Nat} {which : Which} :
    Changes actor p (p.release provider which) := by
  have hgates : ∀ gates, Changes actor p { p with gates } := fun gates =>
    aside_changes rfl rfl rfl rfl (List.Subset.refl _) fun _ _ h => h
  exact (hgates _).trans (tell_foldl_changes _)

theorem cancelSingle_changes : Changes .canceller p (p.cancelSingle number) := by
  unfold cancelSingle
  split
  · exact tell_changes (.inr ⟨rfl, rfl⟩)
  · exact .refl
  · exact setActivity_changes fun a => .askCancel a rfl

theorem cancelSingle_foldl_changes (numbers : List Nat) :
    Changes .canceller p (numbers.foldl (fun p a => p.cancelSingle a) p) := by
  induction numbers generalizing p with
  | nil => exact .refl
  | cons number numbers ih => exact cancelSingle_changes.trans ih

theorem tell_outstanding {fits : Pause → Bool} {ending : Ending} :
    (p.tell fits number ending).outstanding = p.outstanding := by
  unfold tell
  split
  · split <;> rfl
  · rfl

theorem tell_length {fits : Pause → Bool} {ending : Ending} :
    (p.tell fits number ending).activities.length = p.activities.length := by
  unfold tell
  split
  · split
    · exact List.length_modify _ _ _
    · rfl
  · rfl

theorem cancelSingle_outstanding : (p.cancelSingle number).outstanding = p.outstanding := by
  unfold cancelSingle
  split
  · exact tell_outstanding
  · rfl
  · rfl

theorem cancelSingle_length :
    (p.cancelSingle number).activities.length = p.activities.length := by
  unfold cancelSingle
  split
  · exact tell_length
  · rfl
  · exact List.length_modify _ _ _

/-- An activity that was cancelled does nothing more. -/
theorem cancelSingle_lost (h : (p.cancelSingle number).activities[number]? = some a) :
    a.Lost := by
  cases here : p.activities[number]? with
  | none =>
    have hlength := List.getElem?_eq_none_iff.1 here
    have hlt := (List.getElem?_eq_some_iff.1 h).1
    rw [cancelSingle_length] at hlt
    omega
  | some b =>
    have hset : ∀ change : Activity → Activity,
        (p.setActivity number change).activities[number]? = some (change b) :=
      setActivity_here here
    unfold cancelSingle at h
    rw [here, Option.map_some] at h
    split at h
    next pause hstage =>
      unfold tell at h
      rw [here, Option.map_some, hstage] at h
      simp only [if_true] at h
      obtain rfl := Option.some.inj ((hset _).symm.trans h)
      exact .inr (.inr ⟨pause, _, rfl⟩)
    next ending hstage =>
      obtain rfl := Option.some.inj (here.symm.trans h)
      exact lost_of_ended (Option.some.inj hstage)
    next =>
      obtain rfl := Option.some.inj ((hset _).symm.trans h)
      exact .inr (.inl rfl)

/-- Every activity that was cancelled or lost is lost when others are cancelled. -/
theorem cancelSingle_foldl_lost (numbers : List Nat)
    (h : number ∈ numbers ∨ ∀ a, p.activities[number]? = some a → a.Lost) :
    ∀ a, (numbers.foldl (fun p n => p.cancelSingle n) p).activities[number]? = some a →
      a.Lost := by
  induction numbers generalizing p with
  | nil =>
    refine h.resolve_left fun hmem => ?_
    cases hmem
  | cons other numbers ih =>
    apply ih
    -- the one that is cancelled now is lost, and the others stay so
    by_cases hself : number = other
    · subst hself
      exact .inr fun a => cancelSingle_lost
    · refine h.imp (fun hmem => (List.mem_cons.1 hmem).resolve_left hself) fun hlost a ha => ?_
      cases here : p.activities[number]? with
      | none =>
        have hlength := List.getElem?_eq_none_iff.1 here
        have hlt := (List.getElem?_eq_some_iff.1 ha).1
        rw [cancelSingle_length] at hlt
        omega
      | some b =>
        have hchanges : Changes .canceller p (p.cancelSingle other) := cancelSingle_changes
        obtain ⟨b', hb', hlater⟩ := hchanges.later here
        obtain rfl := Option.some.inj (hb'.symm.trans ha)
        exact hlater.lost (hlost b here)

theorem cancelSingle_foldl_outstanding (numbers : List Nat) :
    (numbers.foldl (fun p n => p.cancelSingle n) p).outstanding = p.outstanding := by
  induction numbers generalizing p with
  | nil => rfl
  | cons number numbers ih => exact ih.trans cancelSingle_outstanding

/-- Closing cancels every refresh that is going on, and forgets it. -/
theorem close_changes : Changes .canceller p p.close := by
  refine (cancelSingle_foldl_changes p.outstanding).tail (.clear fun number hmem => ?_)
  rw [cancelSingle_foldl_outstanding] at hmem
  exact cancelSingle_foldl_lost _ (.inl hmem)

theorem cancel_changes : Changes .canceller p (p.cancel number) := by
  unfold cancel
  -- one who gathers is cancelled through those that are gathered, while they go on
  split
  · exact cancelSingle_changes
  · split
    · have habandon : Changes .canceller p
          (p.setGathering number fun g => { g with cancelled := true }) :=
        setActivity_changes fun a => .abandon a rfl
      exact habandon.trans (cancelSingle_foldl_changes _)
    · exact setActivity_changes fun a => .askCancel a rfl

theorem closeSession_changes {provider : Nat} : Changes actor p (p.closeSession provider) :=
  amend_changes provider _

theorem setWarning_changes {provider : Nat} {warning : Option String} :
    Changes actor p (p.setWarning provider warning) := by
  unfold setWarning
  split
  next hb => exact setProvider_changes hb fun _ _ => trivial
  next hq => exact setProvider_changes hq fun _ h => h
  next => exact .refl

/-! ### Looking -/

theorem search_brings (q : Provider σ) (token : String) (limit : Int) :
    (q.search token limit).2.Brings = q.Brings := by
  cases q <;> rfl

theorem exact_brings (q : Provider σ) (token : String) :
    (q.exact token).2.Brings = q.Brings := by
  cases q <;> rfl

/-- Providers that are looked into may answer as before. -/
theorem anyExact_brings (key : String) (providers : List (Provider σ)) :
    (anyExact key providers).2.map Provider.Brings = providers.map Provider.Brings := by
  induction providers with
  | nil => rfl
  | cons q rest ih =>
    have hq := exact_brings q key
    unfold anyExact
    split
    next h => rw [h] at hq; simp only [List.map_cons, hq]
    next h => rw [h] at hq; simp only [List.map_cons, hq, ih]
    next h => rw [h] at hq; simp only [List.map_cons, hq]

theorem searchAll_brings (token : String) (limit : Int) (providers : List (Provider σ)) :
    (searchAll token limit providers).2.map Provider.Brings = providers.map Provider.Brings := by
  induction providers with
  | nil => rfl
  | cons q rest ih =>
    have hq := search_brings q token limit
    unfold searchAll
    split
    next h => rw [h] at hq; simp only [List.map_cons, hq, ih]
    next h => rw [h] at hq; simp only [List.map_cons, hq]

theorem matches?_brings (token : String) (limit : Int) (providers : List (Provider σ)) :
    (matches? token limit providers).2.map Provider.Brings = providers.map Provider.Brings := by
  have hexact := anyExact_brings (completeKey token) providers
  unfold matches?
  split
  next h => rw [h] at hexact; exact hexact
  next h => rw [h] at hexact; exact (searchAll_brings _ _ _).trans hexact
  next h => rw [h] at hexact; exact hexact

theorem narrow_brings (entries : List Candidate) (token : String) (limit : Int)
    (providers : List (Provider σ)) :
    (narrow entries token limit providers).2.1.map Provider.Brings =
      providers.map Provider.Brings := by
  have hmatches := matches?_brings token limit providers
  unfold narrow
  split
  · rfl
  · split
    next h => rw [h] at hmatches; exact hmatches
    next h => rw [h] at hmatches; exact hmatches
    next h => rw [h] at hmatches; exact hmatches

theorem narrowList_changes {entries : List Candidate} :
    Changes actor p (p.narrowList entries token).2 := by
  have hset : Changes actor p
      { p with providers := (narrow entries token p.limit p.providers).2.1 } := by
    refine aside_changes rfl rfl rfl rfl (List.Subset.refl _) ?_
    rintro i answer ⟨q, hq, hanswer⟩
    have hi := congrArg (·[i]?) (narrow_brings entries token p.limit p.providers)
    simp only [List.getElem?_map] at hi
    rw [hq, Option.map_some] at hi
    obtain ⟨old, hold, hsame⟩ := Option.map_eq_some_iff.1 hi.symm
    exact ⟨old, hold, hsame ▸ hanswer⟩
  exact hset.trans (report_changes _)

theorem searchOne_changes {provider : Nat} {limit : Int} :
    Changes actor p (p.searchOne provider token limit).2 := by
  unfold searchOne
  split
  next q hq =>
    refine setProvider_changes hq fun answer h => ?_
    rwa [search_brings] at h
  next => exact .refl

theorem exactOne_changes {provider : Nat} : Changes actor p (p.exactOne provider token).2 := by
  unfold exactOne
  split
  next q hq =>
    refine setProvider_changes hq fun answer h => ?_
    rwa [exact_brings] at h
  next => exact .refl

/-! ## 8. Moves -/

/-- What was ready first is no longer ready when it happens. -/
def taken (p : Panel σ) : Move → Panel σ
  | .happen => { p with ready := p.ready.tail }
  | _ => p

/-- Who makes a move. -/
def mover (p : Panel σ) : Move → Actor
  | .happen => p.actor
  | .cancel _ => .canceller
  | .close => .canceller
  | _ => .other

/-- A move makes a number of changes, once that is taken which happens. -/
theorem move_changes (m : Move) : Changes (p.mover m) (p.taken m) (p.move library m) := by
  cases m with
  | happen =>
    show Changes p.actor { p with ready := p.ready.tail } (p.happen library)
    cases hready : p.ready with
    | nil =>
      rw [happen_of_nil hready]
      have hsame : ({ p with ready := [] } : Panel σ) = p := by rw [← hready]
      rw [List.tail_nil, hsame]
    | cons reaction rest =>
      rw [happen_of_cons hready, List.tail_cons]
      have hactor : p.actor = reaction.actor := by rw [actor, hready]; rfl
      rw [hactor]
      exact react_changes reaction
  | ask token document => exact .single (.ask token document)
  | bringUpToDate provider document => exact .single (.begin rfl)
  | wait query => exact .single (.begin rfl)
  | release provider which => exact release_changes
  | cancel activity => exact cancel_changes
  | close => exact close_changes
  | closeSession provider => exact closeSession_changes
  | setWarning provider warning => exact setWarning_changes
  | narrow entries token => exact narrowList_changes
  | search provider token limit => exact searchOne_changes
  | exact provider token => exact exactOne_changes

theorem Changes.keeps {holds : Panel σ → Prop} (h : Changes actor p p')
    (hchange : ∀ {p p' : Panel σ}, Change actor p p' → holds p → holds p') (hp : holds p) :
    holds p' := by
  induction h with
  | refl => exact hp
  | tail _ hlast ih => exact hchange hlast ih

variable (library) in
/-- What every change keeps, and what does not speak of what is ready, holds along every course. -/
theorem course_keeps (holds : Panel σ → Prop)
    (hready : ∀ (p : Panel σ) (ready : List Reaction), holds p → holds { p with ready })
    (hchange : ∀ {actor : Actor} {p p' : Panel σ}, Change actor p p' → holds p → holds p')
    (moves : List Move) (h : holds p) : holds (p.course library moves) := by
  induction moves generalizing p with
  | nil => exact h
  | cons m moves ih =>
    apply ih
    have htaken : holds (p.taken m) := by
      cases m with
      | happen => exact hready p _ h
      | _ => exact h
    exact (move_changes m).keeps hchange htaken

end CiteSync.Completion.Panel
