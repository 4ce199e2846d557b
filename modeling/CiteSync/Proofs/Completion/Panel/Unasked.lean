import CiteSync.Proofs.Completion.Panel.Frames
import CiteSync.Proofs.Completion.Panel.Queries

/-!
# Moves that a list of references does not notice

The cross references of a document change only as one of those who ask for them starts or goes on.
Whatever else happens leaves the list alone, and of those who ask for it at most tells one that
waits that it may go on.
-/

namespace CiteSync.Completion

open Remote

variable {σ : Type} {library : RemoteLibrary σ}

/-! ## 1. What rests -/

/-- An activity is as far as before, but for what it was told or gathers. -/
structure Stage.Stays (s s' : Stage) : Prop where
  fresh : s = .fresh → s' = .fresh
  ended : ∀ ending, s = .ended ending → s' = .ended ending
  waits : ∀ pause told, pause.gathered? = none → s = .waiting pause told →
    ∃ told', s' = .waiting pause told'

theorem Stage.Stays.refl (s : Stage) : s.Stays s :=
  ⟨fun h => h, fun _ h => h, fun _ told _ h => ⟨told, h⟩⟩

theorem Stage.Stays.trans {s s' s'' : Stage} (h : s.Stays s') (h' : s'.Stays s'') :
    s.Stays s'' where
  fresh := fun hs => h'.fresh (h.fresh hs)
  ended := fun ending hs => h'.ended ending (h.ended ending hs)
  waits := fun pause told single hs => by
    obtain ⟨told', hs'⟩ := h.waits pause told single hs
    exact h'.waits pause told' single hs'

theorem Stage.stays_told {pause : Pause} {ending : Ending} :
    Stays (.waiting pause none) (.waiting pause (some ending)) where
  fresh := fun h => nomatch h
  ended := fun _ h => nomatch h
  waits := fun _ _ _ h => by
    obtain ⟨rfl, -⟩ := Stage.waiting.inj h
    exact ⟨_, rfl⟩

theorem Stage.stays_mapGathered (s : Stage) (change : Gathering → Gathering) :
    s.Stays (s.mapGathered change) where
  fresh := fun h => by rw [h]; rfl
  ended := fun ending h => by rw [h]; rfl
  waits := fun pause told single h => by
    refine ⟨told, ?_⟩
    rw [h]
    cases pause with
    | asking | gathering => cases single
    | prepared | indexed | loading | joined => rfl

namespace Panel

variable {i : Nat} {l : ReferenceList} {p p' p'' : Panel σ} {number provider : Nat} {a : Activity}

/-- A provider and those who ask it are left alone. -/
structure Unasked (i : Nat) (p p' : Panel σ) : Prop where
  provider : p'.providers[i]? = p.providers[i]?
  stays : ∀ (n : Nat) (a : Activity), p.activities[n]? = some a →
    ∃ a', p'.activities[n]? = some a' ∧ a'.work = a.work ∧
      (a.work.provider? = some i → a.stage.Stays a'.stage)
  fresh : ∀ (n : Nat) (a : Activity), p'.activities[n]? = some a → p.activities.length ≤ n →
    a.work.provider? = some i → a.stage = .fresh

theorem Unasked.aside (providers : p'.providers[i]? = p.providers[i]?)
    (activities : p'.activities = p.activities) : Unasked i p p' where
  provider := providers
  stays := fun n a here => ⟨a, by rw [activities, here], rfl, fun _ => .refl a.stage⟩
  fresh := fun n a here hn => by
    rw [activities] at here
    have hlt := (List.getElem?_eq_some_iff.1 here).1
    omega

theorem Unasked.refl (p : Panel σ) : Unasked i p p := .aside rfl rfl

theorem Unasked.trans (h : Unasked i p p') (h' : Unasked i p' p'') : Unasked i p p'' where
  provider := h'.provider.trans h.provider
  stays := fun n a here => by
    obtain ⟨b, hb, hwork, hstays⟩ := h.stays n a here
    obtain ⟨c, hc, hwork', hstays'⟩ := h'.stays n b hb
    exact ⟨c, hc, hwork'.trans hwork, fun asks => (hstays asks).trans (hstays' (hwork ▸ asks))⟩
  fresh := fun n c hc hn asks => by
    -- it was new in one step or the other
    by_cases hlt : n < p'.activities.length
    · have hb : p'.activities[n]? = some p'.activities[n] := List.getElem?_eq_getElem hlt
      obtain ⟨c', hc', hwork, hstays⟩ := h'.stays n _ hb
      obtain rfl := Option.some.inj (hc.symm.trans hc')
      rw [hwork] at asks
      exact (hstays asks).fresh (h.fresh n _ hb hn asks)
    · exact h'.fresh n c hc (Nat.le_of_not_lt hlt) asks

theorem foldl_unasked {α : Type} {step : Panel σ → α → Panel σ}
    (hstep : ∀ (p : Panel σ) x, Unasked i p (step p x)) (xs : List α) :
    Unasked i p (xs.foldl step p) := by
  induction xs generalizing p with
  | nil => exact .refl p
  | cons x xs ih => exact (hstep p x).trans ih

theorem setActivity_unasked {change : Activity → Activity} (work : ∀ a, (change a).work = a.work)
    (stays : ∀ a, p.activities[number]? = some a → a.work.provider? = some i →
      a.stage.Stays (change a).stage) :
    Unasked i p (p.setActivity number change) where
  provider := rfl
  stays := fun n a here => by
    by_cases hn : number = n
    · subst hn
      exact ⟨change a, setActivity_here here change, work a, stays a here⟩
    · exact ⟨a, (setActivity_there hn change).trans here, rfl, fun _ => .refl a.stage⟩
  fresh := fun n a here hn => by
    have hlt := (List.getElem?_eq_some_iff.1 here).1
    rw [Panel.setActivity, List.length_modify] at hlt
    omega

theorem append_unasked {more : List Activity} (hfresh : ∀ a ∈ more, a.stage = .fresh)
    (providers : p'.providers[i]? = p.providers[i]?)
    (activities : p'.activities = p.activities ++ more) : Unasked i p p' where
  provider := providers
  stays := fun n a here => by
    have hlt := (List.getElem?_eq_some_iff.1 here).1
    exact ⟨a, by rw [activities, List.getElem?_append_left hlt, here], rfl, fun _ => .refl a.stage⟩
  fresh := fun n a here hn _ => by
    rw [activities, List.getElem?_append_right hn] at here
    exact hfresh a (List.mem_of_getElem? here)

theorem addActivity_unasked (work : Work) : Unasked i p (p.addActivity work).2 :=
  append_unasked (fun a ha => by rw [List.mem_singleton.1 ha]) rfl rfl

theorem setProvider_unasked (q : Provider σ) (hne : provider ≠ i) :
    Unasked i p (p.setProvider provider q) :=
  .aside (List.getElem?_set_ne hne) rfl

/-- A stretch of an activity that asks nobody or another provider. -/
theorem Touches.unasked (h : Touches number provider p p') (hne : provider ≠ i)
    (here : p.activities[number]? = some a) (elsewhere : a.work.provider? ≠ some i) :
    Unasked i p p' where
  provider := h.providers i (Ne.symm hne)
  stays := fun n b hb => by
    by_cases hn : n = number
    · subst hn
      obtain rfl := Option.some.inj (here.symm.trans hb)
      obtain ⟨a', ha', hcontinues⟩ := h.self a here
      exact ⟨a', ha', hcontinues.work, fun asks => absurd asks elsewhere⟩
    · obtain ⟨b', hb', hrests⟩ := h.others n hn b hb
      exact ⟨b', hb', hrests.work, fun _ => by rw [hrests.stage]; exact .refl b.stage⟩
  fresh := fun n b hb hn => by
    have hlt := (List.getElem?_eq_some_iff.1 hb).1
    rw [h.length] at hlt
    omega

/-! ## 2. Telling, counting and passing on -/

theorem tell_unasked (fits : Pause → Bool) (ending : Ending) :
    Unasked i p (p.tell fits number ending) := by
  unfold tell
  split
  next pause hstage =>
    split
    · have hset : Unasked i p (p.setActivity number fun a =>
          { a with stage := .waiting pause (some ending) }) := by
        refine setActivity_unasked (fun _ => rfl) fun a here _ => ?_
        rw [here, Option.map_some] at hstage
        rw [Option.some.inj hstage]
        exact Stage.stays_told
      exact hset.trans (.aside rfl rfl)
    · exact .refl p
  next => exact .refl p

theorem setGathering_unasked (change : Gathering → Gathering) :
    Unasked i p (p.setGathering number change) :=
  setActivity_unasked (fun _ => rfl) fun a _ _ => a.stage.stays_mapGathered change

theorem count_unasked (activity : Nat) : Unasked i p (p.count number activity) := by
  unfold count
  split
  · simp only
    split
    · exact (setGathering_unasked _).trans (tell_unasked _ _)
    · exact setGathering_unasked _
  · exact .refl p

theorem passOn_unasked (load : Nat) : Unasked i p (p.passOn number load) := by
  unfold passOn
  split
  · exact tell_unasked _ _
  · exact .refl p

theorem noteRefresh_unasked : Unasked i p (p.noteRefresh number) := by
  unfold noteRefresh
  split
  · simp only
    split <;> exact .aside rfl rfl
  · exact .refl p

theorem whenOver_unasked (reaction : Reaction) : Unasked i p (p.whenOver number reaction) := by
  unfold whenOver
  split
  · exact .aside rfl rfl
  · exact setActivity_unasked (fun _ => rfl) fun a _ _ => .refl a.stage

/-! ## 3. What is done with a panel -/

theorem release_unasked (which : Which) : Unasked i p (p.release provider which) := by
  have hgates : ∀ gates, Unasked i p { p with gates } := fun gates => .aside rfl rfl
  exact (hgates _).trans (foldl_unasked (fun p _ => tell_unasked _ _) _)

theorem cancelSingle_unasked : Unasked i p (p.cancelSingle number) := by
  unfold cancelSingle
  split
  · exact tell_unasked _ _
  · exact .refl p
  · exact setActivity_unasked (fun _ => rfl) fun a _ _ => .refl a.stage

theorem cancel_unasked : Unasked i p (p.cancel number) := by
  unfold cancel
  split
  · exact cancelSingle_unasked
  · split
    · exact (setGathering_unasked _).trans (foldl_unasked (fun _ _ => cancelSingle_unasked) _)
    · exact setActivity_unasked (fun _ => rfl) fun a _ _ => .refl a.stage

theorem close_unasked : Unasked i p p.close :=
  (foldl_unasked (fun _ _ => cancelSingle_unasked) p.outstanding).trans (.aside rfl rfl)

theorem amend_unasked (hl : p.providers[i]? = some (.references l))
    (change : Bibliography σ → Bibliography σ × List Log.Record) :
    Unasked i p (p.amend provider change) := by
  unfold amend
  split
  next b hb =>
    refine (setProvider_unasked _ fun heq => ?_).trans (.aside rfl rfl)
    rw [heq, hl] at hb
    cases hb
  next => exact .refl p

theorem closeSession_unasked (hl : p.providers[i]? = some (.references l)) :
    Unasked i p (p.closeSession provider) := amend_unasked hl _

theorem setWarning_unasked (hl : p.providers[i]? = some (.references l))
    (warning : Option String) : Unasked i p (p.setWarning provider warning) := by
  unfold setWarning
  split
  next b hb =>
    refine setProvider_unasked _ fun heq => ?_
    rw [heq, hl] at hb
    cases hb
  next q hq =>
    refine setProvider_unasked _ fun heq => ?_
    rw [heq, hl] at hq
    cases hq
  next => exact .refl p

theorem Unasked.of_looked (hl : p.providers[i]? = some (.references l))
    (h : List.Forall₂ Provider.Looked p.providers p'.providers)
    (activities : p'.activities = p.activities) : Unasked i p p' := by
  obtain ⟨q, hq, hlooked⟩ := forall₂_getElem? h hl
  cases hlooked
  exact .aside (hq.trans hl.symm) activities

/-! ## 4. Stretches -/

theorem startQuery_unasked {query : Nat} {token : String} {document : Document}
    (here : p.activities[number]? = some a) (fresh : a.stage = .fresh)
    (work : a.work = .query query token document) :
    Unasked i p (p.startQuery number query token document) := by
  have hset : ∀ (p' : Panel σ) (stage : Stage) (more : List Activity),
      p'.providers = p.providers → (∀ a ∈ more, a.stage = .fresh) →
      p'.activities = p.activities.set number { a with stage } ++ more → Unasked i p p' := by
    intro p' stage more hproviders hmore hactivities
    have hone : Unasked i p (p.setActivity number fun a => { a with stage }) := by
      refine setActivity_unasked (fun _ => rfl) fun b hb asks => ?_
      obtain rfl := Option.some.inj (here.symm.trans hb)
      rw [work] at asks
      cases asks
    rw [setActivity_of_some here] at hone
    exact hone.trans (append_unasked hmore (congrArg (·[i]?) hproviders) hactivities)
  have hfresh : ∀ (work : Nat → Work) (after : Nat → Reaction),
      ∀ a ∈ p.askers work after, a.stage = .fresh := by
    intro work after a ha
    obtain ⟨n, hn⟩ := List.getElem?_of_mem ha
    have hlt := (List.getElem?_eq_some_iff.1 hn).1
    rw [askers_length] at hlt
    rw [askers_getElem? work after hlt] at hn
    rw [← Option.some.inj hn]
  by_cases hnone : p.providers = []
  · rw [startQuery_of_no_provider here fresh hnone]
    exact hset _ (.ended .done) [] rfl (fun _ h => nomatch h) (List.append_nil _).symm
  · cases hall : p.current.all Option.isNone with
    | true =>
      rw [startQuery_of_empty here hall hnone]
      exact hset _ _ _ rfl (hfresh _ _) rfl
    | false =>
      rw [startQuery_of_loaded here fresh hall]
      exact hset _ _ _ rfl (hfresh _ _) rfl

theorem awaitLoad_unasked (here : p.activities[number]? = some a)
    (elsewhere : a.work.provider? ≠ some i) (load : Nat) :
    Unasked i p (p.awaitLoad number load) := by
  have hover : Unasked i p (p.whenOver load (.passOn number load)) := whenOver_unasked _
  refine hover.trans (setActivity_unasked (fun _ => rfl) fun b hb asks => ?_)
  obtain ⟨b', hb', hwork, -⟩ := hover.stays number a here
  obtain rfl := Option.some.inj (hb.symm.trans hb')
  exact absurd (hwork ▸ asks) elsewhere

theorem askProvider_unasked {document : Document} (here : p.activities[number]? = some a)
    (asks : a.work.provider? = some provider) (hne : provider ≠ i) :
    Unasked i p (p.askProvider number provider document) := by
  have elsewhere : a.work.provider? ≠ some i := by
    rw [asks]
    exact fun h => hne (Option.some.inj h)
  by_cases hbibliography : ∃ b, p.providers[provider]? = some (.bibliography b)
  · obtain ⟨b, hb⟩ := hbibliography
    have hlt := (List.getElem?_eq_some_iff.1 here).1
    unfold askProvider
    simp only [hb]
    generalize b.join document = joined
    obtain ⟨load, isNew, b'⟩ := joined
    have hset : Unasked i p (p.setProvider provider (.bibliography b')) := setProvider_unasked _ hne
    cases isNew with
    | true =>
      refine hset.trans ((addActivity_unasked (.load provider load)).trans ?_)
      simp only [if_true]
      split
      · exact awaitLoad_unasked ((List.getElem?_append_left hlt).trans here) elsewhere _
      · exact .refl _
    | false =>
      have hreport : Unasked i (p.setProvider provider (.bibliography b'))
          ((p.setProvider provider (.bibliography b')).report [joiningRecord]) := .aside rfl rfl
      refine hset.trans (hreport.trans ?_)
      simp only [Bool.false_eq_true, if_false]
      split
      · exact awaitLoad_unasked (p := (p.setProvider provider _).report _) here elsewhere _
      · exact .refl _
  · exact (askProvider_touches fun b hb => hbibliography ⟨b, hb⟩).unasked hne here elsewhere

theorem endActivity_unasked (here : p.activities[number]? = some a)
    (elsewhere : a.work.provider? ≠ some i) (ending : Ending) :
    Unasked i p (p.endActivity number ending) := by
  have htouches : Touches number (i + 1) p (p.endActivity number ending) :=
    endActivity_touches ending
  exact htouches.unasked (Nat.succ_ne_self i) here elsewhere

theorem giveUp_unasked (hl : p.providers[i]? = some (.references l))
    (here : p.activities[number]? = some a) (elsewhere : a.work.provider? ≠ some i)
    (failure : Failure) : Unasked i p (p.giveUp a.work number failure) := by
  unfold giveUp
  split
  next j n _ =>
    have here' : (p.amend j (·.cancelLoad n)).activities[number]? = some a := by
      rw [amend_activities, here]
    exact (amend_unasked hl _).trans (endActivity_unasked here' elsewhere _)
  next => exact endActivity_unasked here elsewhere _

theorem bibliography?_of_references (hl : p.providers[i]? = some (.references l)) :
    p.bibliography? i = none := by
  rw [bibliography?, hl]
  rfl

theorem startLoad_of_references (hl : p.providers[i]? = some (.references l)) (load : Nat) :
    p.startLoad library number i load = p := by
  have hnone := bibliography?_of_references hl
  unfold startLoad
  rw [amend_of_none hnone, proceed_of_none hnone]

theorem resume_of_references (hl : p.providers[i]? = some (.references l)) (load : Nat)
    (pause : Pause) : p.resume library (.load i load) pause number = p := by
  cases pause with
  | loading =>
    have hnone := bibliography?_of_references hl
    show p.continueLoad library number i load = p
    unfold continueLoad
    rw [amend_of_none hnone, proceed_of_none hnone]
  | prepared | indexed | joined | asking | gathering => rfl

/-- An activity that does not ask the provider starts. -/
theorem startActivity_unasked (hl : p.providers[i]? = some (.references l))
    (elsewhere : ∀ a, p.activities[number]? = some a → a.work.provider? ≠ some i) :
    Unasked i p (p.startActivity library number) := by
  unfold startActivity
  split
  next work cancelAsked reactions here =>
    cases cancelAsked with
    | true => exact giveUp_unasked hl here (elsewhere _ here) _
    | false =>
      cases work with
      | query q token document => exact startQuery_unasked here rfl rfl
      | entries j document =>
        exact askProvider_unasked here rfl fun h => elsewhere _ here (congrArg some h)
      | refresh q j document =>
        exact askProvider_unasked here rfl fun h => elsewhere _ here (congrArg some h)
      | wait q =>
        have htouches : Touches number (i + 1) p (p.startWait number q) := startWait_touches q
        exact htouches.unasked (Nat.succ_ne_self i) here (elsewhere _ here)
      | load j n =>
        by_cases hj : j = i
        · -- there is nothing to load where the references are
          show Unasked i p (p.startLoad library number j n)
          rw [hj, startLoad_of_references hl]
          exact .refl p
        · exact Touches.unasked (startLoad_touches n) hj here (elsewhere _ here)
  next => exact .refl p

/-- An activity that does not ask the provider goes on. -/
theorem goOn_unasked (hl : p.providers[i]? = some (.references l))
    (elsewhere : ∀ a, p.activities[number]? = some a → a.work.provider? ≠ some i) :
    Unasked i p (p.goOn library number) := by
  cases here : p.activities[number]? with
  | none =>
    have hsame : p.goOn library number = p := by
      unfold goOn
      simp only [here]
    rw [hsame]
    exact .refl p
  | some a =>
    have haway : ∀ {j : Nat}, j ≠ i → (∀ k, a.work.place? = some k → k = j) →
        Unasked i p (p.goOn library number) := fun hj hplace =>
      (goOn_touches here hplace).unasked hj here (elsewhere a here)
    cases hwork : a.work with
    | query q token document =>
      exact haway (Nat.succ_ne_self i) fun k hk => by rw [hwork] at hk; cases hk
    | wait q => exact haway (Nat.succ_ne_self i) fun k hk => by rw [hwork] at hk; cases hk
    | entries j document =>
      refine haway (j := j) (fun h => elsewhere a here (by rw [hwork, h]; rfl)) fun k hk => ?_
      rw [hwork] at hk
      exact (Option.some.inj hk).symm
    | refresh q j document =>
      refine haway (j := j) (fun h => elsewhere a here (by rw [hwork, h]; rfl)) fun k hk => ?_
      rw [hwork] at hk
      exact (Option.some.inj hk).symm
    | load j n =>
      by_cases hj : j = i
      · -- a load at a list of references has nothing to go on with
        have hend := giveUp_unasked hl here (elsewhere a here)
        unfold goOn
        rw [here]
        split
        next work pause told _ _ hwaits =>
          obtain rfl := Option.some.inj hwaits
          split
          · exact hend _
          · split
            · obtain rfl : work = .load i n := hwork.trans (by rw [hj])
              rw [resume_of_references hl]
              exact .refl p
            · exact hend _
        next => exact .refl p
      · refine haway (j := j) hj fun k hk => ?_
        rw [hwork] at hk
        exact (Option.some.inj hk).symm

/-! ## 5. Moves -/

/-- The activity that starts or goes on next. -/
def nextUp? (p : Panel σ) : Option Nat :=
  match p.ready with
  | .start number :: _ => some number
  | .goOn number :: _ => some number
  | _ => none

variable (library) in
/-- What every move leaves alone, but for an activity that asks the provider and starts or goes
on. -/
theorem move_unasked (hl : p.providers[i]? = some (.references l)) (m : Move)
    (elsewhere : m = .happen → ∀ number a, p.nextUp? = some number →
      p.activities[number]? = some a → a.work.provider? ≠ some i) :
    Unasked i p (p.move library m) := by
  cases m with
  | happen =>
    show Unasked i p (p.happen library)
    cases hready : p.ready with
    | nil => rw [happen_of_nil hready]; exact .refl p
    | cons reaction rest =>
      have htaken : Unasked i p { p with ready := rest } := .aside rfl rfl
      have hnext := elsewhere rfl
      unfold nextUp? at hnext
      rw [hready] at hnext
      rw [happen_of_cons hready]
      refine htaken.trans ?_
      cases reaction with
      | start number =>
        exact startActivity_unasked (p := { p with ready := rest }) hl fun a => hnext number a rfl
      | goOn number =>
        exact goOn_unasked (p := { p with ready := rest }) hl fun a => hnext number a rfl
      | noteRefresh number => exact noteRefresh_unasked
      | count gatherer activity => exact count_unasked _
      | passOn waiting load => exact passOn_unasked _
  | ask token document => exact (addActivity_unasked _).trans (.aside rfl rfl)
  | bringUpToDate provider document => exact addActivity_unasked _
  | wait query => exact addActivity_unasked _
  | release provider which => exact release_unasked which
  | cancel activity => exact cancel_unasked
  | close => exact close_unasked
  | closeSession provider => exact closeSession_unasked hl
  | setWarning provider warning => exact setWarning_unasked hl warning
  | narrow entries token => exact .of_looked hl (narrowList_looked entries token) rfl
  | search provider token limit =>
    refine .of_looked hl (searchOne_looked token limit) ?_
    show (p.searchOne provider token limit).2.activities = _
    unfold searchOne
    split <;> rfl
  | exact provider token =>
    refine .of_looked hl (exactOne_looked token) ?_
    show (p.exactOne provider token).2.activities = _
    unfold exactOne
    split <;> rfl

end Panel

end CiteSync.Completion
