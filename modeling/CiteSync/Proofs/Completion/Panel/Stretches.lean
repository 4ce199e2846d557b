import CiteSync.Proofs.Completion.Panel.Changes
import Mathlib.Data.List.Basic

/-!
# The changes that each stretch makes

One lemma for each function of the panel: what it does is a number of changes.  An activity that
runs stays one that runs until it pauses or ends.
-/

namespace CiteSync.Completion.Panel

open Remote

variable {σ : Type} {library : RemoteLibrary σ} {actor : Actor} {p p' : Panel σ}
  {number : Nat} {a : Activity}

/-! ## 1. Things that queries do not see -/

theorem aside_changes (queries : p'.queries = p.queries) (activities : p'.activities = p.activities)
    (generation : p'.generation = p.generation) (outstanding : p'.outstanding = p.outstanding)
    (ready : p.ready ⊆ p'.ready) (brings : ∀ i answer, p'.Brings i answer → p.Brings i answer) :
    Changes actor p p' :=
  .single (.aside queries activities generation outstanding ready brings)

theorem report_changes (records : List Log.Record) : Changes actor p (p.report records) :=
  aside_changes rfl rfl rfl rfl (List.Subset.refl _) fun _ _ h => h

theorem schedule_changes (reactions : List Reaction) : Changes actor p (p.schedule reactions) :=
  aside_changes rfl rfl rfl rfl (List.subset_append_left _ _) fun _ _ h => h

/-- A provider that may answer no more than before takes the place of a provider. -/
theorem setProvider_changes {provider : Nat} {old new : Provider σ}
    (here : p.providers[provider]? = some old)
    (hbrings : ∀ answer, new.Brings answer → old.Brings answer) :
    Changes actor p (p.setProvider provider new) := by
  refine aside_changes rfl rfl rfl rfl (List.Subset.refl _) ?_
  rintro i answer ⟨q, hq, hanswer⟩
  by_cases hi : provider = i
  · subst hi
    have hnew : (p.providers.set provider new)[provider]? = some new := by
      rw [List.getElem?_set_self', here]
      rfl
    obtain rfl : new = q := Option.some.inj (hnew.symm.trans hq)
    exact ⟨old, here, hbrings answer hanswer⟩
  · exact ⟨q, (List.getElem?_set_ne hi).symm.trans hq, hanswer⟩

/-! ## 2. One activity -/

theorem setActivity_here (here : p.activities[number]? = some a) (change : Activity → Activity) :
    (p.setActivity number change).activities[number]? = some (change a) := by
  rw [setActivity, List.getElem?_modify_eq, here]
  rfl

theorem setActivity_there {n : Nat} (hn : number ≠ n) (change : Activity → Activity) :
    (p.setActivity number change).activities[n]? = p.activities[n]? :=
  List.getElem?_modify_ne _ _ hn

theorem setActivity_of_some (here : p.activities[number]? = some a)
    (change : Activity → Activity) :
    p.setActivity number change = { p with activities := p.activities.set number (change a) } := by
  have hset : p.activities.modify number change = p.activities.set number (change a) := by
    apply List.ext_getElem?
    intro m
    rw [List.getElem?_modify, List.getElem?_set']
    by_cases hm : number = m
    · subst hm
      simp [here]
    · simp [hm]
  rw [setActivity, hset]

theorem setActivity_of_none (here : p.activities[number]? = none)
    (change : Activity → Activity) : p.setActivity number change = p := by
  rw [setActivity, List.modify_eq_self (List.getElem?_eq_none_iff.1 here)]

theorem setActivity_changes {change : Activity → Activity}
    (h : ∀ a, p.Develops actor number a [] (change a)) :
    Changes actor p (p.setActivity number change) := by
  cases here : p.activities[number]? with
  | none => rw [setActivity_of_none here]
  | some a =>
    rw [setActivity_of_some here]
    have hchange : Change actor p
        { p with activities := p.activities.set number (change a), ready := p.ready ++ [] } :=
      .develop here (h a)
    rw [List.append_nil] at hchange
    exact .single hchange

theorem whenOver_changes (reaction : Reaction) :
    Changes actor p (p.whenOver number reaction) := by
  unfold whenOver
  split
  · exact schedule_changes _
  · exact setActivity_changes fun a => .promise a reaction

theorem pause_changes {pause : Pause} (here : p.activities[number]? = some a)
    (fresh : a.stage = .fresh) (wanted : a.cancelAsked = false)
    (work : ∀ q token document, a.work ≠ .query q token document)
    (whole : ∀ g, pause.gathered? = some g → g.left = g.activities)
    (brings : ∀ i answer, a.work.provider? = some i → pause.answer? = some answer →
      p.Brings i answer) :
    Changes actor p (p.pause number pause) := by
  have hchange : Change actor p
      { p with
        activities := p.activities.set number { a with stage := .waiting pause none }
        ready := p.ready ++ [] } :=
    .develop here (.pause fresh wanted work whole brings)
  rw [Panel.pause, setActivity_of_some here]
  rw [List.append_nil] at hchange
  exact .single hchange

/-- An activity is told, if it gathers others only that it is cancelled. -/
theorem tell_changes {fits : Pause → Bool} {ending : Ending}
    (single : (∀ pause, fits pause = true → pause.gathered? = none) ∨
      actor = .canceller ∧ ending = .cancelled) :
    Changes actor p (p.tell fits number ending) := by
  unfold tell
  split
  next pause hstage =>
    split
    next hfits =>
      obtain ⟨a, here, hwaits⟩ := Option.map_eq_some_iff.1 hstage
      rw [setActivity_of_some here]
      exact .single (.develop here (.tell hwaits (single.imp_left fun h => h pause hfits)))
    next => exact .refl
  next => exact .refl

theorem endActivity_of_goesOn (here : p.activities[number]? = some a)
    (goesOn : a.stage.ending? = none) (ending : Ending) :
    p.endActivity number ending =
      { p with
        activities := p.activities.set number { a with stage := .ended ending }
        ready := p.ready ++ a.reactions } := by
  unfold endActivity
  rw [here]
  simp only [goesOn, Option.isSome_none, Bool.false_eq_true, if_false, setActivity_of_some here,
    schedule]

theorem endActivity_of_ended (here : p.activities[number]? = some a)
    (ended : a.stage.ending?.isSome) (ending : Ending) : p.endActivity number ending = p := by
  unfold endActivity
  rw [here]
  simp only [ended, if_true]

/-- An activity that asks a provider, or is lost, ends without success. -/
theorem endActivity_error_changes (failure : Failure) (here : p.activities[number]? = some a)
    (lost : a.work.provider?.isSome ∨ a.Lost) :
    Changes actor p (p.endActivity number (.error failure)) := by
  cases hending : a.stage.ending? with
  | some ending => rw [endActivity_of_ended here (by rw [hending]; rfl)]
  | none =>
    rw [endActivity_of_goesOn here hending]
    exact .single (.develop here (.fail hending lost))

theorem endActivity_changes {ending : Ending} (here : p.activities[number]? = some a)
    (work : a.work.query? = none)
    (has : ∀ i, a.work.provider? = some i → ∀ found, ending = .ok found →
      ∃ cs, found = some cs ∧ p.Has a i (.ok cs)) :
    Changes actor p (p.endActivity number ending) := by
  cases hending : a.stage.ending? with
  | some ended => rw [endActivity_of_ended here (by rw [hending]; rfl)]
  | none =>
    rw [endActivity_of_goesOn here hending]
    exact .single (.develop here (.finish hending work has))

/-! ## 3. Asking a provider -/

theorem deliver_error (failure : Failure) :
    p.deliver number (.error failure) = p.endActivity number (.error failure) := by
  unfold deliver
  split
  next h => cases h
  next => rfl

theorem deliver_of_refresh {query provider : Nat} {document : Document} (found : List Candidate)
    (here : p.activities[number]? = some a) (work : a.work = .refresh query provider document) :
    p.deliver number (.ok found) =
      (p.receive query provider found).endActivity number (.ok (some found)) := by
  simp only [deliver, here, Option.map_some, work]
  rfl

theorem deliver_of_entries {provider : Nat} {document : Document} (found : List Candidate)
    (here : p.activities[number]? = some a) (work : a.work = .entries provider document) :
    p.deliver number (.ok found) = p.endActivity number (.ok (some found)) := by
  simp only [deliver, here, Option.map_some, work]
  rfl

/-- An activity that asks a provider and runs ends with the answer; a refresh hands it on. -/
theorem deliver_changes {provider : Nat} {answer : Except Failure (List Candidate)}
    (here : p.activities[number]? = some a) (runs : a.Runs)
    (work : a.work.provider? = some provider)
    (has : ∀ found, answer = .ok found → p.Has a provider (.ok found)) :
    Changes (.activity number) p (p.deliver number answer) := by
  cases answer with
  | error failure =>
    rw [deliver_error]
    exact endActivity_error_changes failure here (.inl (by rw [work]; rfl))
  | ok found =>
    have hhas := has found rfl
    -- only a refresh has a query to hand on to
    cases hwork : a.work with
    | query q token document => rw [hwork] at work; cases work
    | load i l => rw [hwork] at work; cases work
    | wait q => rw [hwork] at work; cases work
    | entries i document =>
      rw [hwork] at work
      obtain rfl := Option.some.inj work
      rw [deliver_of_entries found here hwork]
      refine endActivity_changes here (by rw [hwork]; rfl) fun j hj cs hcs => ?_
      rw [hwork] at hj
      cases hj
      cases hcs
      exact ⟨found, rfl, hhas⟩
    | refresh q i document =>
      rw [hwork] at work
      obtain rfl := Option.some.inj work
      have hreceived : (p.receive q i found).activities[number]? = some a := here
      rw [deliver_of_refresh found here hwork, endActivity_of_goesOn hreceived runs.not_ended]
      exact .single (.deliver here runs hwork hhas)

theorem takeIndexed_changes {provider : Nat} {answer : Except Failure (List Reference)}
    (here : p.activities[number]? = some a) (runs : a.Runs)
    (work : a.work.provider? = some provider)
    (has : p.Has a provider (answer.map (·.map Reference.candidate))) :
    Changes (.activity number) p (p.takeIndexed number provider answer) := by
  unfold takeIndexed
  split
  next l found hl =>
    have hset : Changes (.activity number) p
        (p.setProvider provider (.references (l.receive found))) :=
      setProvider_changes hl fun _ h => h
    refine hset.trans (deliver_changes here runs work fun cs hcs => ?_)
    cases hcs
    -- an answer that waited at a gate is still there, and the list may answer as before
    rcases has with hstage | hbrings
    · exact .inl hstage
    · obtain ⟨q, hq, hanswer⟩ := hbrings
      obtain rfl : Provider.references l = q := Option.some.inj (hl.symm.trans hq)
      refine .inr ⟨.references (l.receive found), ?_, hanswer⟩
      show (p.providers.set provider (.references (l.receive found)))[provider]? = _
      rw [List.getElem?_set_self', hl]
      rfl
  next failure _ => exact deliver_changes here runs work fun cs hcs => by cases hcs
  next => exact .refl

/-- What an activity that runs keeps while others are dealt with. -/
def Still (p : Panel σ) (number : Nat) (a : Activity) : Prop :=
  ∃ a', p.activities[number]? = some a' ∧ a'.work = a.work ∧ a'.stage = a.stage ∧
    a'.cancelAsked = a.cancelAsked

theorem Still.here (here : p.activities[number]? = some a) : p.Still number a :=
  ⟨a, here, rfl, rfl, rfl⟩

theorem Still.addActivity (h : p.Still number a) (work : Work) :
    (p.addActivity work).2.Still number a := by
  obtain ⟨a', here, hsame⟩ := h
  have hlt := (List.getElem?_eq_some_iff.1 here).1
  exact ⟨a', (List.getElem?_append_left hlt).trans here, hsame⟩

theorem Still.whenOver (h : p.Still number a) (other : Nat) (reaction : Reaction) :
    (p.whenOver other reaction).Still number a := by
  unfold Panel.whenOver
  split
  · exact h
  · obtain ⟨a', here, hsame⟩ := h
    by_cases ho : other = number
    · subst ho
      exact ⟨_, setActivity_here here _, hsame⟩
    · exact ⟨a', (setActivity_there ho _).trans here, hsame⟩

theorem Still.pause_changes {pause : Pause} (h : p.Still number a) (fresh : a.stage = .fresh)
    (wanted : a.cancelAsked = false) (work : ∀ q token document, a.work ≠ .query q token document)
    (whole : ∀ g, pause.gathered? = some g → g.left = g.activities)
    (brings : ∀ i answer, a.work.provider? = some i → pause.answer? = some answer →
      p.Brings i answer) :
    Changes actor p (p.pause number pause) := by
  obtain ⟨a', here, hwork, hstage, hcancel⟩ := h
  refine Panel.pause_changes here (hstage.trans fresh) (hcancel.trans wanted) ?_ whole ?_
  · rwa [hwork]
  · rwa [hwork]

theorem awaitGate_changes {provider : Nat} {pause : Pause} (here : p.activities[number]? = some a)
    (fresh : a.stage = .fresh) (wanted : a.cancelAsked = false)
    (work : ∀ q token document, a.work ≠ .query q token document)
    (gate : pause.isGate = true)
    (brings : ∀ i answer, a.work.provider? = some i → pause.answer? = some answer →
      p.Brings i answer) :
    Changes actor p (p.awaitGate number provider pause) := by
  have hgates : Changes actor p { p with gates := p.gates ++ [(provider, number)] } :=
    aside_changes rfl rfl rfl rfl (List.Subset.refl _) fun _ _ h => h
  refine hgates.trans (Panel.pause_changes here fresh wanted work (fun g hg => ?_) brings)
  cases pause <;> cases gate <;> cases hg

theorem setProvider_brings {provider : Nat} {old new : Provider σ}
    {answer : Except Failure (List Candidate)} (here : p.providers[provider]? = some old)
    (h : new.Brings answer) : (p.setProvider provider new).Brings provider answer := by
  refine ⟨new, ?_, h⟩
  show (p.providers.set provider new)[provider]? = some new
  rw [List.getElem?_set_self', here]
  rfl

theorem runs_of_fresh (fresh : a.stage = .fresh) (wanted : a.cancelAsked = false) : a.Runs :=
  ⟨wanted, .inl fresh⟩

theorem Still.awaitLoad_changes (h : p.Still number a) (fresh : a.stage = .fresh)
    (wanted : a.cancelAsked = false) (work : ∀ q token document, a.work ≠ .query q token document)
    (load : Nat) : Changes actor p (p.awaitLoad number load) := by
  have hpause : Changes actor (p.whenOver load (.passOn number load))
      (p.awaitLoad number load) := by
    refine (h.whenOver load _).pause_changes fresh wanted work ?_ ?_
    · intro g hg
      cases hg
    · intro i answer _ hanswer
      cases hanswer
  exact (whenOver_changes _).trans hpause

theorem Still.join (h : p.Still number a) (fresh : a.stage = .fresh)
    (wanted : a.cancelAsked = false) (work : ∀ q token document, a.work ≠ .query q token document)
    {load? : Option Nat} :
    Changes actor p (match load? with
      | some load => p.awaitLoad number load
      | none => p) := by
  cases load? with
  | some load => exact h.awaitLoad_changes fresh wanted work load
  | none => exact .refl

theorem askProvider_changes {provider : Nat} {document : Document}
    (here : p.activities[number]? = some a) (fresh : a.stage = .fresh)
    (wanted : a.cancelAsked = false) (work : a.work.provider? = some provider) :
    Changes (.activity number) p (p.askProvider number provider document) := by
  have hruns := runs_of_fresh fresh wanted
  have hwork : ∀ q token document, a.work ≠ .query q token document := by
    intro q token document hq
    rw [hq] at work
    cases work
  unfold askProvider
  split
  next => exact .refl
  next q hq =>
    show Changes _ p (if q.gated then
        (p.setProvider provider (.prepared q.next.2)).awaitGate number provider (.prepared q.next.1)
      else (p.setProvider provider (.prepared q.next.2)).deliver number q.next.1)
    have hset : Changes (.activity number) p (p.setProvider provider (.prepared q.next.2)) :=
      setProvider_changes hq fun _ h => h
    have hbrings : (p.setProvider provider (.prepared q.next.2)).Brings provider q.next.1 :=
      setProvider_brings hq ⟨q.refreshes, rfl⟩
    split
    · refine hset.trans (awaitGate_changes here fresh wanted hwork rfl fun i answer hi ha => ?_)
      cases work.symm.trans hi
      cases ha
      exact hbrings
    · refine hset.trans (deliver_changes here hruns work fun found hfound => .inr ?_)
      rw [← hfound]
      exact hbrings
  next l hl =>
    show Changes _ p (if l.gated then
        (p.setProvider provider (.references l.next.2)).awaitGate number provider
          (.indexed l.next.1)
      else (p.setProvider provider (.references l.next.2)).takeIndexed number provider l.next.1)
    have hset : Changes (.activity number) p (p.setProvider provider (.references l.next.2)) :=
      setProvider_changes hl fun _ h => h
    have hbrings : (p.setProvider provider (.references l.next.2)).Brings provider
        (l.next.1.map (·.map Reference.candidate)) := setProvider_brings hl ⟨l.asked, rfl⟩
    split
    · refine hset.trans (awaitGate_changes here fresh wanted hwork rfl fun i answer hi ha => ?_)
      cases work.symm.trans hi
      cases ha
      exact hbrings
    · exact hset.trans (takeIndexed_changes here hruns work (.inr hbrings))
  next b hb =>
    rcases b.join document with ⟨load, isNew, b'⟩
    simp only
    have hset : Changes (.activity number) p (p.setProvider provider (.bibliography b')) :=
      setProvider_changes hb fun _ _ => trivial
    have hstill : (p.setProvider provider (.bibliography b')).Still number a := .here here
    -- the load to wait for may have to be started
    cases isNew with
    | true =>
      exact (hset.tail (.begin rfl)).trans ((hstill.addActivity _).join fresh wanted hwork)
    | false =>
      have hreported : ((p.setProvider provider (.bibliography b')).report
          [joiningRecord]).Still number a := .here here
      exact (hset.trans (report_changes _)).trans (hreported.join fresh wanted hwork)

/-! ## 4. Loads -/

theorem endLoadActivity_changes {provider load : Nat} (here : p.activities[number]? = some a)
    (work : a.work = .load provider load) :
    Changes actor p (p.endLoadActivity number provider load) := by
  unfold endLoadActivity
  split
  next =>
    split
    next =>
      refine endActivity_changes here (by rw [work]; rfl) fun i hi => ?_
      rw [work] at hi
      cases hi
    next => exact .refl
  next => exact .refl

theorem amend_activities (provider : Nat)
    (change : Bibliography σ → Bibliography σ × List Log.Record) :
    (p.amend provider change).activities = p.activities := by
  unfold amend
  split <;> rfl

theorem amend_changes (provider : Nat)
    (change : Bibliography σ → Bibliography σ × List Log.Record) :
    Changes actor p (p.amend provider change) := by
  unfold amend
  split
  next b hb => exact (setProvider_changes hb fun _ _ => trivial).trans (report_changes _)
  next => exact .refl

/-- A load may wait again, unlike other activities. -/
theorem awaitGate_again_changes {provider load : Nat} (here : p.activities[number]? = some a)
    (runs : a.Runs) (work : a.work = .load provider load) :
    Changes actor p (p.awaitGate number provider .loading) := by
  have hgates : Changes actor p { p with gates := p.gates ++ [(provider, number)] } :=
    aside_changes rfl rfl rfl rfl (List.Subset.refl _) fun _ _ h => h
  refine hgates.trans ?_
  have hchange : Change actor { p with gates := p.gates ++ [(provider, number)] }
      { p with
        gates := p.gates ++ [(provider, number)]
        activities := p.activities.set number { a with stage := .waiting .loading none }
        ready := p.ready ++ [] } :=
    .develop here (.again work runs)
  rw [List.append_nil] at hchange
  rw [awaitGate, Panel.pause,
    setActivity_of_some (p := { p with gates := p.gates ++ [(provider, number)] }) here]
  exact .single hchange

theorem proceed_changes {provider load : Nat} {goOn : Panel σ → Panel σ}
    (here : p.activities[number]? = some a) (runs : a.Runs) (work : a.work = .load provider load)
    (next : Changes actor p (goOn p)) : Changes actor p (p.proceed number provider load goOn) := by
  unfold proceed
  split
  · exact awaitGate_again_changes here runs work
  · exact next
  · exact endLoadActivity_changes here work

section Stretches

variable {provider load : Nat} (here : p.activities[number]? = some a)
  (work : a.work = .load provider load)

include here work

theorem finishLoad_changes : Changes actor p (p.finishLoad library number provider load) := by
  have here' : (p.amend provider (·.takeAnswer library load)).activities[number]? = some a := by
    rw [amend_activities, here]
  exact (amend_changes provider _).trans (endLoadActivity_changes here' work)

theorem continueLoad_changes (runs : a.Runs) :
    Changes actor p (p.continueLoad library number provider load) := by
  have here' : (p.amend provider (·.takeAnswer library load)).activities[number]? = some a := by
    rw [amend_activities, here]
  exact (amend_changes provider _).trans
    (proceed_changes here' runs work (finishLoad_changes here' work))

theorem startLoad_changes (runs : a.Runs) :
    Changes actor p (p.startLoad library number provider load) := by
  have here' : (p.amend provider fun b => (b.beginLoad library load, [])).activities[number]? =
      some a := by
    rw [amend_activities, here]
  exact (amend_changes provider _).trans
    (proceed_changes here' runs work (continueLoad_changes here' work runs))

end Stretches

theorem giveUp_changes (failure : Failure) (here : p.activities[number]? = some a)
    (lost : a.Lost) : Changes actor p (p.giveUp a.work number failure) := by
  unfold giveUp
  split
  next provider load _ =>
    refine (amend_changes provider _).trans (endActivity_error_changes failure ?_ (.inr lost))
    rw [amend_activities, here]
  next => exact endActivity_error_changes failure here (.inr lost)

end CiteSync.Completion.Panel
