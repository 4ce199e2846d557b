import CiteSync.Proofs.Completion.Panel.Arrivals
import CiteSync.Proofs.Completion.Panel.Unasked
import CiteSync.Remote.Script

/-!
# Overlapping calls to an index

The cross references of a document are asked for again and again, and the answers of the index may
arrive in any order.  A list of references keeps the answer that has arrived last, whichever call it
is for.
-/

namespace CiteSync.Completion

open Remote

variable {σ : Type} {library : RemoteLibrary σ}

/-! ## 1. Answering from a list -/

/-- What is shown of a provider is what a list of references says. -/
structure Provider.AnswersFrom (q : Provider σ) (rs : List Reference) : Prop where
  current : q.current = some (rs.map Reference.candidate)
  search : ∀ token limit, (q.search token limit).1 =
    .ok (some ((firstOf limit (matchingReferences rs token)).map Reference.candidate))
  exact : ∀ token, (q.exact token).1 = .ok (rs.any (·.key == token))

theorem ReferenceList.answersFrom {l : ReferenceList} {rs : List Reference}
    (h : l.known = some rs) : (Provider.references l : Provider σ).AnswersFrom rs := by
  obtain ⟨known, answers, gated, asked⟩ := l
  obtain rfl : known = some rs := h
  exact ⟨rfl, fun _ _ => rfl, fun _ => rfl⟩

theorem candidate_injective : Function.Injective Reference.candidate := by
  intro r r' h
  have horigin := congrArg Candidate.origin h
  exact Origin.reference.inj horigin

theorem Provider.AnswersFrom.unique {q : Provider σ} {rs rs' : List Reference}
    (h : q.AnswersFrom rs) (h' : q.AnswersFrom rs') : rs = rs' :=
  List.map_injective_iff.2 candidate_injective (Option.some.inj (h.current.symm.trans h'.current))

/-! ## 2. Calls and answers -/

/-- How far a call has come that the index gives an answer. -/
inductive Stage.Given (answer : Except Failure (List Reference)) : Stage → Prop
  | waits (told : Option Ending) : Given answer (.waiting (.indexed answer) told)
  | failed (failure : Failure) : Given answer (.ended (.error failure))
  | came {rs : List Reference} (given : answer = .ok rs) :
    Given answer (.ended (.ok (some (rs.map Reference.candidate))))

/-- What is known after the answers to some calls were heard: the one that was heard last. -/
inductive Known (answers : List (Except Failure (List Reference))) (calls heard : List Nat) :
    Option (List Reference) → Prop
  | nothing (unheard : heard = []) : Known answers calls heard none
  | last {n j : Nat} {rs : List Reference} (last : heard.getLast? = some n)
    (called : calls[j]? = some n) (given : answerTo answers j (.ok []) = .ok rs) :
    Known answers calls heard (some rs)

theorem Known.call {answers : List (Except Failure (List Reference))} {calls heard : List Nat}
    {known : Option (List Reference)} (h : Known answers calls heard known) (n : Nat) :
    Known answers (calls ++ [n]) heard known := by
  cases h with
  | nothing hnone => exact .nothing hnone
  | last hlast called given =>
    have hlt := (List.getElem?_eq_some_iff.1 called).1
    exact .last hlast ((List.getElem?_append_left hlt).trans called) given

namespace Panel

variable {i : Nat} {l : ReferenceList} {p p' : Panel σ} {number : Nat} {a : Activity}

/-- Whether an activity asks a provider. -/
def asksFor (p : Panel σ) (i number : Nat) : Bool :=
  (p.activities[number]?).any fun a => a.work.provider? == some i

/-- The activity that asks a provider in a move, if one does. -/
def callIn (p : Panel σ) (i : Nat) : Move → List Nat
  | .happen =>
    match p.nextCall? with
    | some (number, j, _) => if j = i then [number] else []
    | none => []
  | _ => []

variable (library) in
/-- The activities that ask a provider and come back with its candidates in a move. -/
def heardIn (p : Panel σ) (i : Nat) (m : Move) : List Nat :=
  (List.range p.activities.length).filter fun n =>
    p.asksFor i n && (p.broughtBack? n).isNone && ((p.move library m).broughtBack? n).isSome

variable (library) in
/-- The activities that ask a provider in the course of moves, in the order in which they do. -/
def callsTo (i : Nat) (p : Panel σ) : List Move → List Nat
  | [] => []
  | m :: moves => p.callIn i m ++ callsTo i (p.move library m) moves

variable (library) in
/-- The activities that come back from a provider in the course of moves, in the order in which they
do. -/
def heardFrom (i : Nat) (p : Panel σ) : List Move → List Nat
  | [] => []
  | m :: moves => p.heardIn library i m ++ heardFrom i (p.move library m) moves

theorem asksFor_iff (here : p.activities[number]? = some a) :
    p.asksFor i number = true ↔ a.work.provider? = some i := by
  rw [asksFor, here, Option.any_some, beq_iff_eq]

theorem heardIn_eq_nil {m : Move}
    (h : ∀ n, p.asksFor i n = true → ((p.move library m).broughtBack? n).isSome →
      (p.broughtBack? n).isSome) : p.heardIn library i m = [] := by
  refine List.filter_eq_nil_iff.2 fun n _ hcomes => ?_
  simp only [Bool.and_eq_true, Option.isNone_iff_eq_none] at hcomes
  obtain ⟨⟨hasks, hnone⟩, hsome⟩ := hcomes
  have hbefore := h n hasks hsome
  rw [hnone] at hbefore
  cases hbefore

theorem heardIn_eq_singleton {m : Move} (here : p.activities[number]? = some a)
    (asks : a.work.provider? = some i) (before : p.broughtBack? number = none)
    (after : ((p.move library m).broughtBack? number).isSome)
    (h : ∀ n, n ≠ number → p.asksFor i n = true → ((p.move library m).broughtBack? n).isSome →
      (p.broughtBack? n).isSome) : p.heardIn library i m = [number] := by
  have hlt := (List.getElem?_eq_some_iff.1 here).1
  have hsame : p.heardIn library i m = (List.range p.activities.length).filter (· == number) := by
    refine List.filter_congr fun n _ => ?_
    by_cases hn : n = number
    · subst hn
      simp [(asksFor_iff here).2 asks, before, after]
    · rw [beq_eq_false_iff_ne.2 hn]
      simp only [Bool.and_eq_false_iff]
      by_contra hcomes
      simp only [not_or, Bool.not_eq_false, Option.isNone_iff_eq_none] at hcomes
      have hbefore := h n hn hcomes.1.1 hcomes.2
      rw [hcomes.1.2] at hbefore
      cases hbefore
  rw [hsame, List.filter_beq, List.count_eq_one_of_mem List.nodup_range (List.mem_range.2 hlt)]
  rfl

/-! ## 3. What is on record -/

/-- What there is of the calls to an index: the list of references has been asked once for each of
them and keeps what was heard last, and each call comes back with the answer that it was given. -/
structure Recorded (i : Nat) (answers : List (Except Failure (List Reference)))
    (calls heard : List Nat) (p : Panel σ) : Prop where
  list : ∃ l, p.providers[i]? = some (.references l) ∧ l.answers = answers ∧
    l.asked = calls.length ∧ Known answers calls heard l.known
  called : ∀ (j n : Nat), calls[j]? = some n → ∃ a, p.activities[n]? = some a ∧
    a.work.provider? = some i ∧ a.stage.Given (answerTo answers j (.ok []))
  uncalled : ∀ (n : Nat) (a : Activity), p.activities[n]? = some a → a.work.provider? = some i →
    n ∉ calls → a.stage = .fresh ∨ ∃ failure, a.stage = .ended (.error failure)
  callsOnce : calls.Nodup
  heardOnce : heard.Nodup
  heard : ∀ n, n ∈ heard ↔ n ∈ calls ∧ (p.broughtBack? n).isSome

variable {answers : List (Except Failure (List Reference))} {calls heard : List Nat}

theorem recorded_new {gated : Bool}
    (hnew : p.providers[i]? = some (.references { answers, gated })) (hnone : p.activities = []) :
    Recorded i answers [] [] p where
  list := ⟨_, hnew, rfl, rfl, .nothing rfl⟩
  called := fun _ _ h => nomatch h
  uncalled := fun n a here => by
    rw [hnone] at here
    cases here
  callsOnce := .nil
  heardOnce := .nil
  heard := fun n => by simp

/-- Whoever asks the provider has not started, waits with an answer or has ended. -/
theorem Recorded.stage (h : Recorded i answers calls heard p)
    (here : p.activities[number]? = some a) (asks : a.work.provider? = some i) :
    a.stage = .fresh ∨ (∃ answer told, a.stage = .waiting (.indexed answer) told) ∨
      ∃ ending, a.stage = .ended ending := by
  by_cases hcalled : number ∈ calls
  · obtain ⟨j, hj⟩ := List.getElem?_of_mem hcalled
    obtain ⟨b, hb, -, hgiven⟩ := h.called j number hj
    obtain rfl := Option.some.inj (here.symm.trans hb)
    generalize a.stage = stage at hgiven
    cases hgiven with
    | waits told => exact .inr (.inl ⟨_, told, rfl⟩)
    | failed failure => exact .inr (.inr ⟨_, rfl⟩)
    | came => exact .inr (.inr ⟨_, rfl⟩)
  · rcases h.uncalled number a here asks hcalled with hfresh | ⟨failure, hfailed⟩
    · exact .inl hfresh
    · exact .inr (.inr ⟨_, hfailed⟩)

theorem Recorded.not_called_of_fresh (h : Recorded i answers calls heard p)
    (here : p.activities[number]? = some a) (fresh : a.stage = .fresh) : number ∉ calls := by
  intro hcalled
  obtain ⟨j, hj⟩ := List.getElem?_of_mem hcalled
  obtain ⟨b, hb, -, hgiven⟩ := h.called j number hj
  obtain rfl := Option.some.inj (here.symm.trans hb)
  rw [fresh] at hgiven
  cases hgiven

/-- Those who asked the provider before have brought back what they had, and no more. -/
theorem Recorded.broughtBack?_unasked (h : Recorded i answers calls heard p)
    (hrest : Unasked i p p') (here : p.activities[number]? = some a)
    (asks : a.work.provider? = some i) : p'.broughtBack? number = p.broughtBack? number := by
  obtain ⟨a', here', -, hstays⟩ := hrest.stays number a here
  refine broughtBack?_congr here here' ?_
  rcases h.stage here asks with hfresh | ⟨answer, told, hwaits⟩ | ⟨ending, hended⟩
  · rw [hfresh, (hstays asks).fresh hfresh]
  · obtain ⟨told', hwaits'⟩ := (hstays asks).waits _ told rfl hwaits
    rw [hwaits, hwaits']
    rfl
  · rw [hended, (hstays asks).ended ending hended]

/-! ## 4. Moves that leave the provider alone -/

theorem Recorded.unasked (h : Recorded i answers calls heard p) (hrest : Unasked i p p') :
    Recorded i answers calls heard p' where
  list := by
    obtain ⟨l, hl, hsame⟩ := h.list
    exact ⟨l, hrest.provider.trans hl, hsame⟩
  called := fun j n hj => by
    obtain ⟨a, here, asks, hgiven⟩ := h.called j n hj
    obtain ⟨a', here', hwork, hstays⟩ := hrest.stays n a here
    refine ⟨a', here', by rw [hwork, asks], ?_⟩
    generalize hstage : a.stage = stage at hgiven
    cases hgiven with
    | waits told =>
      obtain ⟨told', hwaits⟩ := (hstays asks).waits _ told rfl hstage
      rw [hwaits]
      exact .waits told'
    | failed failure =>
      rw [(hstays asks).ended _ hstage]
      exact .failed failure
    | came given =>
      rw [(hstays asks).ended _ hstage]
      exact .came given
  uncalled := fun n a' here' asks hcalled => by
    by_cases hlt : n < p.activities.length
    · obtain ⟨b, hb, hwork, hstays⟩ := hrest.stays n _ (List.getElem?_eq_getElem hlt)
      obtain rfl := Option.some.inj (here'.symm.trans hb)
      rw [hwork] at asks
      refine (h.uncalled n _ (List.getElem?_eq_getElem hlt) asks hcalled).imp
        (hstays asks).fresh fun ⟨failure, hfailed⟩ => ⟨failure, (hstays asks).ended _ hfailed⟩
    · exact .inl (hrest.fresh n a' here' (Nat.le_of_not_lt hlt) asks)
  callsOnce := h.callsOnce
  heardOnce := h.heardOnce
  heard := fun n => by
    rw [h.heard n]
    refine and_congr_right fun hcalled => ?_
    obtain ⟨j, hj⟩ := List.getElem?_of_mem hcalled
    obtain ⟨a, here, asks, -⟩ := h.called j n hj
    rw [h.broughtBack?_unasked hrest here asks]

theorem Recorded.heardIn_unasked (h : Recorded i answers calls heard p) {m : Move}
    (hrest : Unasked i p (p.move library m)) : p.heardIn library i m = [] := by
  refine heardIn_eq_nil fun n hasks hsome => ?_
  obtain ⟨a, here, hwork⟩ := (Option.any_eq_true _ _).1 hasks
  rwa [h.broughtBack?_unasked hrest here (beq_iff_eq.1 hwork)] at hsome

/-! ## 5. One who asks the provider -/

/-- One who asks the provider comes a step further. -/
structure Advances (i number : Nat) (a : Activity) (l : ReferenceList) (stage : Stage)
    (p p' : Panel σ) : Prop where
  provider : p'.providers[i]? = some (.references l)
  activities : p'.activities = p.activities.set number { a with stage }

section Advances

variable {stage : Stage} (hadv : Advances i number a l stage p p')
  (here : p.activities[number]? = some a)

include hadv here

theorem Advances.self : p'.activities[number]? = some { a with stage } := by
  rw [hadv.activities]
  exact set_here here _

omit here in
theorem Advances.other {n : Nat} (hn : n ≠ number) : p'.activities[n]? = p.activities[n]? := by
  rw [hadv.activities, List.getElem?_set_ne (Ne.symm hn)]

omit here in
theorem Advances.broughtBack?_other {n : Nat} (hn : n ≠ number) :
    p'.broughtBack? n = p.broughtBack? n := by
  unfold broughtBack? activityEnding?
  rw [hadv.other hn]

theorem Advances.cases {n : Nat} {b : Activity} (hb : p'.activities[n]? = some b) :
    n = number ∧ b = { a with stage } ∨ n ≠ number ∧ p.activities[n]? = some b := by
  by_cases hn : n = number
  · subst hn
    exact .inl ⟨rfl, (Option.some.inj ((hadv.self here).symm.trans hb)).symm⟩
  · exact .inr ⟨hn, (hadv.other hn).symm.trans hb⟩

end Advances

/-- A call at which the index has chosen its answer. -/
theorem Recorded.call (h : Recorded i answers calls heard p)
    (here : p.activities[number]? = some a) (asks : a.work.provider? = some i)
    (fresh : a.stage = .fresh) (hl : p.providers[i]? = some (.references l))
    (hadv : Advances i number a l.next.2 (.waiting (.indexed l.next.1) none) p p') :
    Recorded i answers (calls ++ [number]) heard p' := by
  have hnew := h.not_called_of_fresh here fresh
  obtain ⟨l', hl', hanswers, hasked, hknown⟩ := h.list
  obtain rfl := Provider.references.inj (Option.some.inj (hl.symm.trans hl'))
  have hlt : ∀ {j : Nat}, j < calls.length → (calls ++ [number])[j]? = calls[j]? :=
    fun hj => List.getElem?_append_left hj
  have hbefore : p.broughtBack? number = none := broughtBack?_of_goesOn here (by rw [fresh]; rfl)
  have hafter : p'.broughtBack? number = none := broughtBack?_of_goesOn (hadv.self here) rfl
  constructor
  case list =>
    refine ⟨l.next.2, hadv.provider, hanswers, ?_, hknown.call number⟩
    rw [List.length_append, List.length_singleton, ← hasked]
    rfl
  case called =>
    intro j n hj
    by_cases hold : j < calls.length
    · rw [hlt hold] at hj
      obtain ⟨b, hb, hasks, hgiven⟩ := h.called j n hj
      have hn : n ≠ number := fun heq => hnew (heq ▸ List.mem_of_getElem? hj)
      exact ⟨b, (hadv.other hn).trans hb, hasks, hgiven⟩
    · obtain ⟨rfl, rfl⟩ := new_of_append_singleton hj (Nat.le_of_not_lt hold)
      refine ⟨_, hadv.self here, asks, ?_⟩
      -- the list counts its calls, so the answer is the one for this call
      have hgiven : l.next.1 = answerTo answers calls.length (.ok []) := by
        rw [← hanswers, ← hasked]
        rfl
      rw [hgiven]
      exact .waits none
  case uncalled =>
    intro n b hb hasks hcalled
    rcases hadv.cases here hb with ⟨rfl, -⟩ | ⟨-, hb'⟩
    · exact absurd (List.mem_append_right _ (List.mem_singleton_self _)) hcalled
    · exact h.uncalled n b hb' hasks fun hmem => hcalled (List.mem_append_left _ hmem)
  case callsOnce => exact List.concat_eq_append ▸ h.callsOnce.concat hnew
  case heardOnce => exact h.heardOnce
  case heard =>
    intro n
    by_cases hn : n = number
    · subst hn
      rw [h.heard n, hbefore, hafter]
      simp
    · rw [h.heard n, hadv.broughtBack?_other hn, List.mem_append, List.mem_singleton,
        or_iff_left hn]

/-- One that comes back without an answer. -/
theorem Recorded.fail (h : Recorded i answers calls heard p)
    (here : p.activities[number]? = some a) (goesOn : a.stage.ending? = none) {failure : Failure}
    (hl : p.providers[i]? = some (.references l))
    (hadv : Advances i number a l (.ended (.error failure)) p p') :
    Recorded i answers calls heard p' := by
  obtain ⟨l', hl', hlist⟩ := h.list
  obtain rfl := Provider.references.inj (Option.some.inj (hl.symm.trans hl'))
  have hbefore : p.broughtBack? number = none := broughtBack?_of_goesOn here goesOn
  have hafter : p'.broughtBack? number = none := broughtBack?_of_error (hadv.self here) rfl
  constructor
  case list => exact ⟨l, hadv.provider, hlist⟩
  case called =>
    intro j n hj
    obtain ⟨b, hb, hasks, hgiven⟩ := h.called j n hj
    by_cases hn : n = number
    · subst hn
      obtain rfl := Option.some.inj (here.symm.trans hb)
      exact ⟨_, hadv.self here, hasks, .failed failure⟩
    · exact ⟨b, (hadv.other hn).trans hb, hasks, hgiven⟩
  case uncalled =>
    intro n b hb hasks hcalled
    rcases hadv.cases here hb with ⟨-, rfl⟩ | ⟨-, hb'⟩
    · exact .inr ⟨failure, rfl⟩
    · exact h.uncalled n b hb' hasks hcalled
  case callsOnce => exact h.callsOnce
  case heardOnce => exact h.heardOnce
  case heard =>
    intro n
    rw [h.heard n]
    by_cases hn : n = number
    · subst hn
      rw [hbefore, hafter]
    · rw [hadv.broughtBack?_other hn]

/-- An answer that arrives takes the place of what was known. -/
theorem Recorded.hear (h : Recorded i answers calls heard p)
    (here : p.activities[number]? = some a) {j : Nat} (called : calls[j]? = some number)
    {rs : List Reference} {told : Option Ending}
    (waits : a.stage = .waiting (.indexed (.ok rs)) told)
    (hl : p.providers[i]? = some (.references l))
    (hadv : Advances i number a (l.receive rs) (.ended (.ok (some (rs.map Reference.candidate)))) p
      p') :
    Recorded i answers calls (heard ++ [number]) p' := by
  obtain ⟨l', hl', hanswers, hasked, -⟩ := h.list
  obtain rfl := Provider.references.inj (Option.some.inj (hl.symm.trans hl'))
  have hgiven : answerTo answers j (.ok []) = .ok rs := by
    obtain ⟨b, hb, -, hgiven⟩ := h.called j number called
    obtain rfl := Option.some.inj (here.symm.trans hb)
    rw [waits] at hgiven
    generalize answerTo answers j (.ok []) = answer at hgiven
    cases hgiven
    rfl
  have hbefore : p.broughtBack? number = none := broughtBack?_of_goesOn here (by rw [waits]; rfl)
  have hafter : p'.broughtBack? number = some (rs.map Reference.candidate) :=
    broughtBack?_of_ok (hadv.self here) rfl
  have hnew : number ∉ heard := fun hmem => by
    have hsome := ((h.heard number).1 hmem).2
    rw [hbefore] at hsome
    cases hsome
  constructor
  case list =>
    exact ⟨_, hadv.provider, hanswers, hasked, .last List.getLast?_concat called hgiven⟩
  case called =>
    intro k n hk
    obtain ⟨b, hb, hasks, hgiven'⟩ := h.called k n hk
    by_cases hn : n = number
    · subst hn
      obtain rfl := Option.some.inj (here.symm.trans hb)
      -- nobody calls twice, so this is the call that was answered
      obtain rfl : k = j := (List.getElem?_inj (List.getElem?_eq_some_iff.1 hk).1 h.callsOnce).1
        (hk.trans called.symm)
      exact ⟨_, hadv.self here, hasks, .came hgiven⟩
    · exact ⟨b, (hadv.other hn).trans hb, hasks, hgiven'⟩
  case uncalled =>
    intro n b hb hasks hcalled
    rcases hadv.cases here hb with ⟨rfl, -⟩ | ⟨-, hb'⟩
    · exact absurd (List.mem_of_getElem? called) hcalled
    · exact h.uncalled n b hb' hasks hcalled
  case callsOnce => exact h.callsOnce
  case heardOnce => exact List.concat_eq_append ▸ h.heardOnce.concat hnew
  case heard =>
    intro n
    rw [List.mem_append, List.mem_singleton, h.heard n]
    by_cases hn : n = number
    · subst hn
      rw [hafter]
      simp [List.mem_of_getElem? called]
    · rw [hadv.broughtBack?_other hn, or_iff_left hn]

/-! ## 6. What happens next -/

theorem Advances.after {stage before : Stage} (hadv : Advances i number a l stage p p')
    {p₁ : Panel σ} (h : p₁.activities = p.activities.set number { a with stage := before }) :
    Advances i number { a with stage := before } l stage p₁ p' where
  provider := hadv.provider
  activities := by rw [hadv.activities, h, List.set_set]

theorem Advances.heardIn_of_none {stage : Stage} {m : Move}
    (hadv : Advances i number a l stage p (p.move library m))
    (hnone : (p.move library m).broughtBack? number = none) : p.heardIn library i m = [] := by
  refine heardIn_eq_nil fun n _ hsome => ?_
  by_cases hn : n = number
  · rw [hn, hnone] at hsome
    cases hsome
  · rwa [hadv.broughtBack?_other hn] at hsome

theorem Advances.heardIn_of_some {stage : Stage} {m : Move}
    (hadv : Advances i number a l stage p (p.move library m))
    (here : p.activities[number]? = some a) (asks : a.work.provider? = some i)
    (goesOn : a.stage.ending? = none)
    (hsome : ((p.move library m).broughtBack? number).isSome) :
    p.heardIn library i m = [number] :=
  heardIn_eq_singleton here asks (broughtBack?_of_goesOn here goesOn) hsome
    fun n hn _ hback => by rwa [hadv.broughtBack?_other hn] at hback

theorem deliver_activities (here : p.activities[number]? = some a)
    (goesOn : a.stage.ending? = none) (answer : Except Failure (List Candidate)) :
    (p.deliver number answer).activities =
      p.activities.set number { a with stage := .ended (answer.map some) } := by
  unfold deliver
  simp only
  split
  next query provider _ found _ =>
    rw [endActivity_of_goesOn (p := p.receive query provider found) here goesOn]
    rfl
  next => rw [endActivity_of_goesOn here goesOn]

theorem awaitGate_activities (here : p.activities[number]? = some a) (provider : Nat)
    (pause : Pause) :
    (p.awaitGate number provider pause).activities =
      p.activities.set number { a with stage := .waiting pause none } := by
  unfold awaitGate Panel.pause
  rw [setActivity_of_some (p := { p with gates := p.gates ++ [(provider, number)] }) here]

theorem setProvider_self? (q : Provider σ) {r : Provider σ} (h : p.providers[i]? = some r) :
    (p.setProvider i q).providers[i]? = some q := by
  show (p.providers.set i q)[i]? = some q
  rw [List.getElem?_set_self', h]
  rfl

theorem takeIndexed_ok_advances (hl : p.providers[i]? = some (.references l))
    (here : p.activities[number]? = some a) (goesOn : a.stage.ending? = none)
    (rs : List Reference) :
    Advances i number a (l.receive rs) (.ended (.ok (some (rs.map Reference.candidate)))) p
      (p.takeIndexed number i (.ok rs)) := by
  unfold takeIndexed
  simp only [hl]
  constructor
  case provider => rw [deliver_providers, setProvider_self? _ hl]
  case activities =>
    exact deliver_activities (p := p.setProvider i (.references (l.receive rs))) here goesOn _

theorem endActivity_advances (hl : p.providers[i]? = some (.references l))
    (here : p.activities[number]? = some a) (goesOn : a.stage.ending? = none) (ending : Ending) :
    Advances i number a l (.ended ending) p (p.endActivity number ending) where
  provider := by rw [endActivity_providers, hl]
  activities := by rw [endActivity_of_goesOn here goesOn]

theorem takeIndexed_error (failure : Failure) :
    p.takeIndexed number i (.error failure) = p.endActivity number (.error failure) := by
  unfold takeIndexed
  split
  next h => cases h
  next failure' h =>
    cases h
    exact deliver_error failure
  next heq _ => cases heq

theorem askProvider_of_references (hl : p.providers[i]? = some (.references l)) (number : Nat)
    (document : Document) :
    p.askProvider number i document =
      if l.gated then
        (p.setProvider i (.references l.next.2)).awaitGate number i (.indexed l.next.1)
      else (p.setProvider i (.references l.next.2)).takeIndexed number i l.next.1 := by
  unfold askProvider
  simp only [hl]
  rfl

theorem callIn_of_call {document : Document}
    (h : p.nextCall? = some (number, i, document)) : p.callIn i .happen = [number] := by
  unfold callIn
  simp only [h, if_true]

theorem callIn_eq_nil (h : ∀ number document, p.nextCall? ≠ some (number, i, document)) (m : Move) :
    p.callIn i m = [] := by
  unfold callIn
  split
  · split
    next number j document hcall =>
      refine if_neg fun hj => h number document ?_
      rw [hcall, hj]
    next => rfl
  · rfl

theorem nextUp?_of_nextCall? {document : Document}
    (h : p.nextCall? = some (number, i, document)) :
    p.nextUp? = some number ∧ ∃ a, p.activities[number]? = some a ∧
      a.work.provider? = some i := by
  obtain ⟨a, rest, hready, here, hasks, -⟩ := exists_of_nextCall? h
  refine ⟨?_, a, here, Work.provider?_of_asks? hasks⟩
  unfold nextUp?
  rw [hready]

theorem asks?_of_provider? {work : Work} (h : work.provider? = some i) :
    ∃ document, work.asks? = some (i, document) := by
  cases work <;> cases h <;> exact ⟨_, rfl⟩

variable (library) in
/-- The record after the next thing has happened. -/
def RecordedNext (i : Nat) (answers : List (Except Failure (List Reference)))
    (calls heard : List Nat) (p : Panel σ) : Prop :=
  Recorded i answers (calls ++ p.callIn i .happen) (heard ++ p.heardIn library i .happen)
    (p.happen library)

/-- An activity asks the provider: the index chooses its answer, and hands it over at once unless
there is a gate. -/
theorem Recorded.next_call (h : Recorded i answers calls heard p) {document : Document}
    (hcall : p.nextCall? = some (number, i, document)) :
    RecordedNext library i answers calls heard p := by
  obtain ⟨a, rest, -, here, hasks, fresh, -, hhappen⟩ := happen_of_call library hcall
  obtain ⟨l, hl, -⟩ := h.list
  have asks := Work.provider?_of_asks? hasks
  have goesOn : a.stage.ending? = none := by rw [fresh]; rfl
  let waits : Stage := .waiting (.indexed l.next.1) none
  let asked : Panel σ := { p with ready := rest }.setProvider i (.references l.next.2)
  have hasked : asked.providers[i]? = some (.references l.next.2) := setProvider_self? _ hl
  have hnext := askProvider_of_references (p := { p with ready := rest }) hl number document
  unfold RecordedNext
  rw [callIn_of_call hcall]
  rw [← hhappen] at hnext
  split at hnext
  next =>
    have hadv : Advances i number a l.next.2 waits p (p.happen library) := by
      rw [hnext]
      exact ⟨hasked, awaitGate_activities (p := asked) here i _⟩
    have hnone := broughtBack?_of_goesOn (hadv.self here) rfl
    rw [Advances.heardIn_of_none (m := .happen) hadv hnone, List.append_nil]
    exact h.call here asks fresh hl hadv
  next =>
    -- the answer is chosen first, and taken then
    let chosen : Panel σ :=
      { asked with activities := p.activities.set number { a with stage := waits } }
    have hchosen : Recorded i answers (calls ++ [number]) heard chosen :=
      h.call here asks fresh hl ⟨hasked, rfl⟩
    have hwaits : chosen.activities[number]? = some { a with stage := waits } := set_here here _
    have hnumber : (calls ++ [number])[calls.length]? = some number := List.getElem?_concat_length
    cases hanswer : l.next.1 with
    | ok rs =>
      have hadv := takeIndexed_ok_advances (p := asked) hasked here goesOn rs
      rw [← hanswer, ← hnext] at hadv
      have hfrom : Advances i number a _ _ p (p.happen library) := ⟨hadv.provider, hadv.activities⟩
      have hsome := broughtBack?_of_ok (hfrom.self here) rfl
      rw [Advances.heardIn_of_some (m := .happen) hfrom here asks goesOn
        (Option.isSome_iff_exists.2 ⟨_, hsome⟩)]
      have hstage : waits = .waiting (.indexed (.ok rs)) none := by rw [← hanswer]
      exact hchosen.hear hwaits hnumber hstage hasked (hadv.after rfl)
    | error failure =>
      have hadv := endActivity_advances (p := asked) hasked here goesOn (.error failure)
      rw [← takeIndexed_error (i := i), ← hanswer, ← hnext] at hadv
      have hfrom : Advances i number a _ _ p (p.happen library) := ⟨hadv.provider, hadv.activities⟩
      have hnone := broughtBack?_of_error (hfrom.self here) rfl
      rw [Advances.heardIn_of_none (m := .happen) hfrom hnone, List.append_nil]
      exact hchosen.fail hwaits rfl hasked (hadv.after rfl)

/-- One who asks the provider ends without an answer. -/
theorem Recorded.next_fail (h : Recorded i answers calls heard p) {rest : List Reaction}
    (hcall : ∀ number document, p.nextCall? ≠ some (number, i, document))
    (here : p.activities[number]? = some a) (goesOn : a.stage.ending? = none) {failure : Failure}
    (hhappen : p.happen library =
      { p with ready := rest }.endActivity number (.error failure)) :
    RecordedNext library i answers calls heard p := by
  obtain ⟨l, hl, -⟩ := h.list
  have hadv := endActivity_advances (p := { p with ready := rest }) hl here goesOn (.error failure)
  rw [← hhappen] at hadv
  have hfrom : Advances i number a _ _ p (p.happen library) := ⟨hadv.provider, hadv.activities⟩
  have hnone := broughtBack?_of_error (hfrom.self here) rfl
  unfold RecordedNext
  rw [callIn_eq_nil hcall, Advances.heardIn_of_none (m := .happen) hfrom hnone, List.append_nil,
    List.append_nil]
  exact h.fail here goesOn hl hfrom

/-- One who waits for an answer is told that it may go on. -/
theorem Recorded.next_answer (h : Recorded i answers calls heard p) {rest : List Reaction}
    (hcall : ∀ number document, p.nextCall? ≠ some (number, i, document))
    (here : p.activities[number]? = some a) (asks : a.work.provider? = some i)
    {answer : Except Failure (List Reference)} {told : Option Ending}
    (waits : a.stage = .waiting (.indexed answer) told)
    (hhappen : p.happen library = { p with ready := rest }.takeIndexed number i answer) :
    RecordedNext library i answers calls heard p := by
  have goesOn : a.stage.ending? = none := by rw [waits]; rfl
  cases answer with
  | error failure =>
    rw [takeIndexed_error] at hhappen
    exact h.next_fail hcall here goesOn hhappen
  | ok rs =>
    obtain ⟨l, hl, -⟩ := h.list
    have hadv := takeIndexed_ok_advances (p := { p with ready := rest }) hl here goesOn rs
    rw [← hhappen] at hadv
    have hfrom : Advances i number a _ _ p (p.happen library) := ⟨hadv.provider, hadv.activities⟩
    have hsome := broughtBack?_of_ok (hfrom.self here) rfl
    -- whoever waits with an answer has called
    have hcalled : number ∈ calls := by
      by_contra hmem
      rcases h.uncalled number a here asks hmem with hfresh | ⟨failure, hfailed⟩
      · rw [waits] at hfresh
        cases hfresh
      · rw [waits] at hfailed
        cases hfailed
    obtain ⟨j, hj⟩ := List.getElem?_of_mem hcalled
    unfold RecordedNext
    rw [callIn_eq_nil hcall, List.append_nil, Advances.heardIn_of_some (m := .happen) hfrom here
      asks goesOn (Option.isSome_iff_exists.2 ⟨_, hsome⟩)]
    exact h.hear here hj waits hl hfrom

theorem Recorded.next_rest (h : Recorded i answers calls heard p)
    (hcall : ∀ number document, p.nextCall? ≠ some (number, i, document))
    (hrest : Unasked i p (p.happen library)) : RecordedNext library i answers calls heard p := by
  unfold RecordedNext
  rw [callIn_eq_nil hcall, h.heardIn_unasked (m := .happen) hrest, List.append_nil,
    List.append_nil]
  exact h.unasked hrest

theorem happen_of_same {reaction : Reaction} {rest : List Reaction}
    (hready : p.ready = reaction :: rest)
    (hsame : ({ p with ready := rest } : Panel σ).react library reaction =
      { p with ready := rest }) :
    Unasked i p (p.happen library) := by
  rw [happen_of_cons hready, hsame]
  exact .aside rfl rfl

theorem resume_of_asks {pause : Pause} {work : Work} (h : work.provider? = some i) :
    p.resume library work pause number = p.hear i pause number := by
  cases work <;> cases h <;> rfl

theorem giveUp_of_asks {work : Work} (h : work.provider? = some i) (failure : Failure) :
    p.giveUp work number failure = p.endActivity number (.error failure) := by
  cases work <;> cases h <;> rfl

theorem Recorded.next_goOn (h : Recorded i answers calls heard p) {rest : List Reaction}
    (hready : p.ready = .goOn number :: rest)
    (here : p.activities[number]? = some a) (asks : a.work.provider? = some i) :
    RecordedNext library i answers calls heard p := by
  have hhappen : p.happen library = { p with ready := rest }.goOn library number :=
    happen_of_cons hready
  have hcall : ∀ number document, p.nextCall? ≠ some (number, i, document) := by
    intro n document hcall
    obtain ⟨_, _, hstart, -⟩ := exists_of_nextCall? hcall
    rw [hready] at hstart
    cases hstart
  -- one that was told nothing does not go on
  have hidle : (∀ pause told, a.stage ≠ .waiting pause (some told)) →
      RecordedNext library i answers calls heard p := by
    intro hnot
    refine h.next_rest hcall (happen_of_same hready (goOn_of_not_told fun b pause told hb => ?_))
    obtain rfl := Option.some.inj (here.symm.trans hb)
    exact hnot pause told
  rcases h.stage here asks with hfresh | ⟨answer, told, hwaits⟩ | ⟨ending, hended⟩
  · exact hidle fun pause told heq => by rw [hfresh] at heq; cases heq
  · cases told with
    | none => exact hidle fun pause told heq => by rw [hwaits] at heq; cases heq
    | some told =>
      have goesOn : a.stage.ending? = none := by rw [hwaits]; rfl
      cases hcancel : a.cancelAsked with
      | true =>
        rw [goOn_of_cancelled (p := { p with ready := rest }) here hwaits hcancel,
          giveUp_of_asks asks] at hhappen
        exact h.next_fail hcall here goesOn hhappen
      | false =>
        cases told with
        | error failure =>
          rw [goOn_of_error (p := { p with ready := rest }) here hwaits hcancel,
            giveUp_of_asks asks] at hhappen
          exact h.next_fail hcall here goesOn hhappen
        | ok found =>
          rw [goOn_of_ok (p := { p with ready := rest }) here hwaits hcancel,
            resume_of_asks asks] at hhappen
          exact h.next_answer hcall here asks hwaits hhappen
  · exact hidle fun pause told heq => by rw [hended] at heq; cases heq

theorem Recorded.next_start (h : Recorded i answers calls heard p) {rest : List Reaction}
    (hready : p.ready = .start number :: rest)
    (here : p.activities[number]? = some a) (asks : a.work.provider? = some i) :
    RecordedNext library i answers calls heard p := by
  have hhappen : p.happen library = { p with ready := rest }.startActivity library number :=
    happen_of_cons hready
  -- no call is made for an activity that has started or is cancelled before
  have hcall : a.stage ≠ .fresh ∨ a.cancelAsked = true →
      ∀ number document, p.nextCall? ≠ some (number, i, document) := by
    intro hnot n document hcall
    obtain ⟨b, _, hstart, hb, -, hfresh, hwanted⟩ := exists_of_nextCall? hcall
    obtain ⟨rfl, -⟩ := List.cons.inj (hready.symm.trans hstart) |>.imp_left Reaction.start.inj
    obtain rfl := Option.some.inj (here.symm.trans hb)
    rcases hnot with hnot | hcancel
    · exact hnot hfresh
    · rw [hwanted] at hcancel
      cases hcancel
  by_cases hfresh : a.stage = .fresh
  · cases hcancel : a.cancelAsked with
    | true =>
      rw [startActivity_of_cancelled (p := { p with ready := rest }) here hfresh hcancel,
        giveUp_of_asks asks] at hhappen
      exact h.next_fail (hcall (.inr hcancel)) here (by rw [hfresh]; rfl) hhappen
    | false =>
      obtain ⟨document, hasks⟩ := asks?_of_provider? asks
      exact h.next_call (nextCall?_of_start hready here hfresh hcancel hasks)
  · refine h.next_rest (hcall (.inl hfresh)) (happen_of_same hready
      (startActivity_of_not_fresh fun b hb => ?_))
    obtain rfl := Option.some.inj (here.symm.trans hb)
    exact hfresh

/-! ## 7. Courses -/

theorem callIn_of_ne {m : Move} (h : m ≠ .happen) : p.callIn i m = [] := by
  cases m with
  | happen => exact absurd rfl h
  | _ => rfl

theorem Recorded.move (h : Recorded i answers calls heard p) (m : Move) :
    Recorded i answers (calls ++ p.callIn i m) (heard ++ p.heardIn library i m)
      (p.move library m) := by
  obtain ⟨l, hl, -⟩ := h.list
  -- either it is the turn of one who asks the provider, or the provider is left alone
  by_cases hown : m = .happen ∧ ∃ number a, p.nextUp? = some number ∧
      p.activities[number]? = some a ∧ a.work.provider? = some i
  · obtain ⟨rfl, number, a, hnext, here, asks⟩ := hown
    unfold nextUp? at hnext
    split at hnext
    next n rest hready =>
      obtain rfl := Option.some.inj hnext
      exact h.next_start hready here asks
    next n rest hready =>
      obtain rfl := Option.some.inj hnext
      exact h.next_goOn hready here asks
    next => cases hnext
  · have hrest : Unasked i p (p.move library m) := by
      refine move_unasked library hl m fun hm number a hnext here asks => hown ?_
      exact ⟨hm, number, a, hnext, here, asks⟩
    have hnone : p.callIn i m = [] := by
      by_cases hm : m = .happen
      · refine callIn_eq_nil (fun number document hcall => hown ⟨hm, number, ?_⟩) m
        obtain ⟨hnext, a, here, asks⟩ := nextUp?_of_nextCall? hcall
        exact ⟨a, hnext, here, asks⟩
      · exact callIn_of_ne hm
    rw [hnone, h.heardIn_unasked hrest, List.append_nil, List.append_nil]
    exact h.unasked hrest

variable (library) in
theorem Recorded.course (h : Recorded i answers calls heard p) (moves : List Move) :
    Recorded i answers (calls ++ p.callsTo library i moves) (heard ++ p.heardFrom library i moves)
      (p.course library moves) := by
  induction moves generalizing p calls heard with
  | nil =>
    rw [callsTo, heardFrom, List.append_nil, List.append_nil]
    exact h
  | cons m moves ih =>
    rw [callsTo, heardFrom, ← List.append_assoc, ← List.append_assoc]
    exact ih (h.move m)

/-! ## 8. What is known in the end -/

/-- What is shown of a provider of a panel is what a list of references says. -/
def AnswersFrom (p : Panel σ) (i : Nat) (rs : List Reference) : Prop :=
  ∃ q, p.providers[i]? = some q ∧ q.AnswersFrom rs

theorem AnswersFrom.unique {rs rs' : List Reference} (h : p.AnswersFrom i rs)
    (h' : p.AnswersFrom i rs') : rs = rs' := by
  obtain ⟨q, hq, hfrom⟩ := h
  obtain ⟨q', hq', hfrom'⟩ := h'
  obtain rfl := Option.some.inj (hq.symm.trans hq')
  exact hfrom.unique hfrom'

/-- What becomes of calls to an index, some of which were heard in that order. -/
structure KeepsLast (i : Nat) (answers : List (Except Failure (List Reference)))
    (calls heard : List Nat) (p : Panel σ) : Prop where
  /-- Every call that brings something back brings what the index gave to it. -/
  brings : ∀ (j n : Nat) (found : List Candidate), calls[j]? = some n →
    p.broughtBack? n = some found →
      ∃ rs, answerTo answers j (.ok []) = .ok rs ∧ found = rs.map Reference.candidate
  distinct : calls.Nodup ∧ heard.Nodup
  /-- Those that were heard are the calls that have brought something back. -/
  returned : ∀ n, n ∈ heard ↔ n ∈ calls ∧ (p.broughtBack? n).isSome
  nothing : heard = [] → ∀ q, p.providers[i]? = some q → q.current = none
  /-- The provider answers from what the call was given that was heard last. -/
  last : ∀ (n j : Nat) (rs : List Reference), heard.getLast? = some n → calls[j]? = some n →
    answerTo answers j (.ok []) = .ok rs → p.AnswersFrom i rs
  /-- When all calls have succeeded, that is the list that the last call was given exactly if the
  call that was heard last was given the same list. -/
  finished : calls ≠ [] → (∀ n ∈ calls, (p.broughtBack? n).isSome) →
    ∃ n j, heard.getLast? = some n ∧ calls[j]? = some n ∧
      ∀ rs, answerTo answers (calls.length - 1) (.ok []) = .ok rs →
        (p.AnswersFrom i rs ↔ answerTo answers j (.ok []) = .ok rs)

theorem Recorded.brings (h : Recorded i answers calls heard p) {j n : Nat}
    {found : List Candidate} (called : calls[j]? = some n)
    (hfound : p.broughtBack? n = some found) :
    ∃ rs, answerTo answers j (.ok []) = .ok rs ∧ found = rs.map Reference.candidate := by
  obtain ⟨a, here, -, hgiven⟩ := h.called j n called
  generalize hstage : a.stage = stage at hgiven
  cases hgiven with
  | waits told =>
    rw [broughtBack?_of_goesOn here (by rw [hstage]; rfl)] at hfound
    cases hfound
  | failed failure =>
    rw [broughtBack?_of_error here hstage] at hfound
    cases hfound
  | came given =>
    rw [broughtBack?_of_ok here hstage] at hfound
    exact ⟨_, given, (Option.some.inj hfound).symm⟩

theorem Recorded.last (h : Recorded i answers calls heard p) {n j : Nat} {rs : List Reference}
    (hlast : heard.getLast? = some n) (called : calls[j]? = some n)
    (given : answerTo answers j (.ok []) = .ok rs) : p.AnswersFrom i rs := by
  obtain ⟨l, hl, -, -, hknown⟩ := h.list
  refine ⟨_, hl, ReferenceList.answersFrom ?_⟩
  generalize l.known = known at hknown
  cases hknown with
  | nothing hnone =>
    rw [hnone] at hlast
    cases hlast
  | last hlast' called' given' =>
    obtain rfl := Option.some.inj (hlast.symm.trans hlast')
    obtain rfl := (List.getElem?_inj (List.getElem?_eq_some_iff.1 called).1 h.callsOnce).1
      (called.trans called'.symm)
    rw [Except.ok.inj (given'.symm.trans given)]

theorem Recorded.keepsLast (h : Recorded i answers calls heard p) :
    KeepsLast i answers calls heard p where
  brings := fun _ _ _ => h.brings
  distinct := ⟨h.callsOnce, h.heardOnce⟩
  returned := h.heard
  nothing := fun hnone q hq => by
    obtain ⟨l, hl, -, -, hknown⟩ := h.list
    obtain rfl := Option.some.inj (hq.symm.trans hl)
    generalize hsame : l.known = known at hknown
    cases hknown with
    | nothing => simp [Provider.current, ReferenceList.currentCandidates, hsame]
    | last hlast =>
      rw [hnone] at hlast
      cases hlast
  last := fun _ _ _ => h.last
  finished := fun hsome hall => by
    -- all have come back, so one of them was heard last
    obtain ⟨first, hfirst⟩ := List.exists_mem_of_ne_nil _ hsome
    have hheard : heard ≠ [] := List.ne_nil_of_mem ((h.heard first).2 ⟨hfirst, hall first hfirst⟩)
    have hlast := List.getLast?_eq_getLast_of_ne_nil hheard
    obtain ⟨hcalled, hback⟩ := (h.heard _).1 (List.getLast_mem hheard)
    obtain ⟨j, hj⟩ := List.getElem?_of_mem hcalled
    obtain ⟨found, hfound⟩ := Option.isSome_iff_exists.1 hback
    obtain ⟨rs', hgiven, -⟩ := h.brings hj hfound
    refine ⟨_, j, hlast, hj, fun rs _ => ⟨fun hfrom => ?_, h.last hlast hj⟩⟩
    rw [hgiven, hfrom.unique (h.last hlast hj hgiven)]

/-- Whatever is done with a panel, its references are those of the call that was heard last, and not
of the call that was started last: the answer to an older call that arrives late takes the place of
a newer one. -/
theorem references_are_those_heard_last (library : RemoteLibrary σ) (providers : List (Provider σ))
    (limit : Option Int) (i : Nat) (answers : List (Except Failure (List Reference)))
    (gated : Bool) (hnew : providers[i]? = some (.references { answers, gated }))
    (moves : List Move) :
    KeepsLast i answers ((ofProviders providers limit).callsTo library i moves)
      ((ofProviders providers limit).heardFrom library i moves)
      ((ofProviders providers limit).course library moves) := by
  have hrecorded : Recorded i answers [] [] (ofProviders providers limit) :=
    recorded_new hnew rfl
  exact (hrecorded.course library moves).keepsLast

/-- A figure of a document. -/
def figure (name : String) : Reference := { kind := "fig", name, title := "Figure" }

/-- An index that has found one figure at first and another one later, and answers when a gate is
opened. -/
def gatedIndex : Panel Script :=
  ofProviders [.references { answers := [.ok [figure "one"], .ok [figure "two"]], gated := true }]
    none

/-- The answer to the second of two calls arrives first. -/
def overtaking : List Move :=
  [.bringUpToDate 0 {}, .happen, .bringUpToDate 0 {}, .happen, .release 0 .last, .happen,
    .release 0 .first, .happen]

/-- Then the references are those of the first call. -/
theorem references_are_those_heard_last_overtaking :
    gatedIndex.providers[0]? = some (.references
        { answers := [.ok [figure "one"], .ok [figure "two"]], gated := true }) ∧
      (gatedIndex.course Script.library overtaking).AnswersFrom 0 [figure "one"] :=
  ⟨rfl, (references_are_those_heard_last Script.library gatedIndex.providers none 0 _ true rfl
    overtaking).last 0 0 [figure "one"] rfl rfl rfl⟩

/-- Both calls have come back, and the list of the second one is lost. -/
theorem late_answer_overwrites_newer_one :
    ((gatedIndex.course Script.library overtaking).broughtBack? 0).isSome ∧
      ((gatedIndex.course Script.library overtaking).broughtBack? 1).isSome ∧
      gatedIndex.callsTo Script.library 0 overtaking = [0, 1] ∧
      ¬(gatedIndex.course Script.library overtaking).AnswersFrom 0 [figure "two"] := by
  refine ⟨rfl, rfl, rfl, ?_⟩
  rintro ⟨q, hq, hfrom⟩
  obtain rfl := Option.some.inj hq
  have hexact := Except.ok.inj (hfrom.exact "fig-two")
  revert hexact
  decide

end Panel

end CiteSync.Completion
