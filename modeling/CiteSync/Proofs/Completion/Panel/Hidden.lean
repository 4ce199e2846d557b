import CiteSync.Proofs.Completion.Panel.Outlines

/-!
# What happens out of sight of bibliographies

Whatever is done by one who does not matter to any bibliography leaves a panel that is alike, and so
does cancelling those who wait for a load: from then on they do not matter.
-/

namespace CiteSync.Completion

open Remote

variable {σ : Type} {library : RemoteLibrary σ} {shelf : Nat → Bool} {gone : List Nat}

/-! ## 1. Roles and places -/

theorem askerRole_isPlain (i : Nat) (document : Document) :
    (askerRole shelf i document).isPlain = !shelf i := by
  unfold askerRole
  cases shelf i <;> rfl

theorem elsewhere_of_isPlain {work : Work} {i : Nat} (h : (work.role shelf).isPlain = true)
    (hplace : work.place? = some i) : shelf i = false := by
  cases work with
  | query | wait => cases hplace
  | entries j document | refresh _ j document =>
    obtain rfl := Option.some.inj hplace
    simpa [Work.role, askerRole_isPlain] using h
  | load j l =>
    obtain rfl := Option.some.inj hplace
    cases hi : shelf j with
    | false => rfl
    | true => simp [Work.role, hi, Role.isPlain, Role.isLoad] at h

theorem asks_of_isAsker {work : Work} (h : (work.role shelf).isAsker = true) :
    ∃ i document, work.asks? = some (i, document) ∧ work.role shelf = .asker i document ∧
      shelf i = true := by
  cases work with
  | query | wait => cases h
  | entries j document | refresh _ j document =>
    refine ⟨j, document, rfl, ?_⟩
    cases hj : shelf j with
    | true => simp [Work.role, askerRole, hj]
    | false => simp [Work.role, askerRole, hj, Role.isAsker] at h
  | load j l =>
    cases hj : shelf j <;> simp [Work.role, hj, Role.isAsker] at h

namespace Panel

variable {p p' : Panel σ} {number provider : Nat} {a : Activity}

/-! ## 2. Ending -/

theorem ended_of_endActivity {ending : Ending} {a' : Activity}
    (here' : (p.endActivity number ending).activities[number]? = some a') :
    ∃ ended, a'.stage = .ended ended := by
  cases here : p.activities[number]? with
  | none =>
    have hsame : p.endActivity number ending = p := by
      unfold endActivity
      rw [here]
    rw [hsame, here] at here'
    cases here'
  | some a =>
    cases hending : a.stage.ending? with
    | some ended =>
      rw [endActivity_of_ended here (by rw [hending]; rfl), here] at here'
      obtain rfl := Option.some.inj here'
      refine ended_of_ending? (p := p) ?_ here
      rw [activityEnding?, here, Option.bind_some, hending]
      rfl
    | none =>
      rw [endActivity_of_goesOn here hending] at here'
      obtain rfl := Option.some.inj ((set_here here _).symm.trans here')
      exact ⟨ending, rfl⟩

theorem endActivity_gates (ending : Ending) : (p.endActivity number ending).gates = p.gates := by
  unfold endActivity
  split
  · split <;> rfl
  · rfl

section Hidden

variable (tidy : Tidy shelf gone p) (here : p.activities[number]? = some a)
  (hidden : (a.work.role shelf).seen gone number = false)
  (query : (a.work.role shelf).isQuery = true → a.stage ≠ .fresh)

include tidy here hidden query

theorem Tidy.hides_endActivity (ending : Ending) :
    Hides shelf gone p (p.endActivity number ending) := by
  have htouches : Touches number p.providers.length p (p.endActivity number ending) :=
    endActivity_touches ending
  refine tidy.hides_touches htouches (fun i => ?_) tidy.outside here hidden query
    (.inr ⟨endActivity_gates ending, fun a' pause told here' hwaits => ?_⟩)
  · rw [bibliography?, bibliography?, endActivity_providers]
  · obtain ⟨ended, hended⟩ := ended_of_endActivity here'
    rw [hwaits] at hended
    cases hended

theorem Tidy.hides_deliver (answer : Except Failure (List Candidate)) :
    Hides shelf gone p (p.deliver number answer) := by
  unfold deliver
  simp only
  split
  next q i _ found _ =>
    have hreceived : Hides shelf gone p (p.receive q i found) := tidy.hides_same rfl rfl rfl rfl
    exact hreceived.trans (hreceived.tidy.hides_endActivity here hidden query _)
  next => exact tidy.hides_endActivity here hidden query _

end Hidden

/-! ## 3. Going on -/

/-- One that has nothing to do with loads is about no bibliography. -/
theorem Tidy.place (tidy : Tidy shelf gone p) {work : Work}
    (plain : (work.role shelf).isPlain = true) :
    ∃ i, (∀ j, work.place? = some j → j = i) ∧ shelf i = false := by
  cases hplace : work.place? with
  | none => exact ⟨p.providers.length, fun _ h => (nomatch h), tidy.outside⟩
  | some i => exact ⟨i, fun _ h => (Option.some.inj h).symm, elsewhere_of_isPlain plain hplace⟩

theorem Tidy.hides_goOn_plain (library : RemoteLibrary σ) (tidy : Tidy shelf gone p)
    (here : p.activities[number]? = some a) (plain : (a.work.role shelf).isPlain = true) :
    Hides shelf gone p (p.goOn library number) := by
  have hidden := Role.seen_of_isPlain plain gone number
  by_cases hfresh : a.stage = .fresh
  · -- it has not started, so there is nothing to go on with
    have hsame : p.goOn library number = p := goOn_of_not_told fun b pause told hb => by
      obtain rfl := Option.some.inj (here.symm.trans hb)
      rw [hfresh]
      exact nofun
    rw [hsame]
    exact .refl tidy
  · obtain ⟨i, hplace, helse⟩ := tidy.place plain
    have hturned : Turned library (fun _ => False) (fun _ => False) p (p.goOn library number) :=
      goOn_turned
    have htouches : Touches number i p (p.goOn library number) := goOn_touches here hplace
    exact tidy.hides_touches htouches hturned.bibliography?_isSome helse here hidden
      (fun _ => hfresh) (.inl plain)

/-- Only loads of a bibliography hear of being given up. -/
theorem Tidy.giveUp_eq (tidy : Tidy shelf gone p) {work : Work}
    (free : (work.role shelf).isLoad = false) (number : Nat) (failure : Failure) :
    p.giveUp work number failure = p.endActivity number (.error failure) := by
  cases work with
  | query | entries | refresh | wait => rfl
  | load i l =>
    have hnone : p.bibliography? i = none := by
      rw [← Option.not_isSome_iff_eq_none, tidy.shelves]
      intro hshelf
      rw [Work.role, if_pos hshelf] at free
      cases free
    show (p.amend i (·.cancelLoad l)).endActivity number (.error failure) = _
    rw [amend_of_none hnone]

/-- Whoever has waited for a load takes what the bibliography has then. -/
theorem resume_joined {work : Work} {i : Nat} {document : Document}
    (hasks : work.asks? = some (i, document)) :
    p.resume library work .joined number = p.takeLoaded number i := by
  cases work <;> cases hasks <;> rfl

/-- One that asked for a bibliography and is gone takes what there is, or nothing. -/
theorem Tidy.hides_goOn_gone (tidy : Tidy shelf gone p) (here : p.activities[number]? = some a)
    (asks : (a.work.role shelf).isAsker = true)
    (hidden : (a.work.role shelf).seen gone number = false) :
    Hides shelf gone p (p.goOn library number) := by
  obtain ⟨i, document, hasks, hrole, -⟩ := asks_of_isAsker asks
  have free : (a.work.role shelf).isLoad = false := Role.isLoad_of_isAsker asks
  -- it may have waited for a load only, and then it reads what the bibliography has
  have query : (a.work.role shelf).isQuery = true → a.stage ≠ .fresh := by
    rw [hrole]
    exact fun h => nomatch h
  by_cases htold : ∃ pause told, a.stage = .waiting pause (some told)
  · obtain ⟨pause, told, hwaits⟩ := htold
    have hpause := tidy.awaits number a pause _ here hwaits
    rw [hrole] at hpause
    obtain rfl : pause = .joined := hpause
    cases hcancel : a.cancelAsked with
    | true =>
      rw [goOn_of_cancelled here hwaits hcancel, tidy.giveUp_eq free]
      exact tidy.hides_endActivity here hidden query _
    | false =>
      cases told with
      | error failure =>
        rw [goOn_of_error here hwaits hcancel, tidy.giveUp_eq free]
        exact tidy.hides_endActivity here hidden query _
      | ok found =>
        rw [goOn_of_ok here hwaits hcancel, resume_joined hasks]
        unfold takeLoaded
        split
        · exact tidy.hides_deliver here hidden query _
        · exact .refl tidy
  · have hsame : p.goOn library number = p := goOn_of_not_told fun b pause told hb heq => by
      obtain rfl := Option.some.inj (here.symm.trans hb)
      exact htold ⟨pause, told, heq⟩
    rw [hsame]
    exact .refl tidy

theorem Tidy.hides_goOn (library : RemoteLibrary σ) (tidy : Tidy shelf gone p)
    (hdue : p.due shelf gone (.goOn number) = false) :
    Hides shelf gone p (p.goOn library number) := by
  cases here : p.activities[number]? with
  | none =>
    rw [due, role?, here] at hdue
    cases hdue
  | some a =>
    have hidden := hidden_of_not_due hdue here
    cases hplain : (a.work.role shelf).isPlain with
    | true => exact tidy.hides_goOn_plain library here hplain
    | false =>
      refine tidy.hides_goOn_gone here ?_ hidden
      cases hrole : a.work.role shelf with
      | asker => rfl
      | load => rw [hrole] at hidden; cases hidden
      | query | aside => rw [hrole] at hplain; cases hplain

/-! ## 4. Starting -/

theorem startActivity_turned (library : RemoteLibrary σ) (p : Panel σ) (number : Nat) :
    Turned library (fun _ => True) (fun _ => False) p (p.startActivity library number) := by
  unfold startActivity
  split
  next work cancelAsked reactions hfresh =>
    cases cancelAsked with
    | true => exact giveUp_turned _ _
    | false => exact begin_turned (a := ⟨work, .fresh, false, reactions⟩) fun _ _ _ => trivial
  next => exact .of_providers rfl

theorem Tidy.start_touches (library : RemoteLibrary σ) (tidy : Tidy shelf gone p)
    (here : p.activities[number]? = some a)
    (aside : a.work.role shelf = .aside) :
    ∃ i, shelf i = false ∧ Touches number i p (p.startActivity library number) := by
  have plain : (a.work.role shelf).isPlain = true := by rw [aside]; rfl
  have hquery : ∀ q token document, a.work ≠ .query q token document := by
    intro q token document h
    rw [h] at aside
    cases aside
  have hasks : ∀ i document b, a.work.asks? = some (i, document) →
      p.providers[i]? ≠ some (.bibliography b) := by
    intro i document b hasks hb
    have hplace : a.work.place? = some i := by
      cases hwork : a.work <;> rw [hwork] at hasks <;> cases hasks <;> rfl
    have hshelf := tidy.shelves i
    rw [bibliography?_eq_some.2 hb, elsewhere_of_isPlain plain hplace] at hshelf
    cases hshelf
  obtain ⟨i, hplace, helse⟩ := tidy.place plain
  exact ⟨i, helse, startActivity_touches here (fun _ _ => hquery) hplace fun _ _ => hasks⟩

theorem Tidy.hides_start (tidy : Tidy shelf gone p) (here : p.activities[number]? = some a)
    (aside : a.work.role shelf = .aside) :
    Hides shelf gone p (p.startActivity library number) := by
  have plain : (a.work.role shelf).isPlain = true := by rw [aside]; rfl
  have query : (a.work.role shelf).isQuery = true → a.stage ≠ .fresh := by
    rw [aside]
    exact fun h => nomatch h
  obtain ⟨i, helse, htouches⟩ := tidy.start_touches library here aside
  exact tidy.hides_touches htouches (startActivity_turned library p number).bibliography?_isSome
    helse here (Role.seen_of_isPlain plain gone number) query (.inl plain)

/-! ## 5. Whatever is not due -/

theorem Tidy.not_due_of_mem (tidy : Tidy shelf gone p) (hgone : number ∈ gone) :
    p.due shelf gone (.goOn number) = false := by
  obtain ⟨a, here, -, hasker⟩ := tidy.left number hgone
  exact not_due_of_hidden here (Role.seen_of_gone (Role.isLoad_of_isAsker hasker) hgone)

theorem Tidy.hides_react (tidy : Tidy shelf gone p) {r : Reaction}
    (hdue : p.due shelf gone r = false) : Hides shelf gone p (p.react library r) := by
  cases r with
  | start n => cases hdue
  | goOn n => exact tidy.hides_goOn library hdue
  | noteRefresh n => exact tidy.hides_noteRefresh
  | count gatherer activity => exact tidy.hides_count activity
  | passOn waiting load =>
    have hgone : waiting ∈ gone := by simpa [due] using hdue
    show Hides shelf gone p (p.passOn waiting load)
    unfold passOn
    split
    · exact tidy.hides_tell (tidy.not_due_of_mem hgone) _ _
    · exact .refl tidy

/-! ## 6. Looking -/

theorem Tidy.hides_looked (tidy : Tidy shelf gone p)
    (h : List.Forall₂ Provider.Looked p.providers p'.providers)
    (activities : p'.activities = p.activities) (gates : p'.gates = p.gates)
    (ready : p'.ready = p.ready) : Hides shelf gone p p' := by
  refine tidy.hides (fun i => ?_) h.length_eq.symm (by rw [activities])
    (fun n a here => ⟨a, by rw [activities, here], tidy.rests here⟩) (by rw [gates])
    (fun gate hgate => tidy.gates gate (gates ▸ hgate))
    ⟨[], by rw [ready, List.append_nil], fun _ h => nomatch h⟩
  unfold bibliography?
  cases hq : p.providers[i]? with
  | none =>
    have hnone : p'.providers[i]? = none := by
      rw [List.getElem?_eq_none_iff] at hq ⊢
      rwa [← h.length_eq]
    rw [hnone]
  | some q =>
    obtain ⟨q', hq', hlooked⟩ := forall₂_getElem? h hq
    rw [hq']
    cases hlooked <;> rfl

theorem Tidy.hides_narrowList (tidy : Tidy shelf gone p) (entries : List Candidate)
    (token : String) : Hides shelf gone p (p.narrowList entries token).2 :=
  tidy.hides_looked (narrowList_looked entries token) rfl rfl rfl

theorem Tidy.hides_searchOne (tidy : Tidy shelf gone p) (token : String) (limit : Int) :
    Hides shelf gone p (p.searchOne provider token limit).2 := by
  refine tidy.hides_looked (searchOne_looked token limit) ?_ ?_ ?_ <;>
    (unfold searchOne; split <;> rfl)

theorem Tidy.hides_exactOne (tidy : Tidy shelf gone p) (token : String) :
    Hides shelf gone p (p.exactOne provider token).2 := by
  refine tidy.hides_looked (exactOne_looked token) ?_ ?_ ?_ <;>
    (unfold exactOne; split <;> rfl)

end Panel

end CiteSync.Completion
