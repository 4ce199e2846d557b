import CiteSync.Proofs.Completion.Panel.Turns

/-!
# What a stretch leaves alone

An activity that starts or goes on touches itself and the provider it is about.  Of the other
activities it changes at most what happens at their ends, and that only by having more ends noted.
Only those who ask a bibliography and those who make a query start others.
-/

namespace CiteSync.Completion

open Remote

variable {σ : Type} {library : RemoteLibrary σ}

/-! ## 1. One activity -/

/-- Whether a reaction only notes or counts an end. -/
def Reaction.isNote : Reaction → Bool
  | noteRefresh _ => true
  | count _ _ => true
  | _ => false

/-- The provider that an activity is about. -/
def Work.place? : Work → Option Nat
  | entries i _ => some i
  | refresh _ i _ => some i
  | load i _ => some i
  | _ => none

namespace Activity

/-- More ends are noted than before. -/
def Noted (a a' : Activity) : Prop :=
  ∃ notes, a'.reactions = a.reactions ++ notes ∧ ∀ r ∈ notes, r.isNote = true

/-- An activity that others leave alone, but for noting its end. -/
structure Rests (a a' : Activity) : Prop where
  work : a'.work = a.work
  stage : a'.stage = a.stage
  cancelAsked : a'.cancelAsked = a.cancelAsked
  noted : a.Noted a'

/-- An activity that may come a step further. -/
structure Continues (a a' : Activity) : Prop where
  work : a'.work = a.work
  started : a'.stage = .fresh → a.stage = .fresh
  noted : a.Noted a'

theorem Noted.refl (a : Activity) : a.Noted a :=
  ⟨[], (List.append_nil _).symm, fun _ h => nomatch h⟩

theorem Noted.of_reactions {a a' : Activity} (h : a'.reactions = a.reactions) : a.Noted a' :=
  ⟨[], by rw [h, List.append_nil], fun _ h => nomatch h⟩

theorem Noted.trans {a b c : Activity} (h : a.Noted b) (h' : b.Noted c) : a.Noted c := by
  obtain ⟨notes, hnotes, hall⟩ := h
  obtain ⟨more, hmore, hall'⟩ := h'
  refine ⟨notes ++ more, by rw [hmore, hnotes, List.append_assoc], fun r hr => ?_⟩
  exact (List.mem_append.1 hr).elim (hall r) (hall' r)

theorem Rests.refl (a : Activity) : a.Rests a := ⟨rfl, rfl, rfl, .refl a⟩

theorem Rests.trans {a b c : Activity} (h : a.Rests b) (h' : b.Rests c) : a.Rests c :=
  ⟨h'.work.trans h.work, h'.stage.trans h.stage, h'.cancelAsked.trans h.cancelAsked,
    h.noted.trans h'.noted⟩

theorem Rests.continues {a b : Activity} (h : a.Rests b) : a.Continues b :=
  ⟨h.work, fun hfresh => h.stage ▸ hfresh, h.noted⟩

theorem Continues.trans {a b c : Activity} (h : a.Continues b) (h' : b.Continues c) :
    a.Continues c :=
  ⟨h'.work.trans h.work, fun hfresh => h.started (h'.started hfresh), h.noted.trans h'.noted⟩

end Activity

namespace Panel

variable {p p' p'' : Panel σ} {number provider : Nat} {a : Activity}

/-! ## 2. Frames -/

/-- Only that activity and that provider are touched. -/
structure Touches (number provider : Nat) (p p' : Panel σ) : Prop where
  width : p'.providers.length = p.providers.length
  providers : ∀ i, i ≠ provider → p'.providers[i]? = p.providers[i]?
  length : p'.activities.length = p.activities.length
  self : ∀ a, p.activities[number]? = some a →
    ∃ a', p'.activities[number]? = some a' ∧ a.Continues a'
  others : ∀ n, n ≠ number → ∀ a, p.activities[n]? = some a →
    ∃ a', p'.activities[n]? = some a' ∧ a.Rests a'
  gates : ∃ more, p'.gates = p.gates ++ more ∧ ∀ gate ∈ more, gate = (provider, number)
  /-- What becomes ready are notes, or what was to happen when the activity ends. -/
  ready : ∃ more, p'.ready = p.ready ++ more ∧
    ∀ r ∈ more, r.isNote = true ∨ ∃ a, p.activities[number]? = some a ∧ r ∈ a.reactions

theorem Touches.aside (providers : p'.providers = p.providers)
    (activities : p'.activities = p.activities) (gates : p'.gates = p.gates)
    (ready : p'.ready = p.ready) : Touches number provider p p' where
  width := by rw [providers]
  providers := fun i _ => by rw [providers]
  length := by rw [activities]
  self := fun a here => ⟨a, by rw [activities, here], (Activity.Rests.refl a).continues⟩
  others := fun n _ a here => ⟨a, by rw [activities, here], .refl a⟩
  gates := ⟨[], by rw [gates, List.append_nil], fun _ h => nomatch h⟩
  ready := ⟨[], by rw [ready, List.append_nil], fun _ h => nomatch h⟩

theorem Touches.refl (p : Panel σ) : Touches number provider p p := .aside rfl rfl rfl rfl

theorem Touches.here (h : Touches number provider p p') (here : p'.activities[number]? = some a) :
    ∃ b, p.activities[number]? = some b ∧ b.Continues a := by
  have hlt : number < p.activities.length := by
    rw [← h.length]
    exact (List.getElem?_eq_some_iff.1 here).1
  obtain ⟨a', here', hcontinues⟩ := h.self _ (List.getElem?_eq_getElem hlt)
  obtain rfl := Option.some.inj (here.symm.trans here')
  exact ⟨_, List.getElem?_eq_getElem hlt, hcontinues⟩

theorem Touches.trans (h : Touches number provider p p') (h' : Touches number provider p' p'') :
    Touches number provider p p'' where
  width := h'.width.trans h.width
  providers := fun i hi => (h'.providers i hi).trans (h.providers i hi)
  length := h'.length.trans h.length
  self := fun a here => by
    obtain ⟨b, hb, hab⟩ := h.self a here
    obtain ⟨c, hc, hbc⟩ := h'.self b hb
    exact ⟨c, hc, hab.trans hbc⟩
  others := fun n hn a here => by
    obtain ⟨b, hb, hab⟩ := h.others n hn a here
    obtain ⟨c, hc, hbc⟩ := h'.others n hn b hb
    exact ⟨c, hc, hab.trans hbc⟩
  gates := by
    obtain ⟨more, hmore, hall⟩ := h.gates
    obtain ⟨more', hmore', hall'⟩ := h'.gates
    refine ⟨more ++ more', by rw [hmore', hmore, List.append_assoc], fun gate hgate => ?_⟩
    exact (List.mem_append.1 hgate).elim (hall gate) (hall' gate)
  ready := by
    obtain ⟨more, hmore, hall⟩ := h.ready
    obtain ⟨more', hmore', hall'⟩ := h'.ready
    refine ⟨more ++ more', by rw [hmore', hmore, List.append_assoc], fun r hr => ?_⟩
    refine (List.mem_append.1 hr).elim (hall r) fun hr => ?_
    -- what is to happen at the end of the activity may have been noted just now
    rcases hall' r hr with hnote | ⟨b, hb, hmem⟩
    · exact .inl hnote
    · obtain ⟨a, here, hcontinues⟩ := h.here hb
      obtain ⟨notes, hnotes, hnote⟩ := hcontinues.noted
      rw [hnotes] at hmem
      exact (List.mem_append.1 hmem).elim (fun hold => .inr ⟨a, here, hold⟩)
        fun hnew => .inl (hnote r hnew)

theorem Touches.setActivity {change : Activity → Activity}
    (h : ∀ a, p.activities[number]? = some a → a.Continues (change a)) :
    Touches number provider p (p.setActivity number change) where
  width := rfl
  providers := fun _ _ => rfl
  length := List.length_modify ..
  self := fun a here => ⟨change a, setActivity_here here change, h a here⟩
  others := fun _ hn a here =>
    ⟨a, (setActivity_there (Ne.symm hn) change).trans here, .refl a⟩
  gates := ⟨[], (List.append_nil _).symm, fun _ h => nomatch h⟩
  ready := ⟨[], (List.append_nil _).symm, fun _ h => nomatch h⟩

theorem Touches.setProvider (q : Provider σ) :
    Touches number provider p (p.setProvider provider q) where
  width := List.length_set
  providers := fun _ hi => List.getElem?_set_ne (Ne.symm hi)
  length := rfl
  self := fun a here => ⟨a, here, (Activity.Rests.refl a).continues⟩
  others := fun _ _ a here => ⟨a, here, .refl a⟩
  gates := ⟨[], (List.append_nil _).symm, fun _ h => nomatch h⟩
  ready := ⟨[], (List.append_nil _).symm, fun _ h => nomatch h⟩

theorem Touches.schedule {reactions : List Reaction}
    (h : ∀ r ∈ reactions, r.isNote = true ∨ ∃ a, p.activities[number]? = some a ∧ r ∈ a.reactions) :
    Touches number provider p (p.schedule reactions) where
  width := rfl
  providers := fun _ _ => rfl
  length := rfl
  self := fun a here => ⟨a, here, (Activity.Rests.refl a).continues⟩
  others := fun _ _ a here => ⟨a, here, .refl a⟩
  gates := ⟨[], (List.append_nil _).symm, fun _ h => nomatch h⟩
  ready := ⟨reactions, rfl, h⟩

/-! ## 3. What stretches are made of -/

theorem pause_touches (pause : Pause) :
    Touches number provider p (p.pause number pause) :=
  .setActivity fun _ _ => ⟨rfl, fun h => (nomatch h), .of_reactions rfl⟩

theorem awaitGate_touches (pause : Pause) :
    Touches number provider p (p.awaitGate number provider pause) := by
  have hgate : Touches number provider p { p with gates := p.gates ++ [(provider, number)] } :=
    { Touches.refl p with
      gates := ⟨[(provider, number)], rfl, fun _ h => List.mem_singleton.1 h⟩ }
  exact hgate.trans (pause_touches pause)

theorem endActivity_touches (ending : Ending) :
    Touches number provider p (p.endActivity number ending) := by
  unfold endActivity
  split
  next a here =>
    split
    · exact .refl p
    · have hset : Touches number provider p
          (p.setActivity number fun a => { a with stage := .ended ending }) :=
        .setActivity fun _ _ => ⟨rfl, fun h => (nomatch h), .of_reactions rfl⟩
      exact hset.trans (.schedule fun r hr => .inr ⟨_, setActivity_here here _, hr⟩)
  next => exact .refl p

theorem deliver_touches (answer : Except Failure (List Candidate)) :
    Touches number provider p (p.deliver number answer) := by
  unfold deliver
  simp only
  split
  next query i _ found _ =>
    have hreceived : Touches number provider p (p.receive query i found) := .aside rfl rfl rfl rfl
    exact hreceived.trans (endActivity_touches _)
  next => exact endActivity_touches _

theorem takeIndexed_touches (answer : Except Failure (List Reference)) :
    Touches number provider p (p.takeIndexed number provider answer) := by
  unfold takeIndexed
  split
  next => exact (Touches.setProvider _).trans (deliver_touches _)
  next => exact deliver_touches _
  next => exact .refl p

theorem takeLoaded_touches (i : Nat) : Touches number provider p (p.takeLoaded number i) := by
  unfold takeLoaded
  split
  next => exact deliver_touches _
  next => exact .refl p

theorem whenOver_touches {other : Nat} {reaction : Reaction} (note : reaction.isNote = true) :
    Touches number provider p (p.whenOver other reaction) := by
  unfold whenOver
  split
  · exact .schedule fun r hr => .inl (by rw [List.mem_singleton.1 hr, note])
  · have hnoted : ∀ a : Activity, a.Rests { a with reactions := a.reactions ++ [reaction] } :=
      fun a => ⟨rfl, rfl, rfl, [reaction], rfl, fun r hr => by rw [List.mem_singleton.1 hr, note]⟩
    by_cases ho : other = number
    · subst ho
      exact .setActivity fun a _ => (hnoted a).continues
    · exact { Touches.refl p with
        length := List.length_modify ..
        self := fun a here => ⟨a, (setActivity_there ho _).trans here,
          (Activity.Rests.refl a).continues⟩
        others := fun n _ a here => by
          by_cases hn : other = n
          · subst hn
            exact ⟨_, setActivity_here here _, hnoted a⟩
          · exact ⟨a, (setActivity_there hn _).trans here, .refl a⟩ }

theorem startWait_touches (query : Nat) :
    Touches number provider p (p.startWait number query) := by
  have hfold : ∀ (refreshes : List Nat) (p : Panel σ),
      Touches number provider p
        (refreshes.foldl (fun p a => p.whenOver a (.count number a)) p) := by
    intro refreshes
    induction refreshes with
    | nil => exact fun p => .refl p
    | cons other refreshes ih => exact fun p => (whenOver_touches rfl).trans (ih _)
  unfold startWait
  simp only
  split
  · exact endActivity_touches _
  · exact (hfold _ p).trans (pause_touches _)

theorem finishQuery_touches (query generation : Nat) (token : String) (asked : List Nat) :
    Touches number provider p (p.finishQuery number query token generation asked) := by
  have hshown : Touches number provider p
      ((p.report (asked.flatMap p.missingAnswer)).setQuery query
        (.cold token generation (asked.filterMap p.broughtBack?)) []) := .aside rfl rfl rfl rfl
  exact hshown.trans (endActivity_touches _)

theorem endLoadActivity_touches (i load : Nat) :
    Touches number provider p (p.endLoadActivity number i load) := by
  unfold endLoadActivity
  split
  · split
    · exact endActivity_touches _
    · exact .refl p
  · exact .refl p

theorem amend_touches (change : Bibliography σ → Bibliography σ × List Log.Record) :
    Touches number provider p (p.amend provider change) := by
  unfold amend
  split
  next => exact (Touches.setProvider _).trans (.aside rfl rfl rfl rfl)
  next => exact .refl p

theorem proceed_touches {load : Nat} {goOn : Panel σ → Panel σ}
    (next : Touches number provider p (goOn p)) :
    Touches number provider p (p.proceed number provider load goOn) := by
  unfold proceed
  split
  · exact awaitGate_touches _
  · exact next
  · exact endLoadActivity_touches provider load

theorem finishLoad_touches (load : Nat) :
    Touches number provider p (p.finishLoad library number provider load) :=
  (amend_touches _).trans (endLoadActivity_touches provider load)

theorem continueLoad_touches (load : Nat) :
    Touches number provider p (p.continueLoad library number provider load) :=
  (amend_touches _).trans (proceed_touches (finishLoad_touches load))

theorem startLoad_touches (load : Nat) :
    Touches number provider p (p.startLoad library number provider load) :=
  (amend_touches _).trans (proceed_touches (continueLoad_touches load))

theorem giveUp_touches {work : Work} (hplace : ∀ i, work.place? = some i → i = provider)
    (failure : Failure) : Touches number provider p (p.giveUp work number failure) := by
  unfold giveUp
  split
  next =>
    obtain rfl := hplace _ rfl
    exact (amend_touches _).trans (endActivity_touches _)
  next => exact endActivity_touches _

/-- Asking a provider that is no bibliography starts nothing. -/
theorem askProvider_touches {document : Document}
    (h : ∀ b, p.providers[provider]? ≠ some (.bibliography b)) :
    Touches number provider p (p.askProvider number provider document) := by
  unfold askProvider
  split
  next => exact .refl p
  next q _ =>
    refine (Touches.setProvider (.prepared q.next.2)).trans ?_
    simp only
    split
    · exact awaitGate_touches _
    · exact deliver_touches _
  next l _ =>
    refine (Touches.setProvider (.references l.next.2)).trans ?_
    simp only
    split
    · exact awaitGate_touches _
    · exact takeIndexed_touches _
  next b hb => exact absurd hb (h b)

theorem hear_touches (pause : Pause) :
    Touches number provider p (p.hear provider pause number) := by
  cases pause with
  | prepared answer => exact deliver_touches answer
  | indexed answer => exact takeIndexed_touches answer
  | joined => exact takeLoaded_touches provider
  | loading | asking | gathering => exact .refl p

/-! ## 4. Stretches -/

/-- An activity that starts, unless it makes a query or asks a bibliography. -/
theorem begin_touches {work : Work} (hquery : ∀ q token document, work ≠ .query q token document)
    (hplace : ∀ i, work.place? = some i → i = provider)
    (hasks : ∀ i document b, work.asks? = some (i, document) →
      p.providers[i]? ≠ some (.bibliography b)) :
    Touches number provider p (p.begin library work number) := by
  cases work with
  | query q token document => exact absurd rfl (hquery q token document)
  | entries i document =>
    obtain rfl := hplace i rfl
    exact askProvider_touches fun b => hasks i document b rfl
  | refresh q i document =>
    obtain rfl := hplace i rfl
    exact askProvider_touches fun b => hasks i document b rfl
  | load i l =>
    obtain rfl := hplace i rfl
    exact startLoad_touches l
  | wait q => exact startWait_touches q

theorem startActivity_touches (here : p.activities[number]? = some a)
    (hquery : a.stage = .fresh → a.cancelAsked = false →
      ∀ q token document, a.work ≠ .query q token document)
    (hplace : ∀ i, a.work.place? = some i → i = provider)
    (hasks : a.stage = .fresh → a.cancelAsked = false → ∀ i document b,
      a.work.asks? = some (i, document) → p.providers[i]? ≠ some (.bibliography b)) :
    Touches number provider p (p.startActivity library number) := by
  unfold startActivity
  split
  next work cancelAsked reactions hfresh =>
    obtain rfl := Option.some.inj (here.symm.trans hfresh)
    cases cancelAsked with
    | true => exact giveUp_touches hplace _
    | false => exact begin_touches (hquery rfl rfl) hplace (hasks rfl rfl)
  next => exact .refl p

theorem resume_touches {work : Work} (hplace : ∀ i, work.place? = some i → i = provider)
    (pause : Pause) : Touches number provider p (p.resume library work pause number) := by
  unfold resume
  split
  next => exact finishQuery_touches ..
  next =>
    obtain rfl := hplace _ rfl
    exact hear_touches _
  next =>
    obtain rfl := hplace _ rfl
    exact hear_touches _
  next =>
    obtain rfl := hplace _ rfl
    exact continueLoad_touches _
  next => exact endActivity_touches _
  next => exact .refl p

theorem goOn_touches (here : p.activities[number]? = some a)
    (hplace : ∀ i, a.work.place? = some i → i = provider) :
    Touches number provider p (p.goOn library number) := by
  unfold goOn
  split
  next work pause told cancelAsked reactions hwaits =>
    obtain rfl := Option.some.inj (here.symm.trans hwaits)
    split
    · exact giveUp_touches hplace _
    · split
      · exact resume_touches hplace pause
      · exact giveUp_touches hplace _
  next => exact .refl p

end Panel

end CiteSync.Completion
