import CiteSync.Proofs.Completion.Panel.Hidden

/-!
# The same done twice

Two panels that are alike for bibliographies stay alike when the same happens in both of them.  For
each function of the panel there is one lemma.
-/

namespace CiteSync.Completion

open Remote

variable {σ : Type} {library : RemoteLibrary σ} {shelf : Nat → Bool} {gone : List Nat}

namespace Panel

variable {p p' p₁ : Panel σ} {number provider : Nat} {a : Activity}

variable (shelf gone) in
/-- Two tidy panels that are alike. -/
structure Paired (p p' : Panel σ) : Prop where
  tidy : Tidy shelf gone p
  tidy' : Tidy shelf gone p'
  alike : Alike shelf gone p p'

theorem Paired.left (h : Paired shelf gone p p') (hides : Hides shelf gone p p₁) :
    Paired shelf gone p₁ p' :=
  ⟨hides.tidy, h.tidy', hides.alike.symm.trans h.alike⟩

theorem Paired.right (h : Paired shelf gone p p') (hides : Hides shelf gone p' p₁) :
    Paired shelf gone p p₁ :=
  ⟨h.tidy, hides.tidy, h.alike.trans hides.alike⟩

/-! ## 1. Providers, gates and what is ready -/

theorem bibliography?_setProvider {b : Bibliography σ} (hb : p.bibliography? provider = some b)
    (b' : Bibliography σ) (i : Nat) :
    (p.setProvider provider (.bibliography b')).bibliography? i =
      if i = provider then some b' else p.bibliography? i := by
  have hlt := (List.getElem?_eq_some_iff.1 (bibliography?_eq_some.1 hb)).1
  unfold bibliography? Panel.setProvider
  by_cases hi : i = provider
  · subst hi
    rw [if_pos rfl, List.getElem?_set_self hlt]
    rfl
  · rw [if_neg hi, List.getElem?_set_ne (Ne.symm hi)]

theorem Tidy.setShelf (tidy : Tidy shelf gone p) {b : Bibliography σ}
    (hb : p.bibliography? provider = some b) (b' : Bibliography σ) :
    Tidy shelf gone (p.setProvider provider (.bibliography b')) :=
  { tidy with
    shelves := fun i => by
      rw [bibliography?_setProvider hb]
      split
      next hi => rw [← tidy.shelves, hi, hb]; rfl
      next => exact tidy.shelves i }

theorem Paired.setShelf (h : Paired shelf gone p p') {b : Bibliography σ}
    (hb : p.bibliography? provider = some b) (b' : Bibliography σ) :
    Paired shelf gone (p.setProvider provider (.bibliography b'))
      (p'.setProvider provider (.bibliography b')) where
  tidy := h.tidy.setShelf hb b'
  tidy' := h.tidy'.setShelf ((h.alike.shelves provider).trans hb) b'
  alike :=
    { h.alike with
      shelves := fun i => by
        rw [bibliography?_setProvider hb,
          bibliography?_setProvider ((h.alike.shelves provider).trans hb), h.alike.shelves]
      width := by
        show (p'.providers.set _ _).length = (p.providers.set _ _).length
        rw [List.length_set, List.length_set, h.alike.width] }

theorem Paired.report (h : Paired shelf gone p p') (records records' : List Log.Record) :
    Paired shelf gone (p.report records) (p'.report records') := by
  have hleft : Hides shelf gone p (p.report records) := h.tidy.hides_same rfl rfl rfl rfl
  have hright : Hides shelf gone p' (p'.report records') := h.tidy'.hides_same rfl rfl rfl rfl
  exact (h.left hleft).right hright

theorem Paired.addGate (h : Paired shelf gone p p') (hshelf : shelf provider = true)
    (number : Nat) :
    Paired shelf gone { p with gates := p.gates ++ [(provider, number)] }
      { p' with gates := p'.gates ++ [(provider, number)] } := by
  have htidy : ∀ {q : Panel σ}, Tidy shelf gone q →
      Tidy shelf gone { q with gates := q.gates ++ [(provider, number)] } := fun tidy =>
    { tidy with
      gates := fun gate hgate helse => by
        rcases List.mem_append.1 hgate with hold | hnew
        · exact tidy.gates gate hold helse
        · rw [List.mem_singleton.1 hnew, hshelf] at helse
          cases helse }
  refine ⟨htidy h.tidy, htidy h.tidy', { h.alike with gates := ?_ }⟩
  rw [List.filter_append, List.filter_append, h.alike.gates]

theorem Tidy.schedule (tidy : Tidy shelf gone p) {reactions : List Reaction}
    (passes : ∀ waiting load, .passOn waiting load ∈ reactions →
      ∃ a, p.activities[load]? = some a ∧ (a.work.role shelf).isLoad = true) :
    Tidy shelf gone (p.schedule reactions) :=
  { tidy with
    passes := fun waiting load hpass =>
      (List.mem_append.1 hpass).elim (tidy.passes waiting load) (passes waiting load) }

theorem Paired.schedule (h : Paired shelf gone p p') {reactions reactions' : List Reaction}
    (hsame : reactions'.filter (p.due shelf gone) = reactions.filter (p.due shelf gone))
    (passes : ∀ waiting load, .passOn waiting load ∈ reactions →
      ∃ a, p.activities[load]? = some a ∧ (a.work.role shelf).isLoad = true)
    (passes' : ∀ waiting load, .passOn waiting load ∈ reactions' →
      ∃ a, p'.activities[load]? = some a ∧ (a.work.role shelf).isLoad = true) :
    Paired shelf gone (p.schedule reactions) (p'.schedule reactions') where
  tidy := h.tidy.schedule passes
  tidy' := h.tidy'.schedule passes'
  alike :=
    { h.alike with
      ready := by
        show (p'.ready ++ reactions').filter (p.due shelf gone) =
          (p.ready ++ reactions).filter (p.due shelf gone)
        rw [List.filter_append, List.filter_append, h.alike.ready, hsame] }

/-- The same is scheduled in both. -/
theorem Paired.schedule_same (h : Paired shelf gone p p') {reactions : List Reaction}
    (hpass : ∀ r ∈ reactions, ∀ waiting load, r ≠ .passOn waiting load) :
    Paired shelf gone (p.schedule reactions) (p'.schedule reactions) :=
  h.schedule rfl (fun waiting load hmem => absurd rfl (hpass _ hmem waiting load))
    fun waiting load hmem => absurd rfl (hpass _ hmem waiting load)

/-! ## 2. One activity -/

theorem role?_setActivity {change : Activity → Activity}
    (work : ∀ a, (change a).work = a.work) (n : Nat) :
    (p.setActivity number change).role? shelf n = p.role? shelf n := by
  unfold Panel.role? Panel.setActivity
  rw [List.getElem?_modify]
  cases p.activities[n]? with
  | none => rfl
  | some a =>
    by_cases hn : number = n
    · simp [hn, work]
    · simp [hn]

theorem setActivity_cases {change : Activity → Activity} {n : Nat} {b : Activity}
    (hb : (p.setActivity number change).activities[n]? = some b) :
    n ≠ number ∧ p.activities[n]? = some b ∨
      n = number ∧ ∃ a, p.activities[n]? = some a ∧ b = change a := by
  rw [Panel.setActivity, List.getElem?_modify] at hb
  obtain ⟨a, ha, rfl⟩ := Option.map_eq_some_iff.1 hb
  by_cases hn : number = n
  · subst hn
    exact .inr ⟨rfl, a, ha, by simp⟩
  · exact .inl ⟨Ne.symm hn, by simp [hn, ha]⟩

theorem exists_of_setActivity {n : Nat} (here : p.activities[n]? = some a) (number : Nat)
    (change : Activity → Activity) : ∃ b, (p.setActivity number change).activities[n]? = some b ∧
      (b = a ∨ n = number ∧ b = change a) := by
  by_cases hn : number = n
  · subst hn
    exact ⟨change a, setActivity_here here change, .inr ⟨rfl, rfl⟩⟩
  · exact ⟨a, (setActivity_there hn change).trans here, .inl rfl⟩

theorem Tidy.setActivity (tidy : Tidy shelf gone p) {change : Activity → Activity}
    (work : ∀ a, (change a).work = a.work)
    (reactions : ∀ a, p.activities[number]? = some a → ∀ r ∈ (change a).reactions,
      r ∈ a.reactions ∨ (a.work.role shelf).isLoad = true ∧ ∃ waiting, r = .passOn waiting number)
    (awaits : ∀ a, p.activities[number]? = some a → ∀ pause told,
      (change a).stage = .waiting pause told → (a.work.role shelf).Awaits pause)
    (started : ∀ a, p.activities[number]? = some a → (change a).stage = .fresh →
      a.stage = .fresh) :
    Tidy shelf gone (p.setActivity number change) := by
  have hsame : ∀ (n : Nat) (holds : Role → Bool),
      (∃ a, p.activities[n]? = some a ∧ holds (a.work.role shelf) = true) →
      ∃ b, (p.setActivity number change).activities[n]? = some b ∧
        holds (b.work.role shelf) = true := by
    rintro n holds ⟨a, here, hholds⟩
    obtain ⟨b, hb, rfl | ⟨-, rfl⟩⟩ := exists_of_setActivity here number change
    · exact ⟨b, hb, hholds⟩
    · exact ⟨_, hb, (work a).symm ▸ hholds⟩
  constructor
  case shelves => exact tidy.shelves
  case reactions =>
    intro n b hb r hr
    rcases setActivity_cases hb with ⟨-, here⟩ | ⟨rfl, a, here, rfl⟩
    · exact tidy.reactions n b here r hr
    · rw [work]
      exact (reactions a here r hr).elim (tidy.reactions n a here r) .inr
  case awaits =>
    intro n b pause told hb hwaits
    rcases setActivity_cases hb with ⟨-, here⟩ | ⟨rfl, a, here, rfl⟩
    · exact tidy.awaits n b pause told here hwaits
    · rw [work]
      exact awaits a here pause told hwaits
  case gates =>
    exact fun gate hgate helse => hsame gate.2 Role.isPlain (tidy.gates gate hgate helse)
  case passes =>
    exact fun waiting load hpass => hsame load Role.isLoad (tidy.passes waiting load hpass)
  case left =>
    intro n hn
    obtain ⟨a, here, hstage, hasker⟩ := tidy.left n hn
    obtain ⟨b, hb, rfl | ⟨rfl, rfl⟩⟩ := exists_of_setActivity here number change
    · exact ⟨b, hb, hstage, hasker⟩
    · exact ⟨_, hb, fun hfresh => hstage (started a here hfresh), (work a).symm ▸ hasker⟩

theorem Alike.setActivity (h : Alike shelf gone p p') {change change' : Activity → Activity}
    (work : ∀ a, (change a).work = a.work)
    (alike : ∀ a a', p.activities[number]? = some a → a.Alike shelf gone number a' →
      (change a).Alike shelf gone number (change' a')) :
    Alike shelf gone (p.setActivity number change) (p'.setActivity number change') where
  shelves := h.shelves
  width := h.width
  length := by
    show (p'.activities.modify _ _).length = (p.activities.modify _ _).length
    rw [List.length_modify, List.length_modify, h.length]
  activities := fun n b hb => by
    rcases setActivity_cases hb with ⟨hn, here⟩ | ⟨rfl, a, here, rfl⟩
    · obtain ⟨a', here', halike⟩ := h.activities n b here
      exact ⟨a', (setActivity_there (Ne.symm hn) change').trans here', halike⟩
    · obtain ⟨a', here', halike⟩ := h.activities n a here
      exact ⟨change' a', setActivity_here here' change', alike a a' here halike⟩
  gates := h.gates
  ready := by
    rw [due_congr (role?_setActivity work)]
    exact h.ready

/-- The same activity comes to the same stage in both. -/
theorem Paired.setStage (h : Paired shelf gone p p') {stage : Stage} (started : stage ≠ .fresh)
    (awaits : ∀ a, p.activities[number]? = some a → ∀ pause told, stage = .waiting pause told →
      (a.work.role shelf).Awaits pause) :
    Paired shelf gone (p.setActivity number fun a => { a with stage })
      (p'.setActivity number fun a => { a with stage }) where
  tidy := h.tidy.setActivity (fun _ => rfl) (fun _ _ _ hr => .inl hr) awaits
    fun _ _ hfresh => absurd hfresh started
  tidy' := h.tidy'.setActivity (fun _ => rfl) (fun _ _ _ hr => .inl hr)
    (fun a' here' pause told hwaits => by
      obtain ⟨a, here, halike⟩ := h.alike.here here'
      rw [halike.role]
      exact awaits a here pause told hwaits)
    fun _ _ hfresh => absurd hfresh started
  alike := h.alike.setActivity (fun _ => rfl) fun _ _ _ halike =>
    { halike with
      stage := fun _ => rfl
      fresh := fun _ => .rfl
      wanted := fun _ hfresh => absurd hfresh started }

/-- One more is told how a load ended. -/
theorem Paired.promise (h : Paired shelf gone p p') {load : Nat}
    (there : p.activities[load]? = some a)
    (role : (a.work.role shelf).isLoad = true) (waiting : Nat) :
    Paired shelf gone
      (p.setActivity load fun a => { a with reactions := a.reactions ++ [.passOn waiting load] })
      (p'.setActivity load fun a =>
        { a with reactions := a.reactions ++ [.passOn waiting load] }) := by
  have htidy : ∀ {q : Panel σ}, Tidy shelf gone q →
      (∀ b, q.activities[load]? = some b → (b.work.role shelf).isLoad = true) →
      Tidy shelf gone (q.setActivity load fun a =>
        { a with reactions := a.reactions ++ [.passOn waiting load] }) := by
    intro q tidy hload
    refine tidy.setActivity (fun _ => rfl) (fun b hb r hr => ?_)
      (fun b hb pause told hwaits => tidy.awaits load b pause told hb hwaits)
      fun _ _ hfresh => hfresh
    exact (List.mem_append.1 hr).imp_right fun hnew =>
      ⟨hload b hb, waiting, List.mem_singleton.1 hnew⟩
  refine ⟨htidy h.tidy fun b hb => ?_, htidy h.tidy' fun b' hb' => ?_, ?_⟩
  · rwa [← Option.some.inj (there.symm.trans hb)]
  · obtain ⟨b, hb, halike⟩ := h.alike.here hb'
    rw [halike.role]
    rwa [← Option.some.inj (there.symm.trans hb)]
  · refine h.alike.setActivity (fun _ => rfl) fun _ _ _ halike =>
      { halike with
        told := fun hload => ?_ }
    rw [List.filter_append, List.filter_append, halike.told hload]

theorem Paired.pause (h : Paired shelf gone p p') {pause : Pause}
    (awaits : ∀ a, p.activities[number]? = some a → (a.work.role shelf).Awaits pause) :
    Paired shelf gone (p.pause number pause) (p'.pause number pause) :=
  h.setStage (fun h => nomatch h) fun a here pause' told heq => by
    obtain ⟨rfl, -⟩ := Stage.waiting.inj heq
    exact awaits a here

theorem Paired.awaitGate (h : Paired shelf gone p p') (hshelf : shelf provider = true)
    {pause : Pause}
    (awaits : ∀ a, p.activities[number]? = some a → (a.work.role shelf).Awaits pause) :
    Paired shelf gone (p.awaitGate number provider pause) (p'.awaitGate number provider pause) :=
  (h.addGate hshelf number).pause awaits

/-! ## 3. Starting activities -/

theorem role?_append {more : List Activity} (h : p₁.activities = p.activities ++ more) {n : Nat}
    (hn : n < p.activities.length) : p₁.role? shelf n = p.role? shelf n := by
  rw [Panel.role?, Panel.role?, h, List.getElem?_append_left hn]

/-- What is due when there are more activities was due before. -/
theorem due_of_append {more : List Activity} (h : p₁.activities = p.activities ++ more)
    {r : Reaction} (hdue : p₁.due shelf gone r = true) : p.due shelf gone r = true := by
  cases r with
  | goOn n =>
    by_cases hn : n < p.activities.length
    · rwa [due, role?_append h hn] at hdue
    · -- nothing was known of it before, so that it counted
      rw [due, Panel.role?, List.getElem?_eq_none (Nat.le_of_not_lt hn)]
      rfl
  | start | noteRefresh | count | passOn => exact hdue

theorem filter_of_imp {α : Type} {xs ys : List α} {holds weaker : α → Bool}
    (h : ∀ x, holds x = true → weaker x = true) (hsame : ys.filter weaker = xs.filter weaker) :
    ys.filter holds = xs.filter holds := by
  have hfilter : ∀ zs : List α, zs.filter holds = (zs.filter weaker).filter holds := by
    intro zs
    rw [List.filter_filter]
    refine List.filter_congr fun x _ => ?_
    cases hx : holds x with
    | false => rfl
    | true => rw [h x hx]; rfl
  rw [hfilter ys, hfilter xs, hsame]

theorem Tidy.append (tidy : Tidy shelf gone p) {more : List Activity}
    (fresh : ∀ a ∈ more, a.stage = .fresh)
    (notes : ∀ a ∈ more, ∀ r ∈ a.reactions, r.isNote = true) :
    Tidy shelf gone { p with activities := p.activities ++ more } := by
  have hcases : ∀ {n : Nat} {b : Activity}, (p.activities ++ more)[n]? = some b →
      p.activities[n]? = some b ∨ b ∈ more := by
    intro n b hb
    by_cases hn : n < p.activities.length
    · rw [List.getElem?_append_left hn] at hb
      exact .inl hb
    · rw [List.getElem?_append_right (Nat.le_of_not_lt hn)] at hb
      exact .inr (List.mem_of_getElem? hb)
  have hthere : ∀ {n : Nat} {b : Activity}, p.activities[n]? = some b →
      (p.activities ++ more)[n]? = some b := fun hb =>
    getElem?_append_of_some hb
  constructor
  case shelves => exact tidy.shelves
  case reactions =>
    intro n b hb r hr
    rcases hcases hb with hold | hnew
    · exact tidy.reactions n b hold r hr
    · exact .inl (notes b hnew r hr)
  case awaits =>
    intro n b pause told hb hwaits
    rcases hcases hb with hold | hnew
    · exact tidy.awaits n b pause told hold hwaits
    · rw [fresh b hnew] at hwaits
      cases hwaits
  case gates =>
    intro gate hgate helse
    obtain ⟨a, here, hplain⟩ := tidy.gates gate hgate helse
    exact ⟨a, hthere here, hplain⟩
  case passes =>
    intro waiting load hpass
    obtain ⟨a, here, hload⟩ := tidy.passes waiting load hpass
    exact ⟨a, hthere here, hload⟩
  case left =>
    intro n hn
    obtain ⟨a, here, hleft⟩ := tidy.left n hn
    exact ⟨a, hthere here, hleft⟩

/-- Activities of the same roles are started in both. -/
theorem Paired.append (h : Paired shelf gone p p') {more more' : List Activity}
    (fresh : ∀ a ∈ more, a.stage = .fresh) (fresh' : ∀ a ∈ more', a.stage = .fresh)
    (notes : ∀ a ∈ more, ∀ r ∈ a.reactions, r.isNote = true)
    (notes' : ∀ a ∈ more', ∀ r ∈ a.reactions, r.isNote = true)
    (wanted : ∀ a ∈ more, a.cancelAsked = false) (wanted' : ∀ a ∈ more', a.cancelAsked = false)
    (roles : List.Forall₂ (fun a a' : Activity => a'.work.role shelf = a.work.role shelf) more
      more') :
    Paired shelf gone { p with activities := p.activities ++ more }
      { p' with activities := p'.activities ++ more' } := by
  refine ⟨h.tidy.append fresh notes, h.tidy'.append fresh' notes', ?_⟩
  constructor
  case shelves => exact h.alike.shelves
  case width => exact h.alike.width
  case length =>
    show (p'.activities ++ more').length = (p.activities ++ more).length
    rw [List.length_append, List.length_append, h.alike.length, roles.length_eq]
  case activities =>
    intro n b hb
    change (p.activities ++ more)[n]? = some b at hb
    show ∃ b', (p'.activities ++ more')[n]? = some b' ∧ _
    by_cases hn : n < p.activities.length
    · rw [List.getElem?_append_left hn] at hb
      rw [List.getElem?_append_left (by rw [h.alike.length]; exact hn)]
      exact h.alike.activities n b hb
    · have hn' := Nat.le_of_not_lt hn
      rw [List.getElem?_append_right hn'] at hb
      rw [List.getElem?_append_right (by rw [h.alike.length]; exact hn'), h.alike.length]
      obtain ⟨b', hb', hrole⟩ := forall₂_getElem? roles hb
      have hmem := List.mem_of_getElem? hb
      have hmem' := List.mem_of_getElem? hb'
      exact ⟨b', hb',
        { role := hrole
          stage := fun _ => by rw [fresh b hmem, fresh' b' hmem']
          cancelAsked := fun _ => by rw [wanted b hmem, wanted' b' hmem']
          told := fun _ => by rw [tells_of_notes (notes b hmem), tells_of_notes (notes' b' hmem')]
          fresh := fun _ => by rw [fresh b hmem, fresh' b' hmem']
          wanted := fun _ _ => by rw [wanted b hmem, wanted' b' hmem'] }⟩
  case gates => exact h.alike.gates
  case ready =>
    refine filter_of_imp (fun r hr => ?_) h.alike.ready
    exact due_of_append (p := p) rfl hr

theorem Paired.addActivity (h : Paired shelf gone p p') {work work' : Work}
    (role : work'.role shelf = work.role shelf) :
    Paired shelf gone (p.addActivity work).2 (p'.addActivity work').2 := by
  have happended : Paired shelf gone { p with activities := p.activities ++ [{ work }] }
      { p' with activities := p'.activities ++ [{ work := work' }] } :=
    h.append (fun a ha => by rw [List.mem_singleton.1 ha])
      (fun a ha => by rw [List.mem_singleton.1 ha])
      (fun a ha r hr => by rw [List.mem_singleton.1 ha] at hr; cases hr)
      (fun a ha r hr => by rw [List.mem_singleton.1 ha] at hr; cases hr)
      (fun a ha => by rw [List.mem_singleton.1 ha]) (fun a ha => by rw [List.mem_singleton.1 ha])
      (.cons role .nil)
  unfold Panel.addActivity
  rw [h.alike.length]
  exact happended.schedule_same fun r hr waiting load heq => by
    rw [List.mem_singleton.1 hr] at heq
    cases heq

/-! ## 4. Telling and ending -/

theorem Alike.none (h : Alike shelf gone p p') (hnone : p.activities[number]? = none) :
    p'.activities[number]? = none := by
  rw [List.getElem?_eq_none_iff] at hnone ⊢
  rwa [h.length]

theorem Paired.tell (h : Paired shelf gone p p') (fits : Pause → Bool) (number : Nat)
    (ending : Ending) :
    Paired shelf gone (p.tell fits number ending) (p'.tell fits number ending) := by
  cases hdue : p.due shelf gone (.goOn number) with
  | false =>
    -- it may be told in one panel only, but that does not matter
    have hdue' : p'.due shelf gone (.goOn number) = false := by rw [h.alike.due, hdue]
    exact (h.left (h.tidy.hides_tell hdue fits ending)).right (h.tidy'.hides_tell hdue' fits ending)
  | true =>
    have hstage : (p'.activities[number]?).map Activity.stage =
        (p.activities[number]?).map Activity.stage := by
      cases here : p.activities[number]? with
      | none => rw [h.alike.none here]
      | some a =>
        obtain ⟨a', here', halike⟩ := h.alike.activities number a here
        rw [due, role?_of_here here] at hdue
        rw [here', Option.map_some, Option.map_some, halike.stage hdue]
    unfold Panel.tell
    rw [hstage]
    split
    next pause hpause =>
      split
      · have hset : Paired shelf gone
            (p.setActivity number fun a => { a with stage := .waiting pause (some ending) })
            (p'.setActivity number fun a => { a with stage := .waiting pause (some ending) }) := by
          refine h.setStage (fun h => by cases h) fun a here pause' told heq => ?_
          obtain ⟨rfl, -⟩ := Stage.waiting.inj heq
          rw [here, Option.map_some] at hpause
          exact h.tidy.awaits number a pause none here (Option.some.inj hpause)
        refine hset.schedule_same fun r hr waiting load heq => ?_
        rw [List.mem_singleton.1 hr] at heq
        cases heq
      · exact h
    next => exact h

/-- What becomes ready when an activity ends. -/
theorem Tidy.due_reactions (tidy : Tidy shelf gone p) (here : p.activities[number]? = some a) :
    a.reactions.filter (p.due shelf gone) = a.reactions.filter (Reaction.tells gone) := by
  refine List.filter_congr fun r hr => ?_
  rcases tidy.reactions number a here r hr with hnote | ⟨-, waiting, rfl⟩
  · rw [due_of_isNote hnote, Reaction.tells_of_isNote hnote]
  · rfl

theorem Paired.told (h : Paired shelf gone p p') {a' : Activity}
    (here : p.activities[number]? = some a) (here' : p'.activities[number]? = some a')
    (halike : a.Alike shelf gone number a') :
    a'.reactions.filter (p.due shelf gone) = a.reactions.filter (p.due shelf gone) := by
  have hdue' := h.tidy'.due_reactions here'
  rw [h.alike.due] at hdue'
  rw [hdue', h.tidy.due_reactions here]
  cases hload : (a.work.role shelf).isLoad with
  | true => exact halike.told hload
  | false =>
    have hload' : (a'.work.role shelf).isLoad = false := by rw [halike.role, hload]
    rw [tells_of_notes (h.tidy.notes here hload), tells_of_notes (h.tidy'.notes here' hload')]

theorem Tidy.passes_reactions (tidy : Tidy shelf gone p) (here : p.activities[number]? = some a)
    {waiting load : Nat} (hmem : .passOn waiting load ∈ a.reactions) :
    load = number ∧ (a.work.role shelf).isLoad = true := by
  rcases tidy.reactions number a here _ hmem with hnote | ⟨hload, _, heq⟩
  · cases hnote
  · exact ⟨(Reaction.passOn.inj heq).2, hload⟩

/-- An activity that has ended in both or in neither ends in both. -/
theorem Paired.endActivity (h : Paired shelf gone p p')
    (same : ∀ a a', p.activities[number]? = some a → p'.activities[number]? = some a' →
      a'.stage.ending?.isSome = a.stage.ending?.isSome) (ending : Ending) :
    Paired shelf gone (p.endActivity number ending) (p'.endActivity number ending) := by
  cases here : p.activities[number]? with
  | none =>
    unfold Panel.endActivity
    rw [here, h.alike.none here]
    exact h
  | some a =>
    obtain ⟨a', here', halike⟩ := h.alike.activities number a here
    have hended := same a a' here here'
    unfold Panel.endActivity
    rw [here, here']
    simp only [hended]
    split
    · exact h
    · have hset : Paired shelf gone
          (p.setActivity number fun a => { a with stage := .ended ending })
          (p'.setActivity number fun a => { a with stage := .ended ending }) :=
        h.setStage (fun h => nomatch h) fun _ _ _ _ heq => nomatch heq
      have hthere : ∀ {q : Panel σ} {b : Activity}, q.activities[number]? = some b →
          (q.setActivity number fun a => { a with stage := .ended ending }).activities[number]? =
            some { b with stage := .ended ending } := by
        intro q b hb
        rw [setActivity_of_some hb]
        exact set_here hb _
      -- the same is left of what was to happen at its end
      refine hset.schedule ?_ (fun waiting load hmem => ?_) fun waiting load hmem => ?_
      · have hdue : (p.setActivity number fun a => { a with stage := .ended ending }).due shelf
            gone = p.due shelf gone := due_congr (role?_setActivity fun _ => rfl)
        rw [hdue]
        exact h.told here here' halike
      · obtain ⟨rfl, hload⟩ := h.tidy.passes_reactions here hmem
        exact ⟨_, hthere here, hload⟩
      · obtain ⟨rfl, hload⟩ := h.tidy'.passes_reactions here' hmem
        exact ⟨_, hthere here', hload⟩

theorem exists_of_deliver (p : Panel σ) (number : Nat)
    (answer : Except Failure (List Candidate)) :
    ∃ q : Panel σ, q.providers = p.providers ∧ q.activities = p.activities ∧ q.gates = p.gates ∧
      q.ready = p.ready ∧ p.deliver number answer = q.endActivity number (answer.map some) := by
  unfold Panel.deliver
  simp only
  split
  next q i _ found _ => exact ⟨p.receive q i found, rfl, rfl, rfl, rfl, rfl⟩
  next => exact ⟨p, rfl, rfl, rfl, rfl, rfl⟩

theorem Paired.deliver (h : Paired shelf gone p p')
    (same : ∀ a a', p.activities[number]? = some a → p'.activities[number]? = some a' →
      a'.stage.ending?.isSome = a.stage.ending?.isSome)
    (answer : Except Failure (List Candidate)) :
    Paired shelf gone (p.deliver number answer) (p'.deliver number answer) := by
  obtain ⟨q, hproviders, hactivities, hgates, hready, hq⟩ :=
    exists_of_deliver p number answer
  obtain ⟨q', hproviders', hactivities', hgates', hready', hq'⟩ :=
    exists_of_deliver p' number answer
  rw [hq, hq']
  refine ((h.left (h.tidy.hides_same hproviders hactivities hgates hready)).right
    (h.tidy'.hides_same hproviders' hactivities' hgates' hready')).endActivity ?_ _
  rw [hactivities, hactivities']
  exact same

/-! ## 5. Loads -/

theorem takeLoaded_eq (number i : Nat) :
    p.takeLoaded number i =
      match p.bibliography? i with
      | some b => p.deliver number (.ok b.session.candidates)
      | none => p := by
  unfold Panel.takeLoaded bibliography?
  cases p.providers[i]? with
  | none => rfl
  | some q => cases q <;> rfl

theorem endLoadActivity_eq (number i load : Nat) :
    p.endLoadActivity number i load =
      match (p.bibliography? i).bind fun b => (b.loads[load]?).bind Load.result with
      | some result => p.endActivity number (loadEnding result)
      | none => p := by
  unfold Panel.endLoadActivity bibliography?
  cases p.providers[i]? with
  | none => rfl
  | some q => cases q <;> rfl

theorem Paired.amend (h : Paired shelf gone p p') (i : Nat)
    (change : Bibliography σ → Bibliography σ × List Log.Record) :
    Paired shelf gone (p.amend i change) (p'.amend i change) := by
  have hshelf := h.alike.shelves i
  cases hb : p.bibliography? i with
  | none =>
    rw [amend_of_none hb, amend_of_none (hshelf.trans hb)]
    exact h
  | some b =>
    rw [amend_of_some hb, amend_of_some (hshelf.trans hb)]
    exact (h.setShelf hb _).report _ _

section Loads

variable (h : Paired shelf gone p p')
  (same : ∀ a a', p.activities[number]? = some a → p'.activities[number]? = some a' →
    a'.stage.ending?.isSome = a.stage.ending?.isSome)

include h same

theorem Paired.takeLoaded (i : Nat) :
    Paired shelf gone (p.takeLoaded number i) (p'.takeLoaded number i) := by
  rw [takeLoaded_eq, takeLoaded_eq, h.alike.shelves]
  split
  · exact h.deliver same _
  · exact h

theorem Paired.endLoadActivity (i load : Nat) :
    Paired shelf gone (p.endLoadActivity number i load) (p'.endLoadActivity number i load) := by
  rw [endLoadActivity_eq, endLoadActivity_eq, h.alike.shelves]
  split
  · exact h.endActivity same _
  · exact h

theorem Paired.finishLoad (i load : Nat) :
    Paired shelf gone (p.finishLoad library number i load)
      (p'.finishLoad library number i load) := by
  refine (h.amend i (·.takeAnswer library load)).endLoadActivity ?_ i load
  rw [amend_activities, amend_activities]
  exact same

variable (role : ∀ a, p.activities[number]? = some a → (a.work.role shelf).isLoad = true)

include role

theorem Paired.proceed (i load : Nat) {goOn : Panel σ → Panel σ}
    (next : Paired shelf gone (goOn p) (goOn p')) :
    Paired shelf gone (p.proceed number i load goOn) (p'.proceed number i load goOn) := by
  unfold Panel.proceed
  rw [heldBack?_eq, heldBack?_eq, h.alike.shelves]
  split
  next hheld =>
    obtain ⟨b, hb, -⟩ := Option.bind_eq_some_iff.1 hheld
    have hshelf : shelf i = true := by rw [← h.tidy.shelves, hb]; rfl
    exact h.awaitGate hshelf fun a here => Role.awaits_of_isLoad (role a here)
  next => exact next
  next => exact h.endLoadActivity same i load

theorem Paired.continueLoad (i load : Nat) :
    Paired shelf gone (p.continueLoad library number i load)
      (p'.continueLoad library number i load) := by
  have hrun := h.amend i (·.takeAnswer library load)
  have hsame := amend_activities (p := p) i (·.takeAnswer library load)
  have hsame' := amend_activities (p := p') i (·.takeAnswer library load)
  rw [← hsame] at role
  rw [← hsame, ← hsame'] at same
  exact hrun.proceed same role i load (hrun.finishLoad same i load)

theorem Paired.startLoad (i load : Nat) :
    Paired shelf gone (p.startLoad library number i load)
      (p'.startLoad library number i load) := by
  have hrun := h.amend i fun b => (b.beginLoad library load, [])
  have hsame := amend_activities (p := p) i fun b => (b.beginLoad library load, [])
  have hsame' := amend_activities (p := p') i fun b => (b.beginLoad library load, [])
  rw [← hsame] at role
  rw [← hsame, ← hsame'] at same
  exact hrun.proceed same role i load (hrun.continueLoad same role i load)

end Loads

end Panel

end CiteSync.Completion
