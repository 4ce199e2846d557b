import CiteSync.Proofs.Completion.Panel.Pairs

/-!
# Panels in step

What matters to bibliographies happens in two panels that are alike at the same time, and is done
with both of them; they stay alike.
-/

namespace CiteSync.Completion

open Remote

variable {σ : Type} {library : RemoteLibrary σ} {shelf : Nat → Bool} {gone : List Nat}

/-! ## 1. What a role says of the work -/

theorem work_of_load {work : Work} {i l : Nat} (h : work.role shelf = .load i l) :
    work = .load i l ∧ shelf i = true := by
  cases work with
  | query | wait => cases h
  | entries j document | refresh _ j document =>
    simp only [Work.role, askerRole] at h
    split at h <;> cases h
  | load j m =>
    simp only [Work.role] at h
    split at h
    next hj =>
      cases h
      exact ⟨rfl, hj⟩
    next => cases h

theorem work_of_query {work : Work} {document : Document} (h : work.role shelf = .query document) :
    ∃ query token, work = .query query token document := by
  cases work with
  | query q token d =>
    cases h
    exact ⟨q, token, rfl⟩
  | wait => cases h
  | entries j d | refresh _ j d =>
    simp only [Work.role, askerRole] at h
    split at h <;> cases h
  | load j m =>
    simp only [Work.role] at h
    split at h <;> cases h

theorem work_of_asker {work : Work} {i : Nat} {document : Document}
    (h : work.role shelf = .asker i document) :
    work.asks? = some (i, document) ∧ shelf i = true := by
  have hasker : (work.role shelf).isAsker = true := by rw [h]; rfl
  obtain ⟨j, d, hasks, hrole, hshelf⟩ := asks_of_isAsker hasker
  cases hrole.symm.trans h
  exact ⟨hasks, hshelf⟩

theorem role_of_asks {work : Work} {i : Nat} {document : Document}
    (hasks : work.asks? = some (i, document)) (hshelf : shelf i = true) :
    work.role shelf = .asker i document := by
  cases work <;> cases hasks <;> exact if_pos hshelf

/-- The load of that number of a bibliography. -/
def Role.isLoadOf (provider number : Nat) : Role → Bool
  | load i l => i = provider && l = number
  | _ => false

theorem isLoad_eq {i : Nat} (hshelf : shelf i = true) (work : Work) (l : Nat) :
    work.isLoad i l = (work.role shelf).isLoadOf i l := by
  cases work with
  | query | wait => rfl
  | entries j document | refresh _ j document =>
    simp only [Work.role, askerRole]
    split <;> rfl
  | load j m =>
    simp only [Work.role]
    by_cases hj : j = i
    · rw [if_pos (by rw [hj, hshelf])]
      rfl
    · split <;> simp [Work.isLoad, Role.isLoadOf, hj]

namespace Panel

variable {p p' p₁ : Panel σ} {number provider : Nat} {a : Activity}

/-! ## 2. Asking a bibliography -/

theorem Alike.roles (h : Alike shelf gone p p') :
    p'.activities.map (fun a => a.work.role shelf) =
      p.activities.map fun a => a.work.role shelf := by
  refine List.ext_getElem? fun n => ?_
  rw [List.getElem?_map, List.getElem?_map]
  exact h.role? n

theorem Alike.loadActivity? (h : Alike shelf gone p p') (hshelf : shelf provider = true)
    (load : Nat) : p'.loadActivity? provider load = p.loadActivity? provider load := by
  -- which activity a load is can be told from the roles
  have hroles : ∀ q : Panel σ, q.loadActivity? provider load =
      (q.activities.map fun a => a.work.role shelf).findIdx? (Role.isLoadOf provider load) := by
    intro q
    rw [List.findIdx?_map]
    exact congrArg (q.activities.findIdx? ·) (funext fun a => isLoad_eq hshelf a.work load)
  rw [hroles, hroles, h.roles]

theorem exists_of_loadActivity? {load n : Nat} (hshelf : shelf provider = true)
    (h : p.loadActivity? provider load = some n) :
    ∃ a, p.activities[n]? = some a ∧ a.work.role shelf = .load provider load := by
  obtain ⟨hlt, hload, -⟩ := List.findIdx?_eq_some_iff_getElem.1 h
  refine ⟨p.activities[n], List.getElem?_eq_getElem hlt, ?_⟩
  rw [isLoad_eq hshelf] at hload
  generalize (p.activities[n]).work.role shelf = role at hload
  cases role with
  | load i l =>
    simp only [Role.isLoadOf, Bool.and_eq_true, decide_eq_true_eq] at hload
    rw [hload.1, hload.2]
  | asker | query | aside => cases hload

/-- How one that matters has ended is the same in both. -/
theorem Alike.activityEnding? (h : Alike shelf gone p p') (here : p.activities[number]? = some a)
    (seen : (a.work.role shelf).seen gone number = true) :
    p'.activityEnding? number = p.activityEnding? number := by
  obtain ⟨a', here', halike⟩ := h.activities number a here
  rw [Panel.activityEnding?, Panel.activityEnding?, here, here', Option.bind_some,
    Option.bind_some, halike.stage seen]

theorem Paired.whenOver (h : Paired shelf gone p p') {load : Nat}
    (there : p.activities[load]? = some a) (role : (a.work.role shelf).isLoad = true)
    (waiting : Nat) :
    Paired shelf gone (p.whenOver load (.passOn waiting load))
      (p'.whenOver load (.passOn waiting load)) := by
  obtain ⟨a', there', halike⟩ := h.alike.activities load a there
  unfold Panel.whenOver
  rw [h.alike.activityEnding? there (Role.seen_of_isLoad role gone load)]
  split
  · refine h.schedule rfl (fun w l hmem => ?_) fun w l hmem => ?_
    · cases List.mem_singleton.1 hmem
      exact ⟨a, there, role⟩
    · cases List.mem_singleton.1 hmem
      exact ⟨a', there', halike.role.symm ▸ role⟩
  · exact h.promise there role waiting

theorem role?_whenOver (load n : Nat) (reaction : Reaction) :
    (p.whenOver load reaction).role? shelf n = p.role? shelf n := by
  unfold Panel.whenOver
  split
  · rfl
  · have hsame : ∀ a : Activity, { a with reactions := a.reactions ++ [reaction] }.work = a.work :=
      fun _ => rfl
    exact role?_setActivity hsame n

theorem Paired.awaitLoad (h : Paired shelf gone p p') {load : Nat}
    (there : p.activities[load]? = some a) (role : (a.work.role shelf).isLoad = true)
    {i : Nat} {document : Document} (asker : p.role? shelf number = some (.asker i document)) :
    Paired shelf gone (p.awaitLoad number load) (p'.awaitLoad number load) := by
  refine (h.whenOver there role number).pause fun b hb => ?_
  have hrole : role? shelf _ number = some (b.work.role shelf) := role?_of_here hb
  rw [role?_whenOver, asker] at hrole
  rw [← Option.some.inj hrole]
  rfl

/-- A bibliography that is asked for a document, before anybody waits for the load. -/
def joined (provider : Nat) (document : Document) (b : Bibliography σ) (p : Panel σ) : Panel σ :=
  if (b.join document).2.1 then
    ((p.setProvider provider (.bibliography (b.join document).2.2)).addActivity
      (.load provider (b.join document).1)).2
  else (p.setProvider provider (.bibliography (b.join document).2.2)).report [joiningRecord]

theorem askProvider_of_bibliography {b : Bibliography σ} {document : Document}
    (hb : p.bibliography? provider = some b) :
    p.askProvider number provider document =
      match (p.joined provider document b).loadActivity? provider (b.join document).1 with
      | some load => (p.joined provider document b).awaitLoad number load
      | none => p.joined provider document b := by
  unfold askProvider
  simp only [bibliography?_eq_some.1 hb]
  rfl

theorem Paired.joined (h : Paired shelf gone p p') {b : Bibliography σ}
    (hb : p.bibliography? provider = some b) (document : Document) :
    Paired shelf gone (p.joined provider document b) (p'.joined provider document b) := by
  unfold Panel.joined
  split
  · exact (h.setShelf hb _).addActivity rfl
  · exact (h.setShelf hb _).report _ _

theorem role?_joined {b : Bibliography σ} {document : Document} {role : Role}
    (h : p.role? shelf number = some role) :
    (p.joined provider document b).role? shelf number = some role := by
  unfold Panel.joined
  split
  · obtain ⟨a, here, hrole⟩ := Option.map_eq_some_iff.1 h
    have hlt := (List.getElem?_eq_some_iff.1 here).1
    exact (role?_append rfl hlt).trans h
  · exact h

theorem Paired.askProvider (h : Paired shelf gone p p') (hshelf : shelf provider = true)
    {i : Nat} {document : Document} (asker : p.role? shelf number = some (.asker i document))
    (asked : Document) :
    Paired shelf gone (p.askProvider number provider asked)
      (p'.askProvider number provider asked) := by
  obtain ⟨b, hb⟩ := Option.isSome_iff_exists.1 ((h.tidy.shelves provider).trans hshelf)
  have hjoined := h.joined hb asked
  rw [askProvider_of_bibliography hb,
    askProvider_of_bibliography ((h.alike.shelves provider).trans hb),
    hjoined.alike.loadActivity? hshelf]
  split
  next load hload =>
    obtain ⟨c, there, hrole⟩ := exists_of_loadActivity? hshelf hload
    exact hjoined.awaitLoad there (by rw [hrole]; rfl) (role?_joined asker)
  next => exact hjoined

/-! ## 3. Starting queries -/

/-- What a query does when it starts: it starts one asker for each provider, and goes on or ends. -/
structure Opens (number : Nat) (a : Activity) (document : Document) (p p₁ : Panel σ) : Prop where
  providers : p₁.providers = p.providers
  gates : p₁.gates = p.gates
  activities : ∃ stage work after, stage ≠ .fresh ∧
    (∀ (shelf : Nat → Bool) i, (work i : Work).role shelf = askerRole shelf i document) ∧
    (∀ n, (after n : Reaction).isNote = true) ∧
    p₁.activities = p.activities.set number { a with stage } ++ p.askers work after
  ready : ∃ notes ⊆ a.reactions, p₁.ready = p.ready ++ p.nextAskers.map .start ++ notes

theorem startQuery_opens {query : Nat} {token : String} {document : Document}
    (here : p.activities[number]? = some a) (fresh : a.stage = .fresh) :
    Opens number a document p (p.startQuery number query token document) := by
  by_cases hnone : p.providers = []
  · -- there is nobody to ask
    have hasked : p.nextAskers = [] := List.isEmpty_iff.1 (nextAskers_isEmpty.2 hnone)
    rw [startQuery_of_no_provider here fresh hnone]
    refine ⟨rfl, rfl, ⟨.ended .done, (.entries · document), .noteRefresh,
      (fun h => by cases h), fun _ _ => rfl, fun _ => rfl, ?_⟩, a.reactions, List.Subset.refl _, ?_⟩
    · rw [askers, hasked, List.zipWith_nil_right, List.append_nil]
    · rw [hasked, List.map_nil, List.append_nil]
  · cases hall : p.current.all Option.isNone with
    | true =>
      -- nobody has entries yet, and the query waits for all
      rw [startQuery_of_empty here hall hnone]
      exact ⟨rfl, rfl, ⟨.waiting p.askPause none, (.entries · document), .count number,
        (fun h => by cases h), fun _ _ => rfl, fun _ => rfl, rfl⟩,
        [], List.nil_subset _, (List.append_nil _).symm⟩
    | false =>
      -- what is there is shown at once, and the query ends
      rw [startQuery_of_loaded here fresh hall]
      exact ⟨rfl, rfl, ⟨.ended .done, (.refresh query · document), .noteRefresh,
        (fun h => by cases h), fun _ _ => rfl, fun _ => rfl, rfl⟩,
        a.reactions, List.Subset.refl _, rfl⟩

/-- Whatever becomes of a query that has started does not matter. -/
theorem Paired.setStarted (h : Paired shelf gone p p') {document : Document}
    (query : p.role? shelf number = some (.query document)) {stage stage' : Stage}
    (started : stage ≠ .fresh) (started' : stage' ≠ .fresh) :
    Paired shelf gone (p.setActivity number fun a => { a with stage })
      (p'.setActivity number fun a => { a with stage := stage' }) := by
  have htidy : ∀ {q : Panel σ} {stage : Stage}, Tidy shelf gone q →
      q.role? shelf number = some (.query document) → stage ≠ .fresh →
      Tidy shelf gone (q.setActivity number fun a => { a with stage }) := by
    intro q stage tidy hquery hstarted
    refine tidy.setActivity (fun _ => rfl) (fun _ _ _ hr => .inl hr) (fun b hb pause _ _ => ?_)
      fun _ _ hfresh => absurd hfresh hstarted
    rw [role?_of_here hb] at hquery
    rw [Option.some.inj hquery]
    trivial
  refine ⟨htidy h.tidy query started, htidy h.tidy' ((h.alike.role? number).trans query) started',
    h.alike.setActivity (fun _ => rfl) fun b b' hb halike => ?_⟩
  rw [role?_of_here hb] at query
  have hrole := Option.some.inj query
  exact
    { role := halike.role
      stage := fun hseen => by
        change (b.work.role shelf).seen gone number = true at hseen
        rw [hrole] at hseen
        cases hseen
      cancelAsked := halike.cancelAsked
      told := halike.told
      -- it has started in both
      fresh := fun _ => ⟨fun hfresh => absurd hfresh started', fun hfresh => absurd hfresh started⟩
      wanted := fun _ hfresh => absurd hfresh started }

theorem askers_fresh (work : Nat → Work) (after : Nat → Reaction) (holds : Activity → Prop)
    (h : ∀ i n, holds { work := work i, reactions := [after n] }) :
    ∀ a ∈ p.askers work after, holds a := by
  intro a ha
  obtain ⟨i, hi⟩ := List.getElem?_of_mem ha
  have hlt := (List.getElem?_eq_some_iff.1 hi).1
  rw [askers_length] at hlt
  rw [askers_getElem? work after hlt] at hi
  rw [← Option.some.inj hi]
  exact h i _

/-- The panel of a query that starts, as far as it matters. -/
theorem Opens.same (here : p.activities[number]? = some a) {stage : Stage} {work : Nat → Work}
    {after : Nat → Reaction}
    (hactivities : p₁.activities =
      p.activities.set number { a with stage } ++ p.askers work after) :
    p₁.activities = (({ p with activities := p.activities ++ p.askers work after } :
      Panel σ).setActivity number fun a => { a with stage }).activities := by
  have hlt := (List.getElem?_eq_some_iff.1 here).1
  rw [setActivity_of_some (p := { p with activities := p.activities ++ p.askers work after })
    ((List.getElem?_append_left hlt).trans here), hactivities]
  exact (List.set_append_left _ _ hlt).symm

theorem Paired.opens (h : Paired shelf gone p p') {a' : Activity} {document : Document}
    {p₁' : Panel σ} (here : p.activities[number]? = some a)
    (here' : p'.activities[number]? = some a') (query : a.work.role shelf = .query document)
    (query' : a'.work.role shelf = .query document)
    (hopens : Opens number a document p p₁) (hopens' : Opens number a' document p' p₁') :
    Paired shelf gone p₁ p₁' := by
  obtain ⟨stage, work, after, started, hwork, hafter, hactivities⟩ := hopens.activities
  obtain ⟨stage', work', after', started', hwork', hafter', hactivities'⟩ := hopens'.activities
  obtain ⟨notes, hnotes, hready⟩ := hopens.ready
  obtain ⟨notes', hnotes', hready'⟩ := hopens'.ready
  have hnote : ∀ r ∈ notes, r.isNote = true := fun r hr =>
    h.tidy.notes here (by rw [query]; rfl) r (hnotes hr)
  have hnote' : ∀ r ∈ notes', r.isNote = true := fun r hr =>
    h.tidy'.notes here' (by rw [query']; rfl) r (hnotes' hr)
  have hroles : List.Forall₂ (fun b b' : Activity => b'.work.role shelf = b.work.role shelf)
      (p.askers work after) (p'.askers work' after') := by
    refine List.forall₂_iff_get.2 ⟨?_, fun i hi hi' => ?_⟩
    · rw [askers_length, askers_length, h.alike.width]
    · have hget := askers_getElem? work after (askers_length work after ▸ hi)
      have hget' := askers_getElem? work' after' (askers_length work' after' ▸ hi')
      rw [List.getElem?_eq_getElem hi] at hget
      rw [List.getElem?_eq_getElem hi'] at hget'
      show ((p'.askers work' after')[i]).work.role shelf =
        ((p.askers work after)[i]).work.role shelf
      rw [Option.some.inj hget, Option.some.inj hget', hwork, hwork']
  have hone : ∀ {after : Nat → Reaction} (work : Nat → Work), (∀ n, (after n).isNote = true) →
      ∀ i n, ∀ r ∈ ({ work := work i, reactions := [after n] } : Activity).reactions,
        r.isNote = true :=
    fun _ hafter _ n r hr => by rw [List.mem_singleton.1 hr, hafter n]
  -- the askers are started first, and then the query comes to its next stage
  have happended := h.append (askers_fresh work after _ fun _ _ => rfl)
    (askers_fresh work' after' _ fun _ _ => rfl) (askers_fresh work after _ (hone work hafter))
    (askers_fresh work' after' _ (hone work' hafter'))
    (askers_fresh work after _ fun _ _ => rfl) (askers_fresh work' after' _ fun _ _ => rfl) hroles
  have hlt := (List.getElem?_eq_some_iff.1 here).1
  have hrole : ({ p with activities := p.activities ++ p.askers work after } : Panel σ).role? shelf
      number = some (.query document) := by
    rw [role?_append rfl hlt, role?_of_here here, query]
  have hset := happended.setStarted hrole started started'
  have hasked : p'.nextAskers = p.nextAskers := by
    rw [nextAskers, nextAskers, h.alike.length, h.alike.width]
  have hstarts : ∀ {q : Panel σ} {notes : List Reaction}, (∀ r ∈ notes, r.isNote = true) →
      ∀ waiting load, .passOn waiting load ∈ p.nextAskers.map .start ++ notes →
        ∃ a, q.activities[load]? = some a ∧ (a.work.role shelf).isLoad = true := by
    intro q notes hall waiting load hmem
    rcases List.mem_append.1 hmem with hstart | hmem
    · obtain ⟨_, -, heq⟩ := List.mem_map.1 hstart
      cases heq
    · cases hall _ hmem
  have hnone : ∀ (q : Panel σ) {notes : List Reaction}, (∀ r ∈ notes, r.isNote = true) →
      notes.filter (q.due shelf gone) = [] := by
    intro q notes hall
    refine List.filter_eq_nil_iff.2 fun r hr => ?_
    rw [due_of_isNote (hall r hr)]
    exact Bool.false_ne_true
  have hscheduled := hset.schedule
    (by rw [List.filter_append, List.filter_append, hnone _ hnote, hnone _ hnote'])
    (hstarts hnote) (hstarts hnote')
  refine (hscheduled.left (hscheduled.tidy.hides_same hopens.providers
    (Opens.same here hactivities) hopens.gates ?_)).right
    (hscheduled.tidy'.hides_same hopens'.providers (Opens.same here' hactivities') hopens'.gates ?_)
  · rw [hready, List.append_assoc]
    rfl
  · rw [hready', hasked, List.append_assoc]
    rfl

/-! ## 4. Stretches -/

theorem startActivity_of_none (hnone : p.activities[number]? = none) :
    p.startActivity library number = p :=
  startActivity_of_not_fresh fun a here => by rw [hnone] at here; cases here

theorem goOn_of_none (hnone : p.activities[number]? = none) : p.goOn library number = p :=
  goOn_of_not_told fun a _ _ here => by rw [hnone] at here; cases here

/-- One that is given up in both was a load in both or in neither. -/
theorem Paired.giveUp (h : Paired shelf gone p p') {work work' : Work}
    (role : work'.role shelf = work.role shelf)
    (same : ∀ a a', p.activities[number]? = some a → p'.activities[number]? = some a' →
      a'.stage.ending?.isSome = a.stage.ending?.isSome) (failure : Failure) :
    Paired shelf gone (p.giveUp work number failure) (p'.giveUp work' number failure) := by
  cases hrole : work.role shelf with
  | load i l =>
    rw [(work_of_load hrole).1, (work_of_load (role.trans hrole)).1]
    refine (h.amend i (·.cancelLoad l)).endActivity ?_ _
    rw [amend_activities, amend_activities]
    exact same
  | asker | query | aside =>
    rw [h.tidy.giveUp_eq (by rw [hrole]; rfl), h.tidy'.giveUp_eq (by rw [role, hrole]; rfl)]
    exact h.endActivity same _

/-- One that is as far in both and does something starts in both. -/
theorem Paired.start_same (h : Paired shelf gone p p') {a' : Activity}
    (here : p.activities[number]? = some a) (here' : p'.activities[number]? = some a')
    (role : a'.work.role shelf = a.work.role shelf) (hfresh : a'.stage = .fresh ↔ a.stage = .fresh)
    (hcancel : a.stage = .fresh → a'.cancelAsked = a.cancelAsked)
    (begins : a.stage = .fresh → a'.stage = .fresh →
      Paired shelf gone (p.begin library a.work number) (p'.begin library a'.work number)) :
    Paired shelf gone (p.startActivity library number) (p'.startActivity library number) := by
  by_cases fresh : a.stage = .fresh
  · have fresh' := hfresh.2 fresh
    cases cancelled : a.cancelAsked with
    | true =>
      rw [startActivity_of_cancelled here fresh cancelled,
        startActivity_of_cancelled here' fresh' ((hcancel fresh).trans cancelled)]
      refine h.giveUp role (fun b b' hb hb' => ?_) _
      rw [← Option.some.inj (here.symm.trans hb), ← Option.some.inj (here'.symm.trans hb'), fresh,
        fresh']
    | false =>
      rw [startActivity_of_fresh here fresh cancelled,
        startActivity_of_fresh here' fresh' ((hcancel fresh).trans cancelled)]
      exact begins fresh fresh'
  · have hidle : ∀ {q : Panel σ} {b : Activity}, q.activities[number]? = some b →
        b.stage ≠ .fresh → q.startActivity library number = q := by
      intro q b hb hnot
      refine startActivity_of_not_fresh fun c hc => ?_
      rwa [← Option.some.inj (hb.symm.trans hc)]
    rw [hidle here fresh, hidle here' fun fresh' => fresh (hfresh.1 fresh')]
    exact h

theorem Paired.startActivity (h : Paired shelf gone p p') (number : Nat) :
    Paired shelf gone (p.startActivity library number) (p'.startActivity library number) := by
  cases here : p.activities[number]? with
  | none =>
    rw [startActivity_of_none here, startActivity_of_none (h.alike.none here)]
    exact h
  | some a =>
    obtain ⟨a', here', halike⟩ := h.alike.activities number a here
    have hseen : (a.work.role shelf).seen gone number = true →
        (a'.stage = .fresh ↔ a.stage = .fresh) ∧
          (a.stage = .fresh → a'.cancelAsked = a.cancelAsked) :=
      fun seen => ⟨by rw [halike.stage seen], fun _ => halike.cancelAsked seen⟩
    cases hrole : a.work.role shelf with
    | aside =>
      have hrole' := halike.role.trans hrole
      exact (h.left (h.tidy.hides_start here hrole)).right (h.tidy'.hides_start here' hrole')
    | query document =>
      have hquery : (a.work.role shelf).isQuery = true := by rw [hrole]; rfl
      refine h.start_same here here' halike.role (halike.fresh hquery) (halike.wanted hquery)
        fun fresh fresh' => ?_
      obtain ⟨q, token, hwork⟩ := work_of_query hrole
      obtain ⟨q', token', hwork'⟩ := work_of_query (halike.role.trans hrole)
      rw [hwork, hwork']
      exact h.opens here here' hrole (halike.role.trans hrole) (startQuery_opens here fresh)
        (startQuery_opens here' fresh')
    | load i l =>
      obtain ⟨hfresh, hcancel⟩ := hseen (by rw [hrole]; rfl)
      refine h.start_same here here' halike.role hfresh hcancel fun fresh fresh' => ?_
      rw [(work_of_load hrole).1, (work_of_load (halike.role.trans hrole)).1]
      refine h.startLoad (fun b b' hb hb' => ?_) (fun b hb => ?_) i l
      · rw [← Option.some.inj (here.symm.trans hb), ← Option.some.inj (here'.symm.trans hb'), fresh,
          fresh']
      · rw [← Option.some.inj (here.symm.trans hb), hrole]
        rfl
    | asker i document =>
      by_cases hgone : number ∈ gone
      · -- whoever is gone had started before
        have hstarted : ∀ {q : Panel σ}, Tidy shelf gone q →
            q.startActivity library number = q := by
          intro q tidy
          obtain ⟨b, hb, hstage, -⟩ := tidy.left number hgone
          refine startActivity_of_not_fresh fun c hc => ?_
          rwa [← Option.some.inj (hb.symm.trans hc)]
        rw [hstarted h.tidy, hstarted h.tidy']
        exact h
      · obtain ⟨hfresh, hcancel⟩ := hseen (Role.seen_of_stays (by rw [hrole]; rfl) hgone)
        refine h.start_same here here' halike.role hfresh hcancel fun _ _ => ?_
        obtain ⟨hasks, hshelf⟩ := work_of_asker hrole
        rw [begin_of_asks hasks, begin_of_asks (work_of_asker (halike.role.trans hrole)).1]
        exact h.askProvider hshelf (by rw [role?_of_here here, hrole]) document

/-- What one that matters does when it goes on. -/
theorem Paired.resume (h : Paired shelf gone p p') {a' : Activity}
    (here : p.activities[number]? = some a) (halike : a.Alike shelf gone number a')
    (seen : (a.work.role shelf).seen gone number = true) {pause : Pause}
    (awaits : (a.work.role shelf).Awaits pause)
    (same : ∀ a a', p.activities[number]? = some a → p'.activities[number]? = some a' →
      a'.stage.ending?.isSome = a.stage.ending?.isSome) :
    Paired shelf gone (p.resume library a.work pause number)
      (p'.resume library a'.work pause number) := by
  cases hrole : a.work.role shelf with
  | query | aside => rw [hrole] at seen; cases seen
  | load i l =>
    rw [hrole] at awaits
    obtain rfl : pause = .loading := awaits
    rw [(work_of_load hrole).1, (work_of_load (halike.role.trans hrole)).1]
    refine h.continueLoad same (fun b hb => ?_) i l
    rw [← Option.some.inj (here.symm.trans hb), hrole]
    rfl
  | asker i document =>
    rw [hrole] at awaits
    obtain rfl : pause = .joined := awaits
    rw [resume_joined (work_of_asker hrole).1,
      resume_joined (work_of_asker (halike.role.trans hrole)).1]
    exact h.takeLoaded same i

theorem Paired.goOn (h : Paired shelf gone p p') (due : p.due shelf gone (.goOn number) = true) :
    Paired shelf gone (p.goOn library number) (p'.goOn library number) := by
  cases here : p.activities[number]? with
  | none =>
    rw [goOn_of_none here, goOn_of_none (h.alike.none here)]
    exact h
  | some a =>
    obtain ⟨a', here', halike⟩ := h.alike.activities number a here
    have seen : (a.work.role shelf).seen gone number = true := by
      rwa [Panel.due, role?_of_here here] at due
    have hstage := halike.stage seen
    by_cases htold : ∃ pause told, a.stage = .waiting pause (some told)
    · obtain ⟨pause, told, hwaits⟩ := htold
      have hwaits' := hstage.trans hwaits
      have same : ∀ b b', p.activities[number]? = some b → p'.activities[number]? = some b' →
          b'.stage.ending?.isSome = b.stage.ending?.isSome := by
        intro b b' hb hb'
        rw [← Option.some.inj (here.symm.trans hb), ← Option.some.inj (here'.symm.trans hb'),
          hstage]
      cases hcancel : a.cancelAsked with
      | true =>
        rw [goOn_of_cancelled here hwaits hcancel,
          goOn_of_cancelled here' hwaits' ((halike.cancelAsked seen).trans hcancel)]
        exact h.giveUp halike.role same _
      | false =>
        have hcancel' := (halike.cancelAsked seen).trans hcancel
        cases told with
        | error failure =>
          rw [goOn_of_error here hwaits hcancel, goOn_of_error here' hwaits' hcancel']
          exact h.giveUp halike.role same _
        | ok found =>
          rw [goOn_of_ok here hwaits hcancel, goOn_of_ok here' hwaits' hcancel']
          exact h.resume here halike seen (h.tidy.awaits number a pause _ here hwaits) same
    · have hidle : ∀ {q : Panel σ} {b : Activity}, q.activities[number]? = some b →
          b.stage = a.stage → q.goOn library number = q := by
        intro q b hb hsame
        refine goOn_of_not_told fun c pause told hc heq => htold ⟨pause, told, ?_⟩
        rw [← hsame, Option.some.inj (hb.symm.trans hc), heq]
      rw [hidle here rfl, hidle here' hstage]
      exact h

theorem Paired.passOn (h : Paired shelf gone p p') {load : Nat}
    (there : p.activities[load]? = some a) (role : (a.work.role shelf).isLoad = true)
    (waiting : Nat) : Paired shelf gone (p.passOn waiting load) (p'.passOn waiting load) := by
  unfold Panel.passOn
  rw [h.alike.activityEnding? there (Role.seen_of_isLoad role gone load)]
  split
  · exact h.tell _ _ _
  · exact h

/-! ## 5. What happens next -/

theorem Tidy.taken (tidy : Tidy shelf gone p) {r : Reaction} {rest : List Reaction}
    (hready : p.ready = r :: rest) : Tidy shelf gone { p with ready := rest } :=
  { tidy with
    passes := fun waiting load hmem =>
      tidy.passes waiting load (by rw [hready]; exact List.mem_cons_of_mem _ hmem) }

/-- What does not matter happens to one of the panels only. -/
theorem Tidy.alike_of_not_due (library : RemoteLibrary σ) (tidy : Tidy shelf gone p)
    {r : Reaction} {rest : List Reaction}
    (hready : p.ready = r :: rest) (hdue : p.due shelf gone r = false) :
    Tidy shelf gone (p.happen library) ∧ Alike shelf gone p (p.happen library) ∧
      ∃ more, (p.happen library).ready = rest ++ more := by
  have htaken := tidy.taken hready
  have halike : Alike shelf gone p { p with ready := rest } :=
    { Alike.refl p with
      ready := by
        rw [hready, List.filter_cons_of_neg (by rw [hdue]; exact Bool.false_ne_true)] }
  have hides : Hides shelf gone { p with ready := rest }
      ({ p with ready := rest }.react library r) := htaken.hides_react hdue
  obtain ⟨more, hmore, -⟩ := hides.ready
  rw [happen_of_cons hready]
  exact ⟨hides.tidy, halike.trans hides.alike, more, hmore⟩

/-- What matters happens to both. -/
theorem Paired.happen (h : Paired shelf gone p p') {r : Reaction} {rest rest' : List Reaction}
    (hready : p.ready = r :: rest) (hready' : p'.ready = r :: rest')
    (hdue : p.due shelf gone r = true) :
    Paired shelf gone (p.happen library) (p'.happen library) := by
  have htaken : Paired shelf gone { p with ready := rest } { p' with ready := rest' } := by
    refine ⟨h.tidy.taken hready, h.tidy'.taken hready', { h.alike with ready := ?_ }⟩
    have hsame := h.alike.ready
    rw [hready, hready', List.filter_cons_of_pos hdue, List.filter_cons_of_pos hdue] at hsame
    exact (List.cons.inj hsame).2
  rw [happen_of_cons hready, happen_of_cons hready']
  cases r with
  | start n => exact htaken.startActivity n
  | goOn n => exact htaken.goOn hdue
  | noteRefresh | count => cases hdue
  | passOn waiting load =>
    obtain ⟨a, there, role⟩ := h.tidy.passes waiting load (by rw [hready]; exact .head _)
    exact htaken.passOn there role waiting

end Panel

end CiteSync.Completion
