import CiteSync.Proofs.Completion.Panel.Lockstep
import CiteSync.Proofs.Completion.Panel.Sharing

/-!
# What is underway

A load that has not ended is about to start or to go on, or it waits for a gate to be opened, and
those who wait for it are about to be told, or will be when it ends.  A stretch of one activity
leaves all others underway.
-/

namespace CiteSync.Completion

open Remote

variable {σ : Type} {library : RemoteLibrary σ} {shelf : Nat → Bool}

/-! ## 1. How far a load has come -/

namespace Bibliography

variable {b b' b'' : Bibliography σ} {number : Nat}

def Begun (b : Bibliography σ) (number : Nat) : Prop :=
  ∃ load, b.loads[number]? = some load ∧ load.Begun

/-- A load has begun, and does not wait for the collection tree any more. -/
def Narrowed (b : Bibliography σ) (number : Nat) : Prop :=
  ∃ load, b.loads[number]? = some load ∧ load.Begun ∧
    ∀ request arrival, load.waiting ≠ some (.tree request arrival)

/-- A load has ended. -/
def Over (b : Bibliography σ) (number : Nat) : Prop :=
  ∃ load, b.loads[number]? = some load ∧ load.result.isSome

theorem Narrowed.begun (h : b.Narrowed number) : b.Begun number := by
  obtain ⟨load, hload, hbegun, -⟩ := h
  exact ⟨load, hload, hbegun⟩

/-- Loads have come as far as before, or further. -/
structure Older (b b' : Bibliography σ) : Prop where
  length : b.loads.length ≤ b'.loads.length
  begun : ∀ number, b.Begun number → b'.Begun number
  ended : ∀ number, b.Over number → b'.Over number

theorem Older.refl (b : Bibliography σ) : b.Older b :=
  ⟨Nat.le_refl _, fun _ h => h, fun _ h => h⟩

theorem Older.trans (h : b.Older b') (h' : b'.Older b'') : b.Older b'' :=
  ⟨Nat.le_trans h.length h'.length, fun n hbegun => h'.begun n (h.begun n hbegun),
    fun n hover => h'.ended n (h.ended n hover)⟩

theorem Older.append (b : Bibliography σ) (more : List Load) :
    b.Older { b with loads := b.loads ++ more } := by
  have hthere : ∀ {n : Nat} {load : Load}, b.loads[n]? = some load →
      (b.loads ++ more)[n]? = some load := getElem?_append_of_some
  exact ⟨by simp, fun _ ⟨load, hload, hbegun⟩ => ⟨load, hthere hload, hbegun⟩,
    fun _ ⟨load, hload, hover⟩ => ⟨load, hthere hload, hover⟩⟩

theorem Older.of_further (h : List.Forall₂ Load.Further b.loads b'.loads) : b.Older b' where
  length := Nat.le_of_eq h.length_eq
  begun := by
    rintro number ⟨load, hload, hbegun⟩
    obtain ⟨load', hload', hfurther⟩ := forall₂_getElem? h hload
    exact ⟨load', hload', hfurther.begun hbegun⟩
  ended := by
    rintro number ⟨load, hload, hover⟩
    obtain ⟨load', hload', hfurther⟩ := forall₂_getElem? h hload
    refine ⟨load', hload', Option.isSome_iff_ne_none.2 fun hgoes => ?_⟩
    rw [hfurther.going hgoes] at hover
    cases hover

theorem join_older (b : Bibliography σ) (document : Document) :
    b.Older (b.join document).2.2 := by
  unfold join
  split
  · exact .refl b
  · exact .append b _

theorem older_of_turn {called warned : Prop} {q : Provider σ}
    (h : Provider.Turn library called warned (.bibliography b) q) :
    ∃ b', q = .bibliography b' ∧ b.Older b' := by
  obtain ⟨-, document, rfl⟩ | ⟨b', rfl, hfurther⟩ := further_of_turn h
  · exact ⟨_, rfl, b.join_older document⟩
  · exact ⟨b', rfl, .of_further hfurther⟩

theorem older_of_turns {called warned : Prop} {q : Provider σ}
    (h : Provider.Turns library called warned (.bibliography b) q) :
    ∃ b', q = .bibliography b' ∧ b.Older b' := by
  refine h.keeps (fun q => ∃ b', q = .bibliography b' ∧ b.Older b') ?_ ⟨b, rfl, .refl b⟩
  rintro _ _ hturn ⟨b', rfl, holder⟩
  obtain ⟨b'', rfl, hlater⟩ := older_of_turn hturn
  exact ⟨b'', rfl, holder.trans hlater⟩

/-! ### Stretches -/

variable (library) in
/-- A load that starts asks for the collection tree, or ends at once. -/
theorem beginLoad_begun (h : number < b.loads.length) :
    (b.beginLoad library number).Begun number := by
  have hload := List.getElem?_eq_getElem h
  unfold beginLoad
  rw [hload]
  simp only
  split
  next => exact ⟨_, setLoad_self hload _, .inr rfl⟩
  next =>
    split
    next => exact ⟨_, setLoad_self hload _, .inr rfl⟩
    next => exact ⟨_, setLoad_self hload _, .inl rfl⟩

theorem follow_narrowed {load : Load} (progress : Session.Progress)
    (h : b.loads[number]? = some load) :
    (b.setLoad number (.follow progress)).Narrowed number := by
  refine ⟨_, setLoad_self h _, ?_⟩
  cases progress with
  | ended result => exact ⟨.inr rfl, fun _ _ h => nomatch h⟩
  | waiting request arrival => exact ⟨.inl rfl, fun _ _ h => nomatch h⟩

variable (library) in
/-- A load that goes on asks for the collections, or ends. -/
theorem takeAnswer_narrowed (h : b.Begun number) :
    (b.takeAnswer library number).1.Narrowed number := by
  obtain ⟨load, hload, hbegun⟩ := h
  unfold takeAnswer
  split
  next hthere => exact follow_narrowed _ hthere
  next hthere => exact ⟨_, setLoad_self hthere _, .inr rfl, fun _ _ h => nomatch h⟩
  next htree _ =>
    refine ⟨load, hload, hbegun, fun request arrival hwaiting => ?_⟩
    obtain ⟨document, waiting, result⟩ := load
    obtain rfl : waiting = _ := hwaiting
    exact htree _ _ _ _ hload

variable (library) in
/-- A load that goes on with the collections ends. -/
theorem takeAnswer_over (h : b.Narrowed number) :
    (b.takeAnswer library number).1.Over number := by
  obtain ⟨load, hload, hbegun, hnot⟩ := h
  unfold takeAnswer
  split
  next hthere =>
    obtain rfl := Option.some.inj (hload.symm.trans hthere)
    exact absurd rfl (hnot _ _)
  next hthere => exact ⟨_, setLoad_self hthere _, rfl⟩
  next htree hcollections =>
    refine ⟨load, hload, hbegun.resolve_left fun hwaiting => ?_⟩
    obtain ⟨document, _ | ⟨request, arrival⟩ | ⟨request, arrival⟩, result⟩ := load
    · cases hwaiting
    · exact htree _ _ _ _ hload
    · exact hcollections _ _ _ _ hload

/-- A load that waits for no answer has ended if it has begun. -/
theorem Begun.over (h : b.Begun number) (hheld : b.heldBack? number = none) : b.Over number := by
  obtain ⟨load, hload, hbegun⟩ := h
  refine ⟨load, hload, hbegun.resolve_left fun hwaiting => ?_⟩
  obtain ⟨awaited, hwaiting⟩ := Option.isSome_iff_exists.1 hwaiting
  rw [heldBack?, hload, Option.bind_some, hwaiting] at hheld
  cases hheld

end Bibliography

namespace Panel

variable {actor : Actor} {called warned : Nat → Prop} {p p' : Panel σ} {number provider load : Nat}
  {a a' : Activity} {stage : Stage} {role : Role}

/-! ## 2. What is underway -/

/-- What holds of a bibliography of a panel. -/
def OfShelf (p : Panel σ) (provider : Nat) (holds : Bibliography σ → Prop) : Prop :=
  ∃ b, p.bibliography? provider = some b ∧ holds b

/-- How far one has come that matters to a bibliography; whatever it waits for is to come about. -/
inductive Proceeds (p : Panel σ) (number : Nat) : Role → Stage → Prop
  | asks {i : Nat} {document : Document} (ready : .start number ∈ p.ready) :
    Proceeds p number (.asker i document) .fresh
  | joins {i other : Nat} {document : Document} (told : p.Promised other (.passOn number other)) :
    Proceeds p number (.asker i document) (.waiting .joined none)
  | told {i : Nat} {document : Document} {ending : Ending} (ready : .goOn number ∈ p.ready) :
    Proceeds p number (.asker i document) (.waiting .joined (some ending))
  | back {i : Nat} {document : Document} (ending : Ending) :
    Proceeds p number (.asker i document) (.ended ending)
  | starts {i l : Nat} (ready : .start number ∈ p.ready)
    (there : p.OfShelf i fun b => l < b.loads.length) : Proceeds p number (.load i l) .fresh
  | gated {i l : Nat} (gate : (i, number) ∈ p.gates) (begun : p.OfShelf i (·.Begun l)) :
    Proceeds p number (.load i l) (.waiting .loading none)
  | released {i l : Nat} {found : Option (List Candidate)} (ready : .goOn number ∈ p.ready)
    (begun : p.OfShelf i (·.Begun l)) :
    Proceeds p number (.load i l) (.waiting .loading (some (.ok found)))
  | ended {i l : Nat} {ending : Ending} (hover : p.OfShelf i (·.Over l)) :
    Proceeds p number (.load i l) (.ended ending)
  | plain {role : Role} (plain : role.isPlain = true) (stage : Stage) : Proceeds p number role stage

theorem OfShelf.older {holds : Bibliography σ → Prop} (h : p.OfShelf provider holds)
    (older : ∀ i b, p.bibliography? i = some b → ∃ b', p'.bibliography? i = some b' ∧ b.Older b')
    (keeps : ∀ b b', b.Older b' → holds b → holds b') : p'.OfShelf provider holds := by
  obtain ⟨b, hb, hholds⟩ := h
  obtain ⟨b', hb', holder⟩ := older provider b hb
  exact ⟨b', hb', keeps b b' holder hholds⟩

/-- One has not come to a halt where what it waits for is still to come about. -/
theorem Proceeds.mono {n : Nat} (h : p.Proceeds n role stage)
    (older : ∀ i b, p.bibliography? i = some b → ∃ b', p'.bibliography? i = some b' ∧ b.Older b')
    (start : stage = .fresh → .start n ∈ p.ready → .start n ∈ p'.ready)
    (goOn : ∀ pause ending, stage = .waiting pause (some ending) → .goOn n ∈ p.ready →
      .goOn n ∈ p'.ready)
    (pass : ∀ other, stage = .waiting .joined none → p.Promised other (.passOn n other) →
      p'.Promised other (.passOn n other))
    (gate : ∀ i l, role = .load i l → stage = .waiting .loading none → (i, n) ∈ p.gates →
      (i, n) ∈ p'.gates) : p'.Proceeds n role stage := by
  have hbegun : ∀ {i l : Nat}, p.OfShelf i (·.Begun l) → p'.OfShelf i (·.Begun l) := fun h =>
    h.older older fun _ _ holder => holder.begun _
  cases h with
  | asks ready => exact .asks (start rfl ready)
  | joins told => exact .joins (pass _ rfl told)
  | told ready => exact .told (goOn _ _ rfl ready)
  | back ending => exact .back ending
  | starts ready there =>
    exact .starts (start rfl ready) (there.older older fun _ _ holder hlt =>
      Nat.lt_of_lt_of_le hlt holder.length)
  | gated closed begun => exact .gated (gate _ _ rfl rfl closed) (hbegun begun)
  | released ready begun => exact .released (goOn _ _ rfl ready) (hbegun begun)
  | ended hover => exact .ended (hover.older older fun _ _ holder => holder.ended _)
  | plain plain stage => exact .plain plain stage

theorem older_of_shelves (h : ∀ i, p'.bibliography? i = p.bibliography? i) (i : Nat)
    (b : Bibliography σ) (hb : p.bibliography? i = some b) :
    ∃ b', p'.bibliography? i = some b' ∧ b.Older b' :=
  ⟨b, (h i).trans hb, .refl b⟩

theorem older_of_providers (h : p'.providers = p.providers) (i : Nat) (b : Bibliography σ)
    (hb : p.bibliography? i = some b) : ∃ b', p'.bibliography? i = some b' ∧ b.Older b' :=
  older_of_shelves (fun i => by rw [bibliography?, bibliography?, h]) i b hb

variable (shelf) in
/-- An activity has not come to a halt, and if it is a load nobody has cancelled it. -/
def Underway (p : Panel σ) (number : Nat) : Prop :=
  ∀ a, p.activities[number]? = some a → p.Proceeds number (a.work.role shelf) a.stage ∧
    ((a.work.role shelf).isLoad = true → a.cancelAsked = false)

theorem underway_of_plain (here : p.activities[number]? = some a)
    (plain : (a.work.role shelf).isPlain = true) : Underway shelf p number := by
  intro b hb
  obtain rfl := Option.some.inj (here.symm.trans hb)
  refine ⟨.plain plain _, fun hload => ?_⟩
  rw [Role.isLoad_of_isPlain plain] at hload
  cases hload

/-- What is to be passed on is so in panels that are alike. -/
theorem Alike.promised (h : Alike shelf [] p p') (tidy : Tidy shelf [] p) {waiting : Nat}
    (promised : p.Promised load (.passOn waiting load)) :
    p'.Promised load (.passOn waiting load) := by
  obtain ⟨c, there, hpass⟩ := promised
  obtain ⟨c', there', halike⟩ := h.activities load c there
  -- nothing is promised but by loads, and these are as far in both
  have hload : (c.work.role shelf).isLoad = true := by
    rcases hpass with ⟨-, hmem⟩ | ⟨-, hmem⟩
    · exact (tidy.passes_reactions there hmem).2
    · obtain ⟨b, hb, hload⟩ := tidy.passes waiting load hmem
      rwa [Option.some.inj (there.symm.trans hb)]
  refine ⟨c', there', ?_⟩
  rw [halike.stage (Role.seen_of_isLoad hload _ _)]
  refine hpass.imp (fun ⟨goesOn, hmem⟩ => ⟨goesOn, ?_⟩) fun ⟨ended, hmem⟩ => ⟨ended, ?_⟩
  · have htold : .passOn waiting load ∈ c.reactions.filter (Reaction.tells []) :=
      List.mem_filter.2 ⟨hmem, rfl⟩
    rw [← halike.told hload] at htold
    exact (List.mem_filter.1 htold).1
  · have hdue : .passOn waiting load ∈ p.ready.filter (p.due shelf []) :=
      List.mem_filter.2 ⟨hmem, rfl⟩
    rw [← h.ready] at hdue
    exact (List.mem_filter.1 hdue).1

/-- What does not matter leaves everything underway. -/
theorem Alike.underway (h : Alike shelf [] p p') (tidy : Tidy shelf [] p)
    (underway : Underway shelf p number) :
    Underway shelf p' number := by
  intro a' here'
  obtain ⟨a, here, halike⟩ := h.here here'
  obtain ⟨hproceeds, hwanted⟩ := underway a here
  rw [halike.role]
  have hready : ∀ {r : Reaction}, p.due shelf [] r = true → r ∈ p.ready → r ∈ p'.ready := by
    intro r hdue hr
    have hmem : r ∈ p.ready.filter (p.due shelf []) := List.mem_filter.2 ⟨hr, hdue⟩
    rw [← h.ready] at hmem
    exact (List.mem_filter.1 hmem).1
  cases hplain : (a.work.role shelf).isPlain with
  | true =>
    exact ⟨.plain hplain _, fun hload => by
      rw [halike.cancelAsked (Role.seen_of_isLoad hload _ _)]
      exact hwanted hload⟩
  | false =>
    have hseen : (a.work.role shelf).seen [] number = true :=
      Role.seen_of_stays hplain List.not_mem_nil
    have hgo : p.due shelf [] (.goOn number) = true := by
      show (p.role? shelf number).all (Role.seen [] number) = true
      rw [role?_of_here here]
      exact hseen
    rw [halike.stage hseen, halike.cancelAsked hseen]
    refine ⟨hproceeds.mono (older_of_shelves h.shelves) (fun _ ready => hready rfl ready)
      (fun _ _ _ ready => hready hgo ready) (fun _ _ told => h.promised tidy told)
      fun i l hrole _ gate => ?_, hwanted⟩
    have hmem : (i, number) ∈ p.gates.filter (shelf ·.1) :=
      List.mem_filter.2 ⟨gate, (work_of_load hrole).2⟩
    rw [← h.gates] at hmem
    exact (List.mem_filter.1 hmem).1

/-! ## 3. Stretches of others -/

/-- What a stretch of an activity leaves of the others. -/
structure Stretch (number : Nat) (p p' : Panel σ) : Prop where
  ready : p.ready ⊆ p'.ready
  gates : p.gates ⊆ p'.gates
  promised : ∀ n r, p.Promised n r → p'.Promised n r
  older : ∀ i b, p.bibliography? i = some b → ∃ b', p'.bibliography? i = some b' ∧ b.Older b'
  /-- The others are as far as before, or about to start. -/
  others : ∀ (n : Nat) (a' : Activity), n ≠ number → p'.activities[n]? = some a' →
    (∃ a, p.activities[n]? = some a ∧ a'.work = a.work ∧ a'.stage = a.stage ∧
      a'.cancelAsked = a.cancelAsked) ∨
    a'.stage = .fresh ∧ a'.cancelAsked = false ∧ .start n ∈ p'.ready ∧
      ∀ i l, a'.work = .load i l → p'.OfShelf i fun b => l < b.loads.length

theorem Changes.ready (h : Changes actor p p') : p.ready ⊆ p'.ready :=
  h.keeps (fun hchange (h : p.ready ⊆ _) => List.Subset.trans h hchange.ready) (List.Subset.refl _)

theorem Turned.older (h : Turned library called warned p p') {i : Nat} {b : Bibliography σ}
    (hb : p.bibliography? i = some b) :
    ∃ b', p'.bibliography? i = some b' ∧ b.Older b' := by
  obtain ⟨q, hq, hturns⟩ := h.turns i _ (bibliography?_eq_some.1 hb)
  obtain ⟨b', rfl, holder⟩ := Bibliography.older_of_turns hturns
  exact ⟨b', bibliography?_eq_some.2 hq, holder⟩

theorem Proceeds.stretch {n : Nat} (h : p.Proceeds n role stage) (hstretch : Stretch number p p') :
    p'.Proceeds n role stage :=
  h.mono hstretch.older (fun _ ready => hstretch.ready ready)
    (fun _ _ _ ready => hstretch.ready ready) (fun _ _ told => hstretch.promised _ _ told)
    fun _ _ _ _ gate => hstretch.gates gate

theorem Stretch.underway (h : Stretch number p p') {n : Nat} (hn : n ≠ number)
    (underway : Underway shelf p n) : Underway shelf p' n := by
  intro a' here'
  rcases h.others n a' hn here' with ⟨a, here, hwork, hstage, hcancel⟩ |
    ⟨hfresh, hcancel, hstart, hthere⟩
  · rw [hwork, hstage, hcancel]
    obtain ⟨hproceeds, hwanted⟩ := underway a here
    exact ⟨hproceeds.stretch h, hwanted⟩
  · -- one that was added in the stretch
    refine ⟨?_, fun _ => hcancel⟩
    rw [hfresh]
    cases hrole : a'.work.role shelf with
    | asker => exact .asks hstart
    | load i l => exact .starts hstart (hthere i l (work_of_load hrole).1)
    | query | aside => exact .plain rfl _

theorem Touches.stretch (h : Touches number provider p p') (changes : Changes actor p p')
    (turned : Turned library called warned p p') : Stretch number p p' where
  ready := changes.ready
  gates := by
    obtain ⟨more, hmore, -⟩ := h.gates
    rw [hmore]
    exact List.subset_append_left _ _
  promised := fun _ _ hpromised => hpromised.changes changes
  older := fun _ _ => turned.older
  others := fun n a' hn here' => by
    have hlt := (List.getElem?_eq_some_iff.1 here').1
    rw [h.length] at hlt
    obtain ⟨b, hb, hrests⟩ := h.others n hn _ (List.getElem?_eq_getElem hlt)
    obtain rfl := Option.some.inj (here'.symm.trans hb)
    exact .inl ⟨_, List.getElem?_eq_getElem hlt, hrests.work, hrests.stage, hrests.cancelAsked⟩

theorem Opens.stretch {document : Document} (h : Opens number a document p p')
    (changes : Changes actor p p') : Stretch number p p' where
  ready := changes.ready
  gates := by rw [h.gates]; exact List.Subset.refl _
  promised := fun _ _ hpromised => hpromised.changes changes
  older := older_of_providers h.providers
  others := fun n a' hn here' => by
    obtain ⟨stage, work, after, -, hwork, -, hactivities⟩ := h.activities
    obtain ⟨notes, -, hready⟩ := h.ready
    rw [hactivities] at here'
    by_cases hlt : n < p.activities.length
    · rw [List.getElem?_append_left (by rwa [List.length_set]),
        List.getElem?_set_ne (Ne.symm hn)] at here'
      exact .inl ⟨a', here', rfl, rfl, rfl⟩
    · -- one that the query has started
      obtain ⟨i, rfl⟩ := Nat.exists_eq_add_of_le (Nat.le_of_not_lt hlt)
      have hi : i < p.providers.length := by
        have hlength := (List.getElem?_eq_some_iff.1 here').1
        rw [List.length_append, List.length_set, askers_length] at hlength
        omega
      rw [asker_here work after _ hi] at here'
      obtain rfl := Option.some.inj here'
      refine .inr ⟨rfl, rfl, ?_, fun j l hload => ?_⟩
      · rw [hready]
        refine List.mem_append_left _ (List.mem_append_right _ (List.mem_map_of_mem ?_))
        exact List.mem_range'_1.2 (by omega)
      · have hrole := hwork (fun _ => true) i
        change (work i) = _ at hload
        rw [hload] at hrole
        cases hrole

theorem exists_of_awaitLoad {n other : Nat} (hn : n ≠ number)
    (here' : (p.awaitLoad number other).activities[n]? = some a') :
    ∃ a, p.activities[n]? = some a ∧ a'.work = a.work ∧ a'.stage = a.stage ∧
      a'.cancelAsked = a.cancelAsked := by
  rcases setActivity_cases here' with ⟨-, here⟩ | ⟨rfl, -⟩
  · unfold whenOver at here
    split at here
    · exact ⟨a', here, rfl, rfl, rfl⟩
    · rcases setActivity_cases here with ⟨-, hbefore⟩ | ⟨rfl, a, hbefore, rfl⟩
      · exact ⟨a', hbefore, rfl, rfl, rfl⟩
      · exact ⟨a, hbefore, rfl, rfl, rfl⟩
  · exact absurd rfl hn

theorem awaitLoad_gates (other : Nat) : (p.awaitLoad number other).gates = p.gates := by
  unfold awaitLoad whenOver
  split <;> rfl

theorem awaitLoad_ready (other : Nat) : p.ready ⊆ (p.awaitLoad number other).ready := by
  unfold awaitLoad whenOver
  split
  · exact List.subset_append_left _ _
  · exact List.Subset.refl _

theorem askProvider_stretch {b : Bibliography σ} {document : Document}
    (hb : p.bibliography? provider = some b) (attended : Attended provider p)
    (changes : Changes actor p (p.askProvider number provider document))
    (turned : Turned library called warned p (p.askProvider number provider document)) :
    Stretch number p (p.askProvider number provider document) := by
  cases hshared : b.shared? document with
  | some load =>
    -- it joins a load, and every load of a bibliography is somebody's work
    obtain ⟨hloading, -⟩ := Bibliography.shared?_eq_some.1 hshared
    obtain ⟨other, c, hthere, hwork⟩ := attended b hb load hloading.lt
    obtain ⟨other, -, hfound, -⟩ := exists_loadActivity? hthere hwork
    rw [askProvider_of_shared hb hshared hfound] at changes turned ⊢
    exact
      { ready := changes.ready
        gates := by rw [awaitLoad_gates]; exact List.Subset.refl _
        promised := fun _ _ hpromised => hpromised.changes changes
        older := fun _ _ => turned.older
        others := fun n a' hn here' =>
          .inl (exists_of_awaitLoad (p := p.report [joiningRecord]) hn here') }
  | none =>
    have hstarted : (p.startedLoad provider document b).activities[p.activities.length]? =
        some { work := .load provider b.loads.length } := List.getElem?_concat_length
    obtain ⟨other, -, hfound, -⟩ := exists_loadActivity? hstarted rfl
    rw [askProvider_of_not_shared hb hshared hfound] at changes turned ⊢
    refine
      { ready := changes.ready
        gates := by rw [awaitLoad_gates]; exact List.Subset.refl _
        promised := fun _ _ hpromised => hpromised.changes changes
        older := fun _ _ => turned.older
        others := fun n a' hn here' => ?_ }
    obtain ⟨a, here, hwork, hstage, hcancel⟩ := exists_of_awaitLoad hn here'
    by_cases hlt : n < p.activities.length
    · exact .inl ⟨a, (List.getElem?_append_left hlt).symm.trans here, hwork, hstage, hcancel⟩
    · -- the load that was started
      obtain ⟨rfl, rfl⟩ := new_of_append_singleton here (Nat.le_of_not_lt hlt)
      refine .inr ⟨hstage, hcancel, awaitLoad_ready other ?_, fun i l hload => ?_⟩
      · exact List.mem_append_right _ (List.mem_singleton_self _)
      · cases hwork.symm.trans hload
        have hafter : ((p.startedLoad provider document b).awaitLoad number other).bibliography?
            provider = some { b with loads := b.loads ++ [{ document }] } := by
          rw [bibliography?, awaitLoad_providers]
          exact startedLoad_bibliography? hb
        exact ⟨_, hafter, by simp⟩

theorem tell_stretch {fits : Pause → Bool} {ending : Ending}
    (changes : Changes actor p (p.tell fits number ending)) :
    Stretch number p (p.tell fits number ending) where
  ready := changes.ready
  gates := by
    unfold tell
    split
    · split <;> exact List.Subset.refl _
    · exact List.Subset.refl _
  promised := fun _ _ hpromised => hpromised.changes changes
  older := older_of_providers (tell_providers ..)
  others := fun n a' hn here' => by
    unfold tell at here'
    split at here'
    · split at here'
      · rcases setActivity_cases here' with ⟨-, here⟩ | ⟨rfl, -⟩
        · exact .inl ⟨a', here, rfl, rfl, rfl⟩
        · exact absurd rfl hn
      · exact .inl ⟨a', here', rfl, rfl, rfl⟩
    · exact .inl ⟨a', here', rfl, rfl, rfl⟩

end Panel

end CiteSync.Completion
