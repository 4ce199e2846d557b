import CiteSync.Proofs.Completion.Panel.Turns
import CiteSync.Proofs.Session.Interleaving
import CiteSync.Proofs.Session.Whole
import CiteSync.Remote.Script
import Mathlib.Logic.Function.Basic

/-!
# Loads are cycles

What is proved of the cycles of a document in traffic holds of a bibliography as well, because its
loads are such cycles: each turn of a bibliography is an event of the traffic, or none.  A load that
was not started yet is no cycle so far, and neither is one that was given up before.
-/

namespace CiteSync.Session

open Library Remote FrontMatter

variable {σ : Type} {library : RemoteLibrary σ}

/-! ## 1. Events of a library -/

/-- A library that answers every cycle as a registry does. -/
def Registry.Rules (R : Registry) (library : RemoteLibrary σ) : Prop :=
  ∀ document request remote sent,
    (library.collections document request.roots request.known request.useCache remote).1.sent? =
      some sent → R.Answers request sent

namespace Traffic

variable {t : Traffic} {R : Registry} {number : Nat} {document : Document} {request : Request}

variable (library) in
/-- What may happen as a bibliography is loaded: documents name what is to be loaded, and answers
are those of the library unless a load is given up. -/
inductive Arises (t : Traffic) : Event → Prop
  | load (document : Document) : Arises t (.load document none)
  | tree {number : Nat} {document : Document} {request : Request}
    (asking : t.cycles[number]? = some ⟨document, .askingTree request⟩) (remote : σ) :
    Arises t (.tree number 0 (library.specs document request.roots remote).1)
  | collections {number : Nat} {document : Document} {request : Request}
    (asking : t.cycles[number]? = some ⟨document, .askingCollections request⟩) (remote : σ) :
    Arises t (.collections number 0
      (library.collections document request.roots request.known request.useCache remote).1)
  | treeGivenUp (number : Nat) : Arises t (.tree number 0 { result := .error (.cancelled "") })
  | collectionsGivenUp (number : Nat) :
    Arises t (.collections number 0 { result := .error (.cancelled "") })
  | close : Arises t .close

variable (library) in
def Arise : Traffic → List Event → Prop
  | _, [] => True
  | t, event :: rest => t.Arises library event ∧ (t.step event).Arise rest

theorem Arise.single {event : Event} (h : t.Arises library event) : t.Arise library [event] :=
  ⟨h, trivial⟩

theorem Arise.append {first rest : List Event} (h : t.Arise library first)
    (h' : (t.run first).Arise library rest) : t.Arise library (first ++ rest) := by
  induction first generalizing t with
  | nil => exact h'
  | cons event first ih => exact ⟨h.1, ih h.2 h'⟩

theorem Arises.allowed {event : Event} (rules : R.Rules library) (h : t.Arises library event) :
    R.Allows t event := by
  cases h with
  | collections asking remote =>
    intro document request sent hat hsent
    cases asking.symm.trans hat
    exact rules _ _ remote sent hsent
  | collectionsGivenUp =>
    intro _ _ _ _ hsent
    cases hsent
  | load | tree | treeGivenUp | close => trivial

theorem Arise.admitted {events : List Event} (rules : R.Rules library)
    (h : t.Arise library events) : R.Admits t events := by
  induction events generalizing t with
  | nil => trivial
  | cons event rest ih => exact ⟨h.1.allowed rules, ih h.2⟩

theorem hearTree_session (asking : t.cycles[number]? = some ⟨document, .askingTree request⟩)
    (elapsed : Float) (arrival : Arrival (Reply (List Spec))) :
    (t.hearTree number elapsed arrival).session =
      (t.session.hearTree document elapsed arrival).session := by
  unfold hearTree
  simp only [asking]

theorem hearTree_cycles_of_none {elapsed : Float} {arrival : Arrival (Reply (List Spec))}
    (asking : t.cycles[number]? = some ⟨document, .askingTree request⟩)
    (hresult : (t.session.hearTree document elapsed arrival).result = none) :
    (t.hearTree number elapsed arrival).cycles =
      t.cycles.set number ⟨document, .askingCollections request⟩ := by
  unfold hearTree
  simp only [asking, hresult]

theorem hearTree_cycles_of_some {elapsed : Float} {arrival : Arrival (Reply (List Spec))}
    {result : Except Failure Bool}
    (asking : t.cycles[number]? = some ⟨document, .askingTree request⟩)
    (hresult : (t.session.hearTree document elapsed arrival).result = some result) :
    (t.hearTree number elapsed arrival).cycles =
      t.cycles.set number ⟨document, .ended result⟩ := by
  unfold hearTree
  simp only [asking, hresult]

theorem hearCollections_of_asking
    (asking : t.cycles[number]? = some ⟨document, .askingCollections request⟩) (elapsed : Float)
    (arrival : Arrival (Reply (List Collection))) :
    t.hearCollections number elapsed arrival =
      { session := (t.session.conclude document elapsed request arrival).session
        cycles := t.cycles.set number
          ⟨document, .ended (t.session.conclude document elapsed request arrival).result⟩
        records := t.records ++
          (t.session.conclude document elapsed request arrival).records } := by
  unfold hearCollections
  simp only [asking]

end Traffic

variable {s : Session} {document : Document} {elapsed : Float} {request : Request}
  {arrival : Arrival (Reply (List Spec))} {remote : σ}

theorem askCollections_of_none (h : (s.hearTree document elapsed arrival).result = none) :
    askCollections library document elapsed request arrival s remote =
      (⟨.waiting request
          (library.collections document request.roots request.known request.useCache remote).1,
        (s.hearTree document elapsed arrival).session,
        (s.hearTree document elapsed arrival).records⟩,
        (library.collections document request.roots request.known request.useCache remote).2) := by
  unfold askCollections
  simp only [h]

theorem askCollections_of_some {result : Except Failure Bool}
    (h : (s.hearTree document elapsed arrival).result = some result) :
    askCollections library document elapsed request arrival s remote =
      (⟨.ended result, (s.hearTree document elapsed arrival).session,
        (s.hearTree document elapsed arrival).records⟩, remote) := by
  unfold askCollections
  simp only [h]

end CiteSync.Session

namespace CiteSync.Completion

open Library Remote Session FrontMatter

variable {σ : Type} {library : RemoteLibrary σ}

/-! ## 2. Cycles of loads -/

/-- How far the cycle of a load has come, if it has one. -/
def Load.stage? (l : Load) : Option Session.Stage :=
  match l.waiting with
  | some (.tree request _) => some (.askingTree request)
  | some (.collections request _) => some (.askingCollections request)
  | none => l.result.map .ended

/-- A load that needs no cycle: it was not started, or it was given up. -/
def Load.IsAside (l : Load) : Prop :=
  ∀ stage ∈ l.stage?, stage = .ended (.error (.cancelled ""))

/-- The answer to a cycle about a document is one of the library. -/
def Awaited.IsFrom (library : RemoteLibrary σ) (document : Document) : Awaited → Prop
  | tree request arrival => ∃ remote, (library.specs document request.roots remote).1 = arrival
  | collections request arrival => ∃ remote,
    (library.collections document request.roots request.known request.useCache remote).1 = arrival

/-- Whatever a load waits for is an answer of the library. -/
def Load.IsAnswered (library : RemoteLibrary σ) (l : Load) : Prop :=
  ∀ awaited, l.waiting = some awaited → awaited.IsFrom library l.document

theorem Load.IsAnswered.of_none {l : Load} (h : l.waiting = none) : l.IsAnswered library := by
  intro awaited hwaiting
  rw [h] at hwaiting
  cases hwaiting

variable (library) in
/-- A bibliography does what a traffic does: it has the same session, and its loads are cycles of
the traffic, each by its number there. -/
structure Bibliography.Follows (b : Bibliography σ) (t : Traffic) (place : Nat → Option Nat) :
    Prop where
  session : b.session = t.session
  cycles : ∀ n k, place n = some k → ∃ load stage, b.loads[n]? = some load ∧
    load.stage? = some stage ∧ t.cycles[k]? = some ⟨load.document, stage⟩
  apart : ∀ n m k, place n = some k → place m = some k → n = m
  aside : ∀ n load, b.loads[n]? = some load → place n = none → load.IsAside
  answers : ∀ load ∈ b.loads, load.IsAnswered library

variable (library) in
/-- A bibliography does what a traffic does after more of what may happen there. -/
def Bibliography.FollowsAfter (b : Bibliography σ) (t : Traffic) : Prop :=
  ∃ events place, t.Arise library events ∧ b.Follows library (t.run events) place

namespace Bibliography

variable {b : Bibliography σ} {t t' : Traffic} {place : Nat → Option Nat} {number : Nat}

variable (library) in
theorem Follows.new (t : Traffic) (remote : σ) (gated treeGated : Bool) :
    ({ session := t.session, remote, gated, treeGated } : Bibliography σ).Follows library t
      fun _ => none where
  session := rfl
  cycles := fun _ _ h => nomatch h
  apart := fun _ _ _ h => nomatch h
  aside := fun _ _ hload => nomatch hload
  answers := fun _ hload => (List.not_mem_nil hload).elim

theorem Follows.after (h : b.Follows library t place) : b.FollowsAfter library t :=
  ⟨[], place, trivial, h⟩

theorem FollowsAfter.trans {events : List Event} (harise : t.Arise library events)
    (h : b.FollowsAfter library (t.run events)) : b.FollowsAfter library t := by
  obtain ⟨more, place, hmore, hfollows⟩ := h
  refine ⟨events ++ more, place, harise.append hmore, ?_⟩
  rwa [Traffic.run_append]

/-! ## 3. One turn -/

/-- One load goes on, and all others are what they were. -/
theorem Follows.setLoad (h : b.Follows library t place) {load : Load} {change : Load → Load}
    {next : Option Nat} {s : Session} {remote : σ} (hload : b.loads[number]? = some load)
    (session : s = t'.session)
    (others : ∀ n k, n ≠ number → place n = some k → next ≠ some k ∧ t'.cycles[k]? = t.cycles[k]?)
    (document : (change load).document = load.document)
    (self : ∀ k, next = some k → ∃ stage, (change load).stage? = some stage ∧
      t'.cycles[k]? = some ⟨load.document, stage⟩)
    (aside : next = none → (change load).IsAside)
    (answer : (change load).IsAnswered library) :
    ({ b with session := s, remote }.setLoad number change).Follows library t'
      (Function.update place number next) := by
  have hself : (b.setLoad number change).loads[number]? = some (change load) :=
    setLoad_self hload change
  have hother : ∀ n, n ≠ number → (b.setLoad number change).loads[n]? = b.loads[n]? :=
    fun n hn => setLoad_other hn change
  -- Everything is by cases on whether the load in question is the one that goes on.
  refine ⟨session, fun n k hplace => ?_, fun n m k hn hm => ?_, fun n l hl hplace => ?_,
    fun l hmem => ?_⟩
  · rw [Function.update_apply] at hplace
    split at hplace
    next hnumber =>
      subst hnumber
      obtain ⟨stage, hstage, hcycle⟩ := self k hplace
      exact ⟨_, stage, hself, hstage, by rw [document, hcycle]⟩
    next hnumber =>
      obtain ⟨l, stage, hl, hstage, hcycle⟩ := h.cycles n k hplace
      exact ⟨l, stage, (hother n hnumber).trans hl, hstage,
        (others n k hnumber hplace).2.trans hcycle⟩
  · rw [Function.update_apply] at hn hm
    split at hn <;> split at hm
    next hnumber hnumber' => rw [hnumber, hnumber']
    next hnumber' => exact absurd hn (others m k hnumber' hm).1
    next hnumber _ => exact absurd hm (others n k hnumber hn).1
    next => exact h.apart n m k hn hm
  · rw [Function.update_apply] at hplace
    split at hplace
    next hnumber =>
      subst hnumber
      rw [← Option.some.inj (hself.symm.trans hl)]
      exact aside hplace
    next hnumber => exact h.aside n l ((hother n hnumber).symm.trans hl) hplace
  · obtain ⟨n, hn⟩ := List.mem_iff_getElem?.1 hmem
    by_cases hnumber : n = number
    · subst hnumber
      rw [← Option.some.inj (hself.symm.trans hn)]
      exact answer
    · exact h.answers l (List.mem_of_getElem? ((hother n hnumber).symm.trans hn))

/-- A load that begins is the newest cycle. -/
theorem Follows.begins (h : b.Follows library t place) {load : Load} {change : Load → Load}
    {s : Session} {remote : σ} (stage : Session.Stage) (hload : b.loads[number]? = some load)
    (hloaded : t.load load.document none =
      { t with session := s, cycles := t.cycles ++ [⟨load.document, stage⟩] })
    (document : (change load).document = load.document)
    (hstage : (change load).stage? = some stage)
    (answer : (change load).IsAnswered library) :
    ({ b with session := s, remote }.setLoad number change).FollowsAfter library t := by
  have hrun : t.run [.load load.document none] =
      { t with session := s, cycles := t.cycles ++ [⟨load.document, stage⟩] } := hloaded
  refine ⟨[.load load.document none], Function.update place number (some t.cycles.length),
    .single (.load _), ?_⟩
  rw [hrun]
  refine h.setLoad hload rfl (fun n k _ hplace => ?_) document (fun k hk => ?_) nofun answer
  · obtain ⟨_, _, -, -, hcycle⟩ := h.cycles n k hplace
    have hlt := (List.getElem?_eq_some_iff.1 hcycle).1
    exact ⟨fun heq => Nat.ne_of_gt hlt (Option.some.inj heq), List.getElem?_append_left hlt⟩
  · obtain rfl := Option.some.inj hk
    exact ⟨stage, hstage, List.getElem?_concat_length⟩

/-- A load that waits is a cycle. -/
theorem Follows.place_of_waiting (h : b.Follows library t place) {load : Load}
    {stage : Session.Stage} (hload : b.loads[number]? = some load)
    (hstage : load.stage? = some stage) (going : stage ≠ .ended (.error (.cancelled ""))) :
    ∃ k, place number = some k ∧ t.cycles[k]? = some ⟨load.document, stage⟩ := by
  cases hplace : place number with
  | none => exact absurd (h.aside number load hload hplace stage hstage) going
  | some k =>
    obtain ⟨l, stage', hl, hstage', hcycle⟩ := h.cycles number k hplace
    obtain rfl := Option.some.inj (hload.symm.trans hl)
    obtain rfl := Option.some.inj (hstage.symm.trans hstage')
    exact ⟨k, rfl, hcycle⟩

/-- A load goes on as its cycle does. -/
theorem Follows.goesOn (h : b.Follows library t place) {load : Load} {change : Load → Load}
    {k : Nat} {stage : Session.Stage} {event : Event} {s : Session} {remote : σ}
    {cycle : Cycle} (hload : b.loads[number]? = some load) (hplace : place number = some k)
    (hcycle : t.cycles[k]? = some cycle) (arises : t.Arises library event)
    (session : s = (t.step event).session)
    (hcycles : (t.step event).cycles = t.cycles.set k ⟨load.document, stage⟩)
    (document : (change load).document = load.document)
    (hstage : (change load).stage? = some stage)
    (answer : (change load).IsAnswered library) :
    ({ b with session := s, remote }.setLoad number change).FollowsAfter library t := by
  have hrun : t.run [event] = t.step event := rfl
  refine ⟨[event], Function.update place number (some k), .single arises, ?_⟩
  rw [hrun]
  refine h.setLoad hload session (fun n j hn hj => ?_) document
    (fun j hj => ⟨stage, hstage, ?_⟩) nofun answer
  · have hne : k ≠ j := fun hk => hn (h.apart n number j hj (hk ▸ hplace))
    refine ⟨fun heq => hne (Option.some.inj heq), ?_⟩
    rw [hcycles, List.getElem?_set_ne hne]
  · obtain rfl := Option.some.inj hj
    rw [hcycles, List.getElem?_set_self (List.getElem?_eq_some_iff.1 hcycle).1]

/-- A load that begins is the next cycle, if there is such a load. -/
theorem Follows.beginLoad (h : b.Follows library t place) (number : Nat) :
    (b.beginLoad library number).FollowsAfter library t := by
  unfold Bibliography.beginLoad
  split
  next => exact h.after
  next load hload =>
    -- the traffic wants and starts the same, since it has the same session
    have hsession := h.session
    split
    next cause hwanted =>
      refine h.begins (.ended (.error (.fault cause))) hload ?_ rfl rfl (.of_none rfl)
      rw [hsession] at hwanted ⊢
      unfold Traffic.load
      rw [hwanted]
    next scope hwanted =>
      split
      next changed s hstart =>
        refine h.begins (.ended (.ok changed)) hload ?_ rfl rfl (.of_none rfl)
        rw [hsession] at hwanted hstart
        unfold Traffic.load
        simp only [hwanted, hstart]
      next request s hstart =>
        refine h.begins (.askingTree request) hload ?_ rfl rfl fun awaited hwaiting => ?_
        · rw [hsession] at hwanted hstart
          unfold Traffic.load
          simp only [hwanted, hstart]
        · cases hwaiting
          exact ⟨b.remote, rfl⟩

theorem Follows.hearTree (h : b.Follows library t place) {load : Load} {request : Request}
    {arrival : Arrival (Reply (List Spec))} (hload : b.loads[number]? = some load)
    (hwaiting : load.waiting = some (.tree request arrival)) :
    (b.hearTree library number load.document request arrival).1.FollowsAfter library t := by
  have hsession := h.session
  have hstage : load.stage? = some (.askingTree request) := by rw [Load.stage?, hwaiting]
  obtain ⟨k, hplace, hcycle⟩ := h.place_of_waiting hload hstage (by simp)
  obtain ⟨remote, harrival⟩ := h.answers _ (List.mem_of_getElem? hload) _ hwaiting
  have harises : t.Arises library (.tree k 0 arrival) := harrival ▸ .tree hcycle remote
  have hheard : (b.session.hearTree load.document 0 arrival).session =
      (t.step (.tree k 0 arrival)).session := by
    rw [hsession]
    exact (Traffic.hearTree_session hcycle 0 arrival).symm
  unfold Bibliography.hearTree
  cases hresult : (b.session.hearTree load.document 0 arrival).result with
  | none =>
    rw [Session.askCollections_of_none hresult]
    refine h.goesOn hload hplace hcycle harises hheard
      (Traffic.hearTree_cycles_of_none hcycle (hsession ▸ hresult)) rfl rfl
      fun awaited hawaited => ?_
    cases hawaited
    exact ⟨b.remote, rfl⟩
  | some ended =>
    rw [Session.askCollections_of_some hresult]
    exact h.goesOn hload hplace hcycle harises hheard
      (Traffic.hearTree_cycles_of_some hcycle (hsession ▸ hresult)) rfl rfl (.of_none rfl)

theorem Follows.hearCollections (h : b.Follows library t place) {load : Load} {request : Request}
    {arrival : Arrival (Reply (List Collection))} (hload : b.loads[number]? = some load)
    (hwaiting : load.waiting = some (.collections request arrival)) :
    (b.hearCollections number load.document request arrival).1.FollowsAfter library t := by
  have hstage : load.stage? = some (.askingCollections request) := by rw [Load.stage?, hwaiting]
  obtain ⟨k, hplace, hcycle⟩ := h.place_of_waiting hload hstage (by simp)
  obtain ⟨remote, harrival⟩ := h.answers _ (List.mem_of_getElem? hload) _ hwaiting
  have harises : t.Arises library (.collections k 0 arrival) :=
    harrival ▸ .collections hcycle remote
  have hstep : t.step (.collections k 0 arrival) = _ :=
    Traffic.hearCollections_of_asking hcycle 0 arrival
  unfold Bibliography.hearCollections
  refine h.goesOn hload hplace hcycle harises ?_ (congrArg Traffic.cycles hstep) rfl ?_
    (.of_none rfl)
  · rw [hstep, h.session]
  · rw [h.session]
    rfl

/-- A load takes an answer as its cycle does, if it waits for one. -/
theorem Follows.takeAnswer (h : b.Follows library t place) (number : Nat) :
    (b.takeAnswer library number).1.FollowsAfter library t := by
  unfold Bibliography.takeAnswer
  split
  next hload =>
    have hheard := h.hearTree hload rfl
    exact hheard
  next hload =>
    have hheard := h.hearCollections hload rfl
    exact hheard
  next => exact h.after

/-- A load that is given up ends its cycle, if it waits there. -/
theorem Follows.cancelLoad (h : b.Follows library t place) (number : Nat) :
    (b.cancelLoad number).1.FollowsAfter library t := by
  cases hload : b.loads[number]? with
  | none =>
    have hsame : (b.cancelLoad number).1 = b := by
      show b.setLoad number _ = b
      rw [Bibliography.setLoad, List.modify_eq_self (List.getElem?_eq_none_iff.1 hload)]
    rw [hsame]
    exact h.after
  | some load =>
    have hsession := h.session
    have hgiven : (b.cancelLoad number).1 =
        { b with session := b.session, remote := b.remote }.setLoad number
          (.ended (.error (.cancelled ""))) := rfl
    rw [hgiven]
    rcases load with ⟨document, _ | ⟨request, arrival⟩ | ⟨request, arrival⟩, result⟩
    · -- it was not started, or it has ended before
      refine ⟨[], Function.update place number none, trivial, ?_⟩
      refine h.setLoad hload hsession (fun n k _ _ => ⟨by simp, rfl⟩) rfl (by simp)
        (fun _ stage hstage => ?_) (.of_none rfl)
      cases hstage
      rfl
    · -- it waits for the collection tree
      obtain ⟨k, hplace, hcycle⟩ := h.place_of_waiting hload rfl (by simp)
      have hheard := Traffic.hearTree_session hcycle 0 { result := .error (.cancelled "") }
      refine h.goesOn hload hplace hcycle (.treeGivenUp k) ?_
        (Traffic.hearTree_cycles_of_some hcycle rfl) rfl rfl (.of_none rfl)
      rw [hsession]
      exact hheard.symm
    · -- it waits for the collections
      obtain ⟨k, hplace, hcycle⟩ := h.place_of_waiting hload rfl (by simp)
      have hstep := Traffic.hearCollections_of_asking hcycle 0
        { result := .error (.cancelled "") }
      refine h.goesOn hload hplace hcycle (.collectionsGivenUp k) ?_
        (congrArg Traffic.cycles hstep) rfl rfl (.of_none rfl)
      rw [hsession]
      exact (congrArg Traffic.session hstep).symm

theorem Follows.join (h : b.Follows library t place) (document : Document) :
    (b.join document).2.2.Follows library t place := by
  unfold Bibliography.join
  split
  next => exact h
  next =>
    refine ⟨h.session, fun n k hplace => ?_, h.apart, fun n load hload hplace => ?_,
      fun load hmem => ?_⟩
    · obtain ⟨load, stage, hload, hstage, hcycle⟩ := h.cycles n k hplace
      exact ⟨load, stage, getElem?_append_of_some hload, hstage, hcycle⟩
    · by_cases hlt : n < b.loads.length
      · exact h.aside n load ((List.getElem?_append_left hlt).symm.trans hload) hplace
      · obtain ⟨rfl, rfl⟩ := new_of_append_singleton hload (Nat.le_of_not_lt hlt)
        exact nofun
    · rcases List.mem_append.1 hmem with hold | hnew
      · exact h.answers load hold
      · rw [List.mem_singleton.1 hnew]
        exact .of_none rfl

/-- A turn of a bibliography is an event of the traffic or none, unless somebody sets a warning. -/
theorem Follows.turn (h : b.Follows library t place) {called warned : Prop} {q : Provider σ}
    (hturn : Provider.Turn library called warned (.bibliography b) q) :
    (warned ∧ ∃ warning, q = .bibliography { b with session := { b.session with warning } }) ∨
      ∃ b', q = .bibliography b' ∧ b'.FollowsAfter library t := by
  cases hturn with
  | warned now _ warning => exact .inl ⟨now, warning, rfl⟩
  | joined _ _ document => exact .inr ⟨_, rfl, (h.join document).after⟩
  | begun _ number => exact .inr ⟨_, rfl, h.beginLoad number⟩
  | answered _ number => exact .inr ⟨_, rfl, h.takeAnswer number⟩
  | cancelled _ number => exact .inr ⟨_, rfl, h.cancelLoad number⟩
  | closed =>
    refine .inr ⟨_, rfl, [.close], place, .single .close, ?_⟩
    exact { h with session := congrArg Session.close h.session }

theorem FollowsAfter.turns (h : b.FollowsAfter library t) {called warned : Prop}
    (hwarned : ¬warned) {q : Provider σ}
    (hturns : Provider.Turns library called warned (.bibliography b) q) :
    ∃ b', q = .bibliography b' ∧ b'.FollowsAfter library t := by
  refine hturns.keeps (fun q => ∃ b', q = .bibliography b' ∧ b'.FollowsAfter library t) ?_
    ⟨b, rfl, h⟩
  rintro _ _ hturn ⟨b', rfl, events, place, harise, hfollows⟩
  obtain ⟨b'', rfl, hlater⟩ := (hfollows.turn hturn).resolve_left fun hnow => hwarned hnow.1
  exact ⟨b'', rfl, hlater.trans harise⟩

end Bibliography

/-! ## 4. Courses -/

namespace Panel

variable {p : Panel σ} {i : Nat} {b : Bibliography σ} {t : Traffic}

/-- Whatever is done with a panel, a traffic goes on beside it whose cycles are the loads of its
bibliography. -/
theorem course_follows (hb : p.bibliography? i = some b) (h : b.FollowsAfter library t)
    (moves : List Move) (unwarned : ∀ m ∈ moves, ¬m.Warns i) :
    ∃ b', (p.course library moves).bibliography? i = some b' ∧ b'.FollowsAfter library t := by
  induction moves generalizing p b with
  | nil => exact ⟨b, hb, h⟩
  | cons m moves ih =>
    obtain ⟨q, hq, hturns⟩ := (p.move_turned library m).turns i _ (bibliography?_eq_some.1 hb)
    obtain ⟨b', rfl, hafter⟩ := h.turns (unwarned m List.mem_cons_self) hturns
    exact ih (bibliography?_eq_some.2 hq) hafter fun m hm => unwarned m (List.mem_cons_of_mem _ hm)

/-- So the session of a bibliography has a history, and what is proved of all histories holds
of it. -/
theorem course_lived {path : Option String} {occurrences : List Occurrence} {remote : σ}
    {gated treeGated : Bool}
    (hb : p.bibliography? i =
      some { session := lived path occurrences, remote, gated, treeGated })
    (moves : List Move) (unwarned : ∀ m ∈ moves, ¬m.Warns i) :
    ∃ b' events, (p.course library moves).bibliography? i = some b' ∧
      ((Traffic.opened path).history occurrences).Arise library events ∧
      b'.session = lived path (occurrences ++ events.map .event) := by
  have hnew := (Bibliography.Follows.new library ((Traffic.opened path).history occurrences)
    remote gated treeGated).after
  obtain ⟨b', hb', events, place, harise, hfollows⟩ := course_follows hb hnew moves unwarned
  refine ⟨b', events, hb', harise, hfollows.session.trans ?_⟩
  unfold lived Traffic.history Traffic.run
  rw [List.foldl_append, List.foldl_map]
  rfl

/-- In whatever order the gates are opened, a stored collection holds the body of its version, and
once the document was closed nothing is stored any more. -/
theorem course_guards {R : Registry} (rules : R.Rules library) {path : Option String}
    {remote : σ} {gated treeGated : Bool}
    (hb : p.bibliography? i = some { session := .opened path, remote, gated, treeGated })
    (moves : List Move) (unwarned : ∀ m ∈ moves, ¬m.Warns i) :
    ∃ b', (p.course library moves).bibliography? i = some b' ∧ R.Guards b'.session := by
  have hnew := (Bibliography.Follows.new library (Traffic.opened path) remote gated treeGated).after
  obtain ⟨b', hb', events, place, harise, hfollows⟩ := course_follows hb hnew moves unwarned
  have hsound := (Registry.Sound.opened path).run (harise.admitted rules)
  exact ⟨b', hb', hfollows.session ▸ hsound.session⟩

/-- A bibliography both of whose answers are held back. -/
def slowPanel : Panel Script :=
  ofProviders [.bibliography
    { session := .opened none, remote := {}, gated := true, treeGated := true }] none

/-- Its load waits for the collection tree, and then for the collections. -/
example :
    (slowPanel.course Script.library [.bringUpToDate 0 {}, .happen, .happen, .release 0 .all,
      .happen]).gates = [(0, 1)] ∧
    (slowPanel.course Script.library [.bringUpToDate 0 {}, .happen, .happen, .release 0 .all,
      .happen, .release 0 .all, .happen]).gates = [] := by decide

end Panel

end CiteSync.Completion
