import CiteSync.Proofs.Completion.Panel.Frames
import CiteSync.Proofs.Completion.Panel.Progress
import CiteSync.Remote.Script
import Mathlib.Data.List.Induction

/-!
# Shared loads

Who asks a bibliography for a document joins the load that was started last, if that is for the same
document and has not ended, and starts another load if not.  So there is at most one load for each
document at a time exactly as long as nobody asks for a document whose load goes on behind one that
was started later for another document.
-/

namespace CiteSync.Completion

open Remote

variable {σ : Type} {library : RemoteLibrary σ}

/-! ## 1. The loads of a bibliography -/

namespace Load

/-- A load has started and waits for an answer, or has ended. -/
def Begun (l : Load) : Prop := l.waiting.isSome ∨ l.result.isSome

/-- A load that has come as far as before, or further. -/
structure Further (l l' : Load) : Prop where
  document : l'.document = l.document
  begun : l.Begun → l'.Begun
  going : l'.result = none → l.result = none

theorem Further.refl (l : Load) : l.Further l := ⟨rfl, fun h => h, fun h => h⟩

theorem Further.awaiting (awaited : Awaited) (l : Load) : l.Further (l.awaiting awaited) :=
  ⟨rfl, fun _ => .inl rfl, fun h => h⟩

theorem Further.ended (result : Except Failure Bool) (l : Load) : l.Further (l.ended result) :=
  ⟨rfl, fun _ => .inr rfl, fun h => nomatch h⟩

theorem Further.follow (progress : Session.Progress) (l : Load) :
    l.Further (l.follow progress) := by
  cases progress with
  | ended result => exact .ended result l
  | waiting request arrival => exact .awaiting _ l

end Load

namespace Bibliography

variable {b b' : Bibliography σ} {document : Document} {number : Nat}

/-- The load of that number is for a document and has not ended. -/
def Loading (b : Bibliography σ) (document : Document) (number : Nat) : Prop :=
  ∃ load, b.loads[number]? = some load ∧ load.document = document ∧ load.result = none

/-- The load of that number was started last. -/
def IsLast (b : Bibliography σ) (number : Nat) : Prop := number + 1 = b.loads.length

theorem Loading.lt (h : b.Loading document number) : number < b.loads.length := by
  obtain ⟨load, hload, -⟩ := h
  exact (List.getElem?_eq_some_iff.1 hload).1

theorem shared?_eq_some :
    b.shared? document = some number ↔ b.Loading document number ∧ b.IsLast number := by
  unfold shared? Loading IsLast
  rcases List.eq_nil_or_concat b.loads with hnil | ⟨before, last, hlast⟩
  · simp [hnil]
  · rw [hlast, List.concat_eq_append, List.getLast?_concat]
    simp only [List.length_append, List.length_singleton]
    constructor
    · intro h
      split at h
      next hgoes =>
        obtain rfl := Option.some.inj h
        simp only [Bool.and_eq_true, Option.isNone_iff_eq_none, decide_eq_true_eq] at hgoes
        exact ⟨⟨last, by simp, hgoes.2, hgoes.1⟩, by omega⟩
      next => cases h
    · rintro ⟨⟨load, hload, hdocument, hresult⟩, hnumber⟩
      obtain rfl : number = before.length := by omega
      simp only [List.getElem?_concat_length, Option.some.injEq] at hload
      subst hload
      simp [hdocument, hresult]

theorem shared?_eq_none (h : ¬∃ number, b.Loading document number ∧ b.IsLast number) :
    b.shared? document = none := by
  cases hshared : b.shared? document with
  | none => rfl
  | some number => exact absurd ⟨number, shared?_eq_some.1 hshared⟩ h

theorem join_of_shared (h : b.shared? document = some number) :
    b.join document = (number, false, b) := by
  unfold join
  rw [h]

theorem join_of_none (h : b.shared? document = none) :
    b.join document =
      (b.loads.length, true, { b with loads := b.loads ++ [{ document }] }) := by
  unfold join
  rw [h]

/-- The same loads were started, and none that has ended goes on. -/
structure Onward (b b' : Bibliography σ) : Prop where
  documents : b'.loads.map Load.document = b.loads.map Load.document
  going : ∀ document number, b'.Loading document number → b.Loading document number

theorem Onward.refl (b : Bibliography σ) : b.Onward b := ⟨rfl, fun _ _ h => h⟩

theorem Onward.trans {b'' : Bibliography σ} (h : b.Onward b') (h' : b'.Onward b'') :
    b.Onward b'' :=
  ⟨h'.documents.trans h.documents, fun _ _ hgoes => h.going _ _ (h'.going _ _ hgoes)⟩

theorem Onward.of_further (h : List.Forall₂ Load.Further b.loads b'.loads) : b.Onward b' where
  documents := (forall₂_map_eq h fun _ _ hfurther => hfurther.document.symm).symm
  going := by
    rintro document number ⟨load', hload', rfl, hgoes⟩
    obtain ⟨load, hload, hfurther⟩ := forall₂_getElem? h.flip hload'
    exact ⟨load, hload, hfurther.document.symm, hfurther.going hgoes⟩

/-! ### Stretches -/

theorem further_refl (loads : List Load) : List.Forall₂ Load.Further loads loads :=
  List.forall₂_same.2 fun load _ => .refl load

theorem setLoad_further {change : Load → Load} (h : ∀ l : Load, l.Further (change l)) :
    List.Forall₂ Load.Further b.loads (b.setLoad number change).loads :=
  forall₂_modify Load.Further.refl number h

variable (library) in
theorem beginLoad_further (b : Bibliography σ) (number : Nat) :
    List.Forall₂ Load.Further b.loads (b.beginLoad library number).loads := by
  unfold beginLoad
  split
  next => exact further_refl _
  next =>
    split
    next => exact setLoad_further (.ended _)
    next =>
      split
      next => exact setLoad_further (.ended _)
      next => exact setLoad_further (.awaiting _)

variable (library) in
theorem takeAnswer_further (b : Bibliography σ) (number : Nat) :
    List.Forall₂ Load.Further b.loads (b.takeAnswer library number).1.loads := by
  unfold takeAnswer
  split
  next => exact setLoad_further (.follow _)
  next => exact setLoad_further (.ended _)
  next => exact further_refl _

/-- A bibliography is asked, or its loads go on. -/
theorem further_of_turn {called warned : Prop} {q : Provider σ}
    (h : Provider.Turn library called warned (.bibliography b) q) :
    (called ∧ ∃ document, q = .bibliography (b.join document).2.2) ∨
      ∃ b', q = .bibliography b' ∧ List.Forall₂ Load.Further b.loads b'.loads := by
  cases h with
  | joined now _ document => exact .inl ⟨now, document, rfl⟩
  | begun _ number => exact .inr ⟨_, rfl, beginLoad_further library b number⟩
  | answered _ number => exact .inr ⟨_, rfl, takeAnswer_further library b number⟩
  | cancelled _ number => exact .inr ⟨_, rfl, setLoad_further (.ended _)⟩
  | closed | warned => exact .inr ⟨_, rfl, further_refl _⟩

/-- One that nobody asks starts no loads. -/
theorem onward_of_turns {called warned : Prop} (hcalled : ¬called) {q : Provider σ}
    (h : Provider.Turns library called warned (.bibliography b) q) :
    ∃ b', q = .bibliography b' ∧ b.Onward b' := by
  refine h.keeps (fun q => ∃ b', q = .bibliography b' ∧ b.Onward b') ?_ ⟨b, rfl, .refl b⟩
  rintro _ _ hturn ⟨b', rfl, honward⟩
  obtain ⟨b'', rfl, hfurther⟩ :=
    (further_of_turn hturn).resolve_left fun hasked => hcalled hasked.1
  exact ⟨b'', rfl, honward.trans (.of_further hfurther)⟩

end Bibliography

/-! ## 2. Those who wait for a load -/

namespace Panel

variable {p : Panel σ} {number provider load : Nat} {a : Activity} {document : Document}
  {b : Bibliography σ}

/-- An activity waits for a load, and will be told how it ended. -/
structure Joins (p : Panel σ) (number provider load : Nat) : Prop where
  waits : ∃ a, p.activities[number]? = some a ∧ a.stage = .waiting .joined none
  told : ∃ other c, p.activities[other]? = some c ∧ c.work = .load provider load ∧
    p.Promised other (.passOn number other)

theorem awaitLoad_joins {other : Nat} {c : Activity} (here : p.activities[number]? = some a)
    (there : p.activities[other]? = some c) (hne : other ≠ number)
    (work : c.work = .load provider load) :
    (p.awaitLoad number other).Joins number provider load := by
  unfold awaitLoad whenOver Panel.pause
  split
  next ended =>
    -- the load has ended, so that its answer is passed on next
    have hthere : ((p.schedule [.passOn number other]).setActivity number fun a =>
        { a with stage := .waiting .joined none }).activities[other]? = some c :=
      (setActivity_there (Ne.symm hne) _).trans there
    refine ⟨⟨_, setActivity_here here _, rfl⟩, other, c, hthere, work, c, hthere, .inr ⟨?_, ?_⟩⟩
    · rwa [activityEnding?, there, Option.bind_some] at ended
    · exact List.mem_append_right _ (List.mem_singleton_self _)
  next going =>
    -- the load passes its answer on when it ends
    have hpromised := setActivity_here there fun a =>
      { a with reactions := a.reactions ++ [.passOn number other] }
    have hhere := (setActivity_there hne fun a =>
      { a with reactions := a.reactions ++ [.passOn number other] }).trans here
    have hthere := (setActivity_there (Ne.symm hne) fun a =>
      { a with stage := .waiting .joined none }).trans hpromised
    refine ⟨⟨_, setActivity_here hhere _, rfl⟩, other, _, hthere, work, _, hthere, .inl ⟨?_, ?_⟩⟩
    · rw [activityEnding?, there, Option.bind_some] at going
      simpa using going
    · exact List.mem_append_right _ (List.mem_singleton_self _)

/-- Every load that was started has an activity. -/
def Attended (provider : Nat) (p : Panel σ) : Prop :=
  ∀ b, p.bibliography? provider = some b → ∀ load, load < b.loads.length →
    ∃ (other : Nat) (c : Activity), p.activities[other]? = some c ∧ c.work = .load provider load

theorem exists_loadActivity? {other : Nat} {c : Activity} (there : p.activities[other]? = some c)
    (work : c.work = .load provider load) :
    ∃ other c, p.loadActivity? provider load = some other ∧ p.activities[other]? = some c ∧
      c.work = .load provider load := by
  have hmem : c ∈ p.activities := List.mem_of_getElem? there
  have hsome : (p.loadActivity? provider load).isSome := by
    unfold loadActivity?
    rw [List.findIdx?_isSome, List.any_eq_true]
    exact ⟨c, hmem, by rw [work]; simp [Work.isLoad]⟩
  obtain ⟨found, hfound⟩ := Option.isSome_iff_exists.1 hsome
  obtain ⟨hlt, hload, -⟩ := List.findIdx?_eq_some_iff_getElem.1 hfound
  refine ⟨found, p.activities[found], hfound, List.getElem?_eq_getElem hlt, ?_⟩
  cases hwork : p.activities[found].work with
  | load i l =>
    rw [hwork] at hload
    simp only [Work.isLoad, Bool.and_eq_true, decide_eq_true_eq] at hload
    rw [hload.1, hload.2]
  | query | entries | refresh | wait =>
    rw [hwork] at hload
    cases hload

theorem setProvider_self {q : Provider σ} (h : p.providers[provider]? = some q) :
    p.setProvider provider q = p := by
  obtain ⟨hlt, rfl⟩ := List.getElem?_eq_some_iff.1 h
  rw [Panel.setProvider, List.set_getElem_self]

/-- Who asks for the document of the load that was started last, while it goes on, waits for it. -/
theorem askProvider_of_shared (hb : p.bibliography? provider = some b)
    (hshared : b.shared? document = some load) {other : Nat}
    (hload : p.loadActivity? provider load = some other) :
    p.askProvider number provider document =
      (p.report [joiningRecord]).awaitLoad number other := by
  have hprovider := bibliography?_eq_some.1 hb
  have hload' : (p.report [joiningRecord]).loadActivity? provider load = some other := hload
  unfold askProvider
  simp only [hprovider, Bibliography.join_of_shared hshared, setProvider_self hprovider,
    Bool.false_eq_true, if_false, hload']

/-- A bibliography that starts one more load. -/
def startedLoad (provider : Nat) (document : Document) (b : Bibliography σ) (p : Panel σ) :
    Panel σ :=
  ((p.setProvider provider
    (.bibliography { b with loads := b.loads ++ [{ document }] })).addActivity
      (.load provider b.loads.length)).2

/-- Anyone else waits for another load. -/
theorem askProvider_of_not_shared (hb : p.bibliography? provider = some b)
    (hshared : b.shared? document = none) {other : Nat}
    (hload : (p.startedLoad provider document b).loadActivity? provider b.loads.length =
      some other) :
    p.askProvider number provider document =
      (p.startedLoad provider document b).awaitLoad number other := by
  have hprovider := bibliography?_eq_some.1 hb
  unfold startedLoad at hload ⊢
  unfold askProvider
  simp only [hprovider, Bibliography.join_of_none hshared, if_true, hload]

theorem startedLoad_bibliography? (hb : p.bibliography? provider = some b) :
    (p.startedLoad provider document b).bibliography? provider =
      some { b with loads := b.loads ++ [{ document }] } := by
  refine bibliography?_eq_some.2 ?_
  show (p.providers.set provider _)[provider]? = _
  rw [List.getElem?_set_self', bibliography?_eq_some.1 hb]
  rfl

/-- Whoever asks a bibliography waits for a load. -/
theorem askProvider_joins (hb : p.bibliography? provider = some b)
    (attended : Attended provider p) (here : p.activities[number]? = some a)
    (asks : a.work.asks? = some (provider, document)) :
    (p.askProvider number provider document).bibliography? provider =
        some (b.join document).2.2 ∧
      (p.askProvider number provider document).Joins number provider (b.join document).1 := by
  have hne : ∀ {c : Activity} {load : Nat}, c.work = .load provider load → c ≠ a := by
    rintro c load hwork rfl
    rw [hwork] at asks
    cases asks
  have hother : ∀ {q : Panel σ} {other load : Nat} {c : Activity},
      q.activities[number]? = some a → q.activities[other]? = some c →
        c.work = .load provider load → other ≠ number := by
    rintro q other load c hq hc hwork rfl
    exact hne hwork (Option.some.inj (hc.symm.trans hq))
  cases hshared : b.shared? document with
  | some load =>
    obtain ⟨hloading, -⟩ := Bibliography.shared?_eq_some.1 hshared
    obtain ⟨other, c, hthere, hwork⟩ := attended b hb load hloading.lt
    obtain ⟨other, c, hfound, there, hwork⟩ := exists_loadActivity? hthere hwork
    -- nothing changes but for the one who waits
    rw [askProvider_of_shared hb hshared hfound, Bibliography.join_of_shared hshared]
    refine ⟨?_, awaitLoad_joins here there (hother here there hwork) hwork⟩
    rw [bibliography?, awaitLoad_providers]
    exact hb
  | none =>
    have here' : (p.startedLoad provider document b).activities[number]? = some a :=
      getElem?_append_of_some here
    have hstarted : (p.startedLoad provider document b).activities[p.activities.length]? =
        some { work := .load provider b.loads.length } := List.getElem?_concat_length
    obtain ⟨other, c, hfound, there, hwork⟩ := exists_loadActivity? hstarted rfl
    rw [askProvider_of_not_shared hb hshared hfound, Bibliography.join_of_none hshared]
    refine ⟨?_, awaitLoad_joins here' there (hother here' there hwork) hwork⟩
    rw [bibliography?, awaitLoad_providers]
    exact startedLoad_bibliography? hb

/-! ## 3. Calls and other moves -/

variable (library) in
/-- What becomes of a call for a document. -/
structure Called (p : Panel σ) (number provider : Nat) (document : Document) (b : Bibliography σ) :
    Prop where
  /-- It joins the load that was started last, if that is for the document and goes on. -/
  joins : ∀ load, b.Loading document load → b.IsLast load →
    (p.happen library).bibliography? provider = some b ∧
      (p.happen library).Joins number provider load
  /-- If not, another load is started. -/
  starts : (¬∃ load, b.Loading document load ∧ b.IsLast load) →
    (p.happen library).bibliography? provider =
        some { b with loads := b.loads ++ [{ document }] } ∧
      (p.happen library).Joins number provider b.loads.length

variable (library) in
theorem called_of_attended (hb : p.bibliography? provider = some b)
    (attended : Attended provider p)
    (hcall : p.nextCall? = some (number, provider, document)) :
    Called library p number provider document b := by
  obtain ⟨a, rest, -, here, hasks, -, -, hhappen⟩ := happen_of_call library hcall
  obtain ⟨hafter, hjoins⟩ :=
    askProvider_joins (p := { p with ready := rest }) hb attended here hasks
  rw [← hhappen] at hafter hjoins
  constructor
  case joins =>
    intro load hloading hlast
    rw [Bibliography.join_of_shared (Bibliography.shared?_eq_some.2 ⟨hloading, hlast⟩)]
      at hafter hjoins
    exact ⟨hafter, hjoins⟩
  case starts =>
    intro hnone
    rw [Bibliography.join_of_none (Bibliography.shared?_eq_none hnone)] at hafter hjoins
    exact ⟨hafter, hjoins⟩

variable (library) in
/-- Without a call no load is started, and none that has ended goes on. -/
theorem move_onward {m : Move} (hcalled : ¬p.CalledBy m provider)
    (hb : p.bibliography? provider = some b) :
    ∃ b', (p.move library m).bibliography? provider = some b' ∧ b.Onward b' := by
  obtain ⟨q, hq, hturns⟩ :=
    (p.move_turned library m).turns provider _ (bibliography?_eq_some.1 hb)
  obtain ⟨b', rfl, honward⟩ := Bibliography.onward_of_turns hcalled hturns
  exact ⟨b', bibliography?_eq_some.2 hq, honward⟩

variable (library) in
theorem work_move {other : Nat} {c : Activity} (there : p.activities[other]? = some c) (m : Move) :
    ∃ c', (p.move library m).activities[other]? = some c' ∧ c'.work = c.work := by
  have htaken : (p.taken m).activities[other]? = some c := by cases m <;> exact there
  have hchanges : Changes (p.mover m) (p.taken m) (p.move library m) := move_changes m
  obtain ⟨c', hc', hlater⟩ := hchanges.later htaken
  exact ⟨c', hc', hlater.work⟩

variable (library) in
theorem Attended.move (h : Attended provider p) (m : Move) :
    Attended provider (p.move library m) := by
  intro b' hb' load hload
  have hsome := (p.move_turned library m).bibliography?_isSome provider
  rw [hb'] at hsome
  obtain ⟨b, hb⟩ := Option.isSome_iff_exists.1 hsome.symm
  -- a load that was started before has kept its activity
  have hold : load < b.loads.length → ∃ (other : Nat) (c : Activity),
      (p.move library m).activities[other]? = some c ∧ c.work = .load provider load := by
    intro hlt
    obtain ⟨other, c, there, hwork⟩ := h b hb load hlt
    obtain ⟨c', there', hsame⟩ := work_move library there m
    exact ⟨other, c', there', hsame.trans hwork⟩
  by_cases hcalled : p.CalledBy m provider
  · obtain ⟨rfl, number, document, hcall⟩ := hcalled
    have hlaw := called_of_attended library hb h hcall
    by_cases hshares : ∃ load, b.Loading document load ∧ b.IsLast load
    · obtain ⟨last, hloading, hlast⟩ := hshares
      obtain rfl := Option.some.inj (hb'.symm.trans (hlaw.joins last hloading hlast).1)
      exact hold hload
    · -- the load that the call has started is the one that is waited for
      obtain ⟨hafter, hjoins⟩ := hlaw.starts hshares
      obtain rfl := Option.some.inj (hb'.symm.trans hafter)
      rw [List.length_append, List.length_singleton] at hload
      by_cases hlt : load < b.loads.length
      · exact hold hlt
      · obtain rfl : load = b.loads.length := by omega
        obtain ⟨other, c, there, hwork, -⟩ := hjoins.told
        exact ⟨other, c, there, hwork⟩
  · obtain ⟨b'', hb'', honward⟩ := move_onward library hcalled hb
    obtain rfl := Option.some.inj (hb'.symm.trans hb'')
    have hlength := congrArg List.length honward.documents
    rw [List.length_map, List.length_map] at hlength
    exact hold (by omega)

/-! ## 4. One load for each document -/

/-- At most one load goes on for each document. -/
def SharesLoads (provider : Nat) (p : Panel σ) : Prop :=
  ∀ b, p.bibliography? provider = some b → ∀ document load other,
    b.Loading document load → b.Loading document other → load = other

/-- Whether the next call, if it is for a document whose load goes on, finds that load to be the one
that was started last. -/
def AskedInTime (provider : Nat) (p : Panel σ) : Prop :=
  ∀ number document b load, p.nextCall? = some (number, provider, document) →
    p.bibliography? provider = some b → b.Loading document load → b.IsLast load

theorem loading_cases {other : Document}
    (h : ({ b with loads := b.loads ++ [{ document }] } : Bibliography σ).Loading other load) :
    b.Loading other load ∨ other = document ∧ load = b.loads.length := by
  obtain ⟨l, hl, rfl, hgoes⟩ := h
  by_cases hold : load < b.loads.length
  · exact .inl ⟨l, (List.getElem?_append_left hold).symm.trans hl, rfl, hgoes⟩
  · obtain ⟨rfl, rfl⟩ := new_of_append_singleton hl (Nat.le_of_not_lt hold)
    exact .inr ⟨rfl, rfl⟩

theorem loading_append {other : Document} (h : b.Loading other load) :
    ({ b with loads := b.loads ++ [{ document }] } : Bibliography σ).Loading other load := by
  obtain ⟨l, hl, hgoes⟩ := h
  exact ⟨l, getElem?_append_of_some hl, hgoes⟩

theorem loading_new :
    ({ b with loads := b.loads ++ [{ document }] } : Bibliography σ).Loading document
      b.loads.length :=
  ⟨{ document }, List.getElem?_concat_length, rfl, rfl⟩

variable (library) in
/-- While calls come in time, loads are shared. -/
theorem SharesLoads.move (h : SharesLoads provider p) (attended : Attended provider p) (m : Move)
    (intime : m = .happen → AskedInTime provider p) : SharesLoads provider (p.move library m) := by
  intro b' hb' other first second hfirst hsecond
  have hsome := (p.move_turned library m).bibliography?_isSome provider
  rw [hb'] at hsome
  obtain ⟨b, hb⟩ := Option.isSome_iff_exists.1 hsome.symm
  by_cases hcalled : p.CalledBy m provider
  · obtain ⟨rfl, number, document, hcall⟩ := hcalled
    have hlaw := called_of_attended library hb attended hcall
    by_cases hshares : ∃ load, b.Loading document load ∧ b.IsLast load
    · obtain ⟨last, hloading, hlast⟩ := hshares
      obtain rfl := Option.some.inj (hb'.symm.trans (hlaw.joins last hloading hlast).1)
      exact h b' hb other first second hfirst hsecond
    · -- no load goes on for the document, or the last one would
      have hnone : ∀ load, ¬b.Loading document load := fun load hloading =>
        hshares ⟨load, hloading, intime rfl number document b load hcall hb hloading⟩
      obtain rfl := Option.some.inj (hb'.symm.trans (hlaw.starts hshares).1)
      rcases loading_cases hfirst with hold | ⟨rfl, rfl⟩
      · rcases loading_cases hsecond with hold' | ⟨rfl, rfl⟩
        · exact h b hb other first second hold hold'
        · exact absurd hold (hnone first)
      · rcases loading_cases hsecond with hold' | ⟨-, rfl⟩
        · exact absurd hold' (hnone second)
        · rfl
  · obtain ⟨b'', hb'', honward⟩ := move_onward library hcalled hb
    obtain rfl := Option.some.inj (hb'.symm.trans hb'')
    exact h b hb other first second (honward.going other first hfirst)
      (honward.going other second hsecond)

variable (library) in
/-- A call that comes too late starts a second load for its document. -/
theorem AskedInTime.of_shares (h : SharesLoads provider p) (attended : Attended provider p)
    (after : SharesLoads provider (p.happen library)) : AskedInTime provider p := by
  intro number document b load hcall hb hloading
  by_cases hshares : ∃ load, b.Loading document load ∧ b.IsLast load
  · obtain ⟨last, hlastLoading, hlast⟩ := hshares
    rwa [h b hb document load last hloading hlastLoading]
  · -- otherwise two loads of the document would go on after the call
    have hstarted := ((called_of_attended library hb attended hcall).starts hshares).1
    have hsame :=
      after _ hstarted document load b.loads.length (loading_append hloading) loading_new
    exact absurd hloading.lt (by omega)

/-! ## 5. Courses -/

theorem course_snoc (first : List Move) (m : Move) :
    p.course library (first ++ [m]) = (p.course library first).move library m :=
  List.foldl_append

/-- Whoever asks a bibliography joins the load that was started last, if that is for the same
document and goes on, and starts another one if not; nothing else starts a load.  So at most one
load goes on for each document at every moment exactly if every call for a document whose load goes
on finds that load to be the one that was started last. -/
theorem loads_are_shared_iff (library : RemoteLibrary σ) (providers : List (Provider σ))
    (limit : Option Int) (provider : Nat)
    (hnew : ∀ b, .bibliography b ∈ providers → b.loads = []) (moves : List Move) :
    (∀ first number document b, first ++ [.happen] <+: moves →
      ((ofProviders providers limit).course library first).nextCall? =
        some (number, provider, document) →
      ((ofProviders providers limit).course library first).bibliography? provider = some b →
      Called library ((ofProviders providers limit).course library first) number provider document
        b) ∧
    (∀ first m b, first ++ [m] <+: moves →
      ¬((ofProviders providers limit).course library first).CalledBy m provider →
      ((ofProviders providers limit).course library first).bibliography? provider = some b →
      ∃ b', ((ofProviders providers limit).course library (first ++ [m])).bibliography? provider =
        some b' ∧ b.Onward b') ∧
    ((∀ first, first <+: moves →
        SharesLoads provider ((ofProviders providers limit).course library first)) ↔
      ∀ first, first ++ [.happen] <+: moves →
        AskedInTime provider ((ofProviders providers limit).course library first)) := by
  have hloads : ∀ b, (ofProviders providers limit).bibliography? provider = some b →
      b.loads = [] := fun b hb => hnew b (List.mem_of_getElem? (bibliography?_eq_some.1 hb))
  have hattended : ∀ first,
      Attended provider ((ofProviders providers limit).course library first) := by
    intro first
    -- on the moves, the last one split off, as in the last part below
    induction first using List.reverseRecOn with
    | nil =>
      intro b hb load hlt
      rw [hloads b hb] at hlt
      cases hlt
    | append_singleton first m ih =>
      rw [course_snoc]
      exact ih.move library m
  refine ⟨fun first number document b _ hcall hb =>
    called_of_attended library hb (hattended first) hcall, fun first m b _ hcalled hb => ?_, ?_, ?_⟩
  · rw [course_snoc]
    exact move_onward library hcalled hb
  · intro shares first hprefix
    refine AskedInTime.of_shares library (shares first ((List.prefix_append ..).trans hprefix))
      (hattended first) ?_
    have hafter := shares _ hprefix
    rwa [course_snoc] at hafter
  · intro intime first
    induction first using List.reverseRecOn with
    | nil =>
      rintro - b hb document load other ⟨l, hload, -⟩
      rw [hloads b hb] at hload
      cases hload
    | append_singleton first m ih =>
      intro hprefix
      rw [course_snoc]
      refine (ih ((List.prefix_append ..).trans hprefix)).move library (hattended first) m ?_
      rintro rfl
      exact intime first hprefix

/-- A bibliography whose loads wait for a gate to be opened. -/
def gatedShelf : Panel Script :=
  ofProviders [.bibliography { session := .opened none, remote := {}, gated := true }] none

/-- A document is asked for again while its load goes on. -/
def askedAgain : List Move :=
  [.bringUpToDate 0 { path := some "a.qmd" }, .happen, .happen,
    .bringUpToDate 0 { path := some "a.qmd" }, .happen]

/-- The second to ask joins the load of the first. -/
theorem loads_are_shared_iff_asked_again :
    (∀ b, Provider.bibliography b ∈ gatedShelf.providers → b.loads = []) ∧
      (gatedShelf.course Script.library askedAgain).Joins 2 0 0 := by
  have hnew : ∀ b, Provider.bibliography b ∈ gatedShelf.providers → b.loads = [] := by
    intro b hb
    obtain rfl := Provider.bibliography.inj (List.mem_singleton.1 hb)
    rfl
  have hlaw := (loads_are_shared_iff Script.library gatedShelf.providers none 0 hnew askedAgain).1
    (askedAgain.take 4) 2 { path := some "a.qmd" } _ (List.prefix_refl _) rfl rfl
  exact ⟨hnew, (hlaw.joins 0 ⟨_, rfl, rfl, rfl⟩ rfl).2⟩

/-- Two documents are asked for in turn. -/
def askedInTurn : List Move :=
  [.bringUpToDate 0 { path := some "a.qmd" }, .happen, .happen,
    .bringUpToDate 0 { path := some "b.qmd" }, .happen, .happen,
    .bringUpToDate 0 { path := some "a.qmd" }, .happen, .happen]

/-- The load for the first document goes on twice. -/
theorem documents_in_turn_are_loaded_twice :
    ∃ b, (gatedShelf.course Script.library askedInTurn).bibliography? 0 = some b ∧
      b.Loading { path := some "a.qmd" } 0 ∧ b.Loading { path := some "a.qmd" } 2 ∧
      ¬SharesLoads 0 (gatedShelf.course Script.library askedInTurn) := by
  have hfirst : ∃ b, (gatedShelf.course Script.library askedInTurn).bibliography? 0 = some b ∧
      b.Loading { path := some "a.qmd" } 0 ∧ b.Loading { path := some "a.qmd" } 2 :=
    ⟨_, rfl, ⟨_, rfl, rfl, rfl⟩, ⟨_, rfl, rfl, rfl⟩⟩
  obtain ⟨b, hb, hzero, htwo⟩ := hfirst
  exact ⟨b, hb, hzero, htwo, fun shares => absurd (shares b hb _ 0 2 hzero htwo) (by decide)⟩

end Panel

end CiteSync.Completion
