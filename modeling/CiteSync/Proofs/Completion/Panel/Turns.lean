import CiteSync.Proofs.Completion.Panel.Moves
import CiteSync.Proofs.Lists

/-!
# What a panel does to its providers

Most of what happens to a panel leaves its providers alone.  The rest is a number of turns: a
provider is asked, an answer arrives, a load starts, goes on or ends, or the document of a session
is closed.  A provider is asked only as an activity starts that was there for it.
-/

namespace CiteSync.Completion

open Remote

variable {σ : Type} {library : RemoteLibrary σ}

namespace Bibliography

variable {b : Bibliography σ} {number : Nat}

theorem setLoad_self {load : Load} (h : b.loads[number]? = some load) (change : Load → Load) :
    (b.setLoad number change).loads[number]? = some (change load) := by
  rw [Bibliography.setLoad, List.getElem?_modify_eq, h]
  rfl

theorem setLoad_other {n : Nat} (hn : n ≠ number) (change : Load → Load) :
    (b.setLoad number change).loads[n]? = b.loads[n]? :=
  List.getElem?_modify_ne _ _ (Ne.symm hn)

end Bibliography

/-! ## 1. Turns of a provider -/

/-- What an activity asks, and about which document. -/
def Work.asks? : Work → Option (Nat × Document)
  | entries i document => some (i, document)
  | refresh _ i document => some (i, document)
  | _ => none

theorem Work.provider?_of_asks? {work : Work} {i : Nat} {document : Document}
    (h : work.asks? = some (i, document)) : work.provider? = some i := by
  cases work <;> cases h <;> rfl

namespace Provider

variable (library) in
/-- What may become of a provider at once; whether it is asked and whether a warning is set is up to
others. -/
inductive Turn (called warned : Prop) : Provider σ → Provider σ → Prop
  | prepared (q q' : Prepared) : Turn called warned (.prepared q) (.prepared q')
  | asked (now : called) (l : ReferenceList) :
    Turn called warned (.references l) (.references l.next.2)
  | received (l : ReferenceList) (rs : List Reference) :
    Turn called warned (.references l) (.references (l.receive rs))
  | joined (now : called) (b : Bibliography σ) (document : Document) :
    Turn called warned (.bibliography b) (.bibliography (b.join document).2.2)
  | begun (b : Bibliography σ) (number : Nat) :
    Turn called warned (.bibliography b) (.bibliography (b.beginLoad library number))
  | answered (b : Bibliography σ) (number : Nat) :
    Turn called warned (.bibliography b) (.bibliography (b.takeAnswer library number).1)
  | cancelled (b : Bibliography σ) (number : Nat) :
    Turn called warned (.bibliography b) (.bibliography (b.cancelLoad number).1)
  | closed (b : Bibliography σ) :
    Turn called warned (.bibliography b) (.bibliography { b with session := b.session.close })
  | warned (now : warned) (b : Bibliography σ) (warning : Option String) :
    Turn called warned (.bibliography b)
      (.bibliography { b with session := { b.session with warning } })

variable (library) in
abbrev Turns (called warned : Prop) : Provider σ → Provider σ → Prop :=
  Relation.ReflTransGen (Turn library called warned)

/-- What every turn keeps holds after any number of them. -/
theorem Turns.keeps {called warned : Prop} {q q' : Provider σ}
    (h : Turns library called warned q q')
    (holds : Provider σ → Prop)
    (hturn : ∀ {q q' : Provider σ}, Turn library called warned q q' → holds q → holds q')
    (hq : holds q) : holds q' := by
  induction h with
  | refl => exact hq
  | tail _ hlast ih => exact hturn hlast ih

theorem Turn.mono {called called' warned warned' : Prop} {q q' : Provider σ}
    (h : Turn library called warned q q') (himp : called → called') (himp' : warned → warned') :
    Turn library called' warned' q q' := by
  cases h with
  | prepared => exact .prepared ..
  | asked now => exact .asked (himp now) _
  | received => exact .received ..
  | joined now => exact .joined (himp now) ..
  | begun => exact .begun ..
  | answered => exact .answered ..
  | cancelled => exact .cancelled ..
  | closed => exact .closed _
  | warned now => exact .warned (himp' now) ..

/-- The bibliography that a provider is. -/
def bibliography? : Provider σ → Option (Bibliography σ)
  | bibliography b => some b
  | _ => none

theorem Turns.bibliography?_isSome {called warned : Prop} {q q' : Provider σ}
    (h : Turns library called warned q q') : q'.bibliography?.isSome = q.bibliography?.isSome := by
  refine h.keeps (fun q' => q'.bibliography?.isSome = q.bibliography?.isSome) ?_ rfl
  intro _ _ hturn hsame
  cases hturn <;> exact hsame

/-- A bibliography stays one. -/
theorem Turns.bibliography {called warned : Prop} {b : Bibliography σ} {q : Provider σ}
    (h : Turns library called warned (.bibliography b) q) : ∃ b', q = .bibliography b' := by
  refine h.keeps (fun q => ∃ b', q = .bibliography b') ?_ ⟨b, rfl⟩
  rintro _ _ hturn ⟨b, rfl⟩
  cases hturn <;> exact ⟨_, rfl⟩

/-- The references of a document stay references. -/
theorem Turns.references {called warned : Prop} {l : ReferenceList} {q : Provider σ}
    (h : Turns library called warned (.references l) q) : ∃ l', q = .references l' := by
  refine h.keeps (fun q => ∃ l', q = .references l') ?_ ⟨l, rfl⟩
  rintro _ _ hturn ⟨l, rfl⟩
  cases hturn <;> exact ⟨_, rfl⟩

/-- What becomes of a provider that is looked into; only a prepared one takes notice. -/
inductive Looked : Provider σ → Provider σ → Prop
  | same (q : Provider σ) : Looked q q
  | prepared (q q' : Prepared) : Looked (.prepared q) (.prepared q')

theorem Looked.trans {q q' q'' : Provider σ} (h : Looked q q') (h' : Looked q' q'') :
    Looked q q'' := by
  cases h with
  | same => exact h'
  | prepared q q' => cases h' <;> exact .prepared ..

theorem Looked.turns {q q' : Provider σ} (h : Looked q q') (called warned : Prop) :
    Turns library called warned q q' := by
  cases h with
  | same => exact .refl
  | prepared q q' => exact .single (.prepared q q')

theorem search_looked (q : Provider σ) (token : String) (limit : Int) :
    Looked q (q.search token limit).2 := by
  cases q with
  | prepared p => exact .prepared ..
  | references | bibliography => exact .same _

theorem exact_looked (q : Provider σ) (token : String) : Looked q (q.exact token).2 := by
  cases q with
  | prepared p => exact .prepared ..
  | references | bibliography => exact .same _

theorem looked_refl (providers : List (Provider σ)) : List.Forall₂ Looked providers providers :=
  List.forall₂_same.2 fun q _ => .same q

theorem anyExact_looked (key : String) (providers : List (Provider σ)) :
    List.Forall₂ Looked providers (anyExact key providers).2 := by
  induction providers with
  | nil => exact .nil
  | cons q rest ih =>
    have hq := q.exact_looked key
    unfold anyExact
    split
    next h => rw [h] at hq; exact .cons hq (looked_refl rest)
    next h => rw [h] at hq; exact .cons hq ih
    next h => rw [h] at hq; exact .cons hq (looked_refl rest)

theorem searchAll_looked (token : String) (limit : Int) (providers : List (Provider σ)) :
    List.Forall₂ Looked providers (searchAll token limit providers).2 := by
  induction providers with
  | nil => exact .nil
  | cons q rest ih =>
    have hq := q.search_looked token limit
    unfold searchAll
    split
    next h => rw [h] at hq; exact .cons hq ih
    next h => rw [h] at hq; exact .cons hq (looked_refl rest)

theorem matches?_looked (token : String) (limit : Int) (providers : List (Provider σ)) :
    List.Forall₂ Looked providers (matches? token limit providers).2 := by
  have hexact := anyExact_looked (completeKey token) providers
  unfold matches?
  split
  next h => rw [h] at hexact; exact hexact
  next asked h =>
    rw [h] at hexact
    exact (forall₂_trans hexact (searchAll_looked token limit asked)).imp
      fun _ _ ⟨_, hfirst, hthen⟩ => hfirst.trans hthen
  next h => rw [h] at hexact; exact hexact

theorem narrow_looked (entries : List Candidate) (token : String) (limit : Int)
    (providers : List (Provider σ)) :
    List.Forall₂ Looked providers (narrow entries token limit providers).2.1 := by
  have hmatches := matches?_looked token limit providers
  unfold narrow
  split
  · exact looked_refl providers
  · split
    next h => rw [h] at hmatches; exact hmatches
    next h => rw [h] at hmatches; exact hmatches
    next h => rw [h] at hmatches; exact hmatches

end Provider

/-- Whether a move sets the warning of a provider. -/
def Move.Warns (m : Move) (provider : Nat) : Prop := ∃ warning, m = .setWarning provider warning

namespace Panel

variable {called warned : Nat → Prop} {p p' p'' : Panel σ} {number provider : Nat} {a : Activity}

variable (library) in
/-- What becomes of the providers of a panel. -/
structure Turned (called warned : Nat → Prop) (p p' : Panel σ) : Prop where
  width : p'.providers.length = p.providers.length
  turns : ∀ i q, p.providers[i]? = some q →
    ∃ q', p'.providers[i]? = some q' ∧ Provider.Turns library (called i) (warned i) q q'

/-- The bibliography that a provider of a panel is. -/
def bibliography? (p : Panel σ) (provider : Nat) : Option (Bibliography σ) :=
  (p.providers[provider]?).bind Provider.bibliography?

theorem bibliography?_eq_some {b : Bibliography σ} :
    p.bibliography? provider = some b ↔ p.providers[provider]? = some (.bibliography b) := by
  unfold bibliography?
  rw [Option.bind_eq_some_iff]
  constructor
  · rintro ⟨q, hq, hb⟩
    cases q with
    | bibliography b' =>
      cases hb
      exact hq
    | prepared | references => cases hb
  · exact fun h => ⟨_, h, rfl⟩

theorem Turned.bibliography?_isSome (h : Turned library called warned p p') (provider : Nat) :
    (p'.bibliography? provider).isSome = (p.bibliography? provider).isSome := by
  unfold bibliography?
  cases hq : p.providers[provider]? with
  | none =>
    have hnone : p'.providers[provider]? = none := by
      rw [List.getElem?_eq_none_iff] at hq ⊢
      rwa [h.width]
    rw [hnone]
  | some q =>
    obtain ⟨q', hq', hturns⟩ := h.turns provider q hq
    rw [hq']
    exact hturns.bibliography?_isSome

theorem Turned.of_providers (h : p'.providers = p.providers) :
    Turned library called warned p p' :=
  ⟨by rw [h], fun i q hq => ⟨q, by rw [h, hq], .refl⟩⟩

theorem Turned.trans (h : Turned library called warned p p')
    (h' : Turned library called warned p' p'') : Turned library called warned p p'' where
  width := h'.width.trans h.width
  turns := fun i q hq => by
    obtain ⟨q', hq', hturns⟩ := h.turns i q hq
    obtain ⟨q'', hq'', hturns'⟩ := h'.turns i q' hq'
    exact ⟨q'', hq'', hturns.trans hturns'⟩

theorem Turned.mono {called' warned' : Nat → Prop} (h : Turned library called warned p p')
    (himp : ∀ i, called i → called' i) (himp' : ∀ i, warned i → warned' i) :
    Turned library called' warned' p p' where
  width := h.width
  turns := fun i q hq => by
    obtain ⟨q', hq', hturns⟩ := h.turns i q hq
    have hmono := Relation.ReflTransGen.mono
      (fun _ _ hturn => Provider.Turn.mono hturn (himp i) (himp' i)) _ _ hturns
    exact ⟨q', hq', hmono⟩

theorem Turned.setProvider {q q' : Provider σ} (here : p.providers[provider]? = some q)
    (hturns : Provider.Turns library (called provider) (warned provider) q q') :
    Turned library called warned p (p.setProvider provider q') where
  width := List.length_set
  turns := fun i r hr => by
    by_cases hi : provider = i
    · subst hi
      obtain rfl := Option.some.inj (here.symm.trans hr)
      refine ⟨q', ?_, hturns⟩
      show (p.providers.set provider q')[provider]? = some q'
      rw [List.getElem?_set_self', here]
      rfl
    · exact ⟨r, (List.getElem?_set_ne hi).trans hr, .refl⟩

/-! ## 2. What leaves the providers alone -/

@[simp]
theorem report_providers (records : List Log.Record) : (p.report records).providers = p.providers :=
  rfl

@[simp]
theorem setActivity_providers (change : Activity → Activity) :
    (p.setActivity number change).providers = p.providers := rfl

@[simp]
theorem schedule_providers (reactions : List Reaction) :
    (p.schedule reactions).providers = p.providers := rfl

@[simp]
theorem addActivity_providers (work : Work) : (p.addActivity work).2.providers = p.providers := rfl

@[simp]
theorem receive_providers (query : Nat) (found : List Candidate) :
    (p.receive query provider found).providers = p.providers := rfl

@[simp]
theorem setQuery_providers (query : Nat) (shown : Query) (refreshes : List Nat) :
    (p.setQuery query shown refreshes).providers = p.providers := rfl

@[simp]
theorem pause_providers (pause : Pause) : (p.pause number pause).providers = p.providers := rfl

@[simp]
theorem awaitGate_providers (pause : Pause) :
    (p.awaitGate number provider pause).providers = p.providers := rfl

@[simp]
theorem setGathering_providers (change : Gathering → Gathering) :
    (p.setGathering number change).providers = p.providers := rfl

@[simp]
theorem whenOver_providers (reaction : Reaction) :
    (p.whenOver number reaction).providers = p.providers := by
  unfold whenOver
  split <;> rfl

@[simp]
theorem tell_providers (fits : Pause → Bool) (ending : Ending) :
    (p.tell fits number ending).providers = p.providers := by
  unfold tell
  split
  · split <;> rfl
  · rfl

@[simp]
theorem endActivity_providers (ending : Ending) :
    (p.endActivity number ending).providers = p.providers := by
  unfold endActivity
  split
  · split <;> rfl
  · rfl

@[simp]
theorem deliver_providers (answer : Except Failure (List Candidate)) :
    (p.deliver number answer).providers = p.providers := by
  unfold deliver
  split <;> simp

@[simp]
theorem awaitLoad_providers (load : Nat) : (p.awaitLoad number load).providers = p.providers := by
  simp [awaitLoad]

@[simp]
theorem takeLoaded_providers : (p.takeLoaded number provider).providers = p.providers := by
  unfold takeLoaded
  split <;> simp

@[simp]
theorem endLoadActivity_providers (load : Nat) :
    (p.endLoadActivity number provider load).providers = p.providers := by
  unfold endLoadActivity
  split
  · split <;> simp
  · rfl

@[simp]
theorem startQuery_providers (query : Nat) (token : String) (document : Document) :
    (p.startQuery number query token document).providers = p.providers := by
  unfold startQuery addActivities
  simp only
  split
  · split <;> simp
  · simp

@[simp]
theorem finishQuery_providers (query generation : Nat) (token : String) (asked : List Nat) :
    (p.finishQuery number query token generation asked).providers = p.providers := by
  simp [finishQuery]

theorem foldl_providers {α : Type} {step : Panel σ → α → Panel σ}
    (hstep : ∀ (p : Panel σ) x, (step p x).providers = p.providers) (xs : List α) :
    (xs.foldl step p).providers = p.providers := by
  induction xs generalizing p with
  | nil => rfl
  | cons x xs ih => exact ih.trans (hstep p x)

@[simp]
theorem startWait_providers (query : Nat) :
    (p.startWait number query).providers = p.providers := by
  unfold startWait
  simp only
  split
  · simp
  · rw [pause_providers]
    exact foldl_providers (fun p _ => p.whenOver_providers _) _

@[simp]
theorem noteRefresh_providers : (p.noteRefresh number).providers = p.providers := by
  unfold noteRefresh
  split
  · simp only
    split <;> rfl
  · rfl

@[simp]
theorem count_providers (activity : Nat) : (p.count number activity).providers = p.providers := by
  unfold count
  split
  · simp only
    split <;> simp
  · rfl

@[simp]
theorem passOn_providers (load : Nat) : (p.passOn number load).providers = p.providers := by
  unfold passOn
  split <;> simp

@[simp]
theorem release_providers (which : Which) : (p.release provider which).providers = p.providers :=
  foldl_providers (fun p _ => p.tell_providers _ _) _

@[simp]
theorem cancelSingle_providers : (p.cancelSingle number).providers = p.providers := by
  unfold cancelSingle
  split <;> simp [askCancel]

@[simp]
theorem cancel_providers : (p.cancel number).providers = p.providers := by
  unfold cancel
  split
  · simp
  · split
    · exact foldl_providers (fun p _ => p.cancelSingle_providers) _
    · simp [askCancel]

@[simp]
theorem close_providers : p.close.providers = p.providers :=
  foldl_providers (fun p _ => p.cancelSingle_providers) _

/-! ## 3. Asking and loading -/

theorem takeIndexed_turned (answer : Except Failure (List Reference)) :
    Turned library called warned p (p.takeIndexed number provider answer) := by
  unfold takeIndexed
  split
  next l found hl =>
    exact (Turned.setProvider hl (.single (.received l found))).trans (.of_providers (by simp))
  next => exact .of_providers (by simp)
  next => exact .of_providers rfl

theorem askProvider_turned {document : Document} (now : called provider) :
    Turned library called warned p (p.askProvider number provider document) := by
  unfold askProvider
  split
  next => exact .of_providers rfl
  next q hq =>
    refine (Turned.setProvider hq (.single (.prepared q q.next.2))).trans ?_
    simp only
    split
    · exact .of_providers (by simp)
    · exact .of_providers (by simp)
  next l hl =>
    refine (Turned.setProvider hl (.single (.asked now l))).trans ?_
    simp only
    split
    · exact .of_providers (by simp)
    · exact takeIndexed_turned _
  next b hb =>
    refine (Turned.setProvider hb (.single (.joined now b document))).trans (.of_providers ?_)
    simp only
    split <;> split <;> simp

theorem heldBack?_eq (i load : Nat) :
    p.heldBack? i load = (p.bibliography? i).bind (·.heldBack? load) := by
  unfold heldBack? bibliography?
  cases p.providers[i]? with
  | none => rfl
  | some q => cases q <;> rfl

theorem amend_of_some {b : Bibliography σ} (hb : p.bibliography? provider = some b)
    (change : Bibliography σ → Bibliography σ × List Log.Record) :
    p.amend provider change =
      (p.setProvider provider (.bibliography (change b).1)).report (change b).2 := by
  unfold amend
  rw [bibliography?_eq_some.1 hb]

theorem amend_of_none (hnone : p.bibliography? provider = none)
    (change : Bibliography σ → Bibliography σ × List Log.Record) :
    p.amend provider change = p := by
  unfold amend
  split
  next hb => cases hnone.symm.trans (bibliography?_eq_some.2 hb)
  next => rfl

theorem proceed_of_none (hnone : p.bibliography? provider = none) (load : Nat)
    (goOn : Panel σ → Panel σ) : p.proceed number provider load goOn = p := by
  have hheld : p.heldBack? provider load = none := by rw [heldBack?_eq, hnone, Option.bind_none]
  unfold proceed
  rw [hheld]
  -- without a bibliography there is no result to end with either
  show p.endLoadActivity number provider load = p
  unfold endLoadActivity
  split
  next hb => cases hnone.symm.trans (bibliography?_eq_some.2 hb)
  next => rfl

theorem amend_turned {change : Bibliography σ → Bibliography σ × List Log.Record}
    (turn : ∀ b, Provider.Turn library (called provider) (warned provider) (.bibliography b)
      (.bibliography (change b).1)) :
    Turned library called warned p (p.amend provider change) := by
  unfold amend
  split
  next b hb => exact (Turned.setProvider hb (.single (turn b))).trans (.of_providers rfl)
  next => exact .of_providers rfl

theorem proceed_turned {load : Nat} {goOn : Panel σ → Panel σ}
    (next : Turned library called warned p (goOn p)) :
    Turned library called warned p (p.proceed number provider load goOn) := by
  unfold proceed
  split
  · exact .of_providers rfl
  · exact next
  · exact .of_providers (endLoadActivity_providers load)

theorem finishLoad_turned {load : Nat} :
    Turned library called warned p (p.finishLoad library number provider load) :=
  (amend_turned fun b => .answered b load).trans (.of_providers (endLoadActivity_providers load))

theorem continueLoad_turned {load : Nat} :
    Turned library called warned p (p.continueLoad library number provider load) :=
  (amend_turned fun b => .answered b load).trans (proceed_turned finishLoad_turned)

theorem startLoad_turned {load : Nat} :
    Turned library called warned p (p.startLoad library number provider load) :=
  (amend_turned fun b => .begun b load).trans (proceed_turned continueLoad_turned)

theorem giveUp_turned (work : Work) (failure : Failure) :
    Turned library called warned p (p.giveUp work number failure) := by
  unfold giveUp
  split
  next provider load =>
    exact (amend_turned fun b => .cancelled b load).trans
      (.of_providers (endActivity_providers _))
  next => exact .of_providers (by simp)

/-! ## 4. Whatever happens -/

/-- The activity that asks a provider next, the provider and the document. -/
def nextCall? (p : Panel σ) : Option (Nat × Nat × Document) :=
  match p.ready with
  | .start number :: _ =>
    match p.activities[number]? with
    | some { work, stage := .fresh, cancelAsked := false, .. } => work.asks?.map (number, ·)
    | _ => none
  | _ => none

/-- Whether a provider is asked when the next thing happens. -/
def Calls (p : Panel σ) (provider : Nat) : Prop :=
  ∃ number document, p.nextCall? = some (number, provider, document)

theorem exists_of_nextCall? {document : Document}
    (h : p.nextCall? = some (number, provider, document)) :
    ∃ a rest, p.ready = .start number :: rest ∧ p.activities[number]? = some a ∧
      a.work.asks? = some (provider, document) ∧ a.stage = .fresh ∧ a.cancelAsked = false := by
  unfold nextCall? at h
  split at h
  next number rest hready =>
    split at h
    next work reactions here =>
      obtain ⟨asked, hasks, hcall⟩ := Option.map_eq_some_iff.1 h
      cases hcall
      exact ⟨_, rest, hready, here, hasks, rfl, rfl⟩
    next => cases h
  next => cases h

theorem nextCall?_of_start {rest : List Reaction} {document : Document}
    (hready : p.ready = .start number :: rest) (here : p.activities[number]? = some a)
    (fresh : a.stage = .fresh) (wanted : a.cancelAsked = false)
    (asks : a.work.asks? = some (provider, document)) :
    p.nextCall? = some (number, provider, document) := by
  obtain ⟨work', stage', cancelAsked', reactions'⟩ := a
  obtain rfl : stage' = _ := fresh
  obtain rfl : cancelAsked' = _ := wanted
  change work'.asks? = _ at asks
  unfold nextCall?
  simp only [hready, here, asks, Option.map_some]

theorem startActivity_of_fresh (here : p.activities[number]? = some a) (fresh : a.stage = .fresh)
    (wanted : a.cancelAsked = false) :
    p.startActivity library number = p.begin library a.work number := by
  obtain ⟨work', stage', cancelAsked', reactions'⟩ := a
  obtain rfl : stage' = _ := fresh
  obtain rfl : cancelAsked' = _ := wanted
  unfold startActivity
  simp only [here, Bool.false_eq_true, if_false]

theorem startActivity_of_cancelled (here : p.activities[number]? = some a)
    (fresh : a.stage = .fresh) (cancelled : a.cancelAsked = true) :
    p.startActivity library number = p.giveUp a.work number (.cancelled "") := by
  obtain ⟨work', stage', cancelAsked', reactions'⟩ := a
  obtain rfl : stage' = _ := fresh
  obtain rfl : cancelAsked' = _ := cancelled
  unfold startActivity
  simp only [here, if_true]

theorem startActivity_of_not_fresh (h : ∀ a, p.activities[number]? = some a → a.stage ≠ .fresh) :
    p.startActivity library number = p := by
  unfold startActivity
  split
  next hfresh => exact absurd rfl (h _ hfresh)
  next => rfl

theorem goOn_of_cancelled {pause : Pause} {told : Ending} (here : p.activities[number]? = some a)
    (waits : a.stage = .waiting pause (some told)) (cancelled : a.cancelAsked = true) :
    p.goOn library number = p.giveUp a.work number (.cancelled "") := by
  obtain ⟨work', stage', cancelAsked', reactions'⟩ := a
  obtain rfl : stage' = _ := waits
  obtain rfl : cancelAsked' = _ := cancelled
  unfold goOn
  simp only [here, if_true]

theorem goOn_of_ok {pause : Pause} {found : Option (List Candidate)}
    (here : p.activities[number]? = some a) (waits : a.stage = .waiting pause (some (.ok found)))
    (wanted : a.cancelAsked = false) :
    p.goOn library number = p.resume library a.work pause number := by
  obtain ⟨work', stage', cancelAsked', reactions'⟩ := a
  obtain rfl : stage' = _ := waits
  obtain rfl : cancelAsked' = _ := wanted
  unfold goOn
  simp only [here, Bool.false_eq_true, if_false]

theorem goOn_of_error {pause : Pause} {failure : Failure} (here : p.activities[number]? = some a)
    (waits : a.stage = .waiting pause (some (.error failure))) (wanted : a.cancelAsked = false) :
    p.goOn library number = p.giveUp a.work number failure := by
  obtain ⟨work', stage', cancelAsked', reactions'⟩ := a
  obtain rfl : stage' = _ := waits
  obtain rfl : cancelAsked' = _ := wanted
  unfold goOn
  simp only [here, Bool.false_eq_true, if_false]

theorem goOn_of_not_told (h : ∀ a pause told, p.activities[number]? = some a →
    a.stage ≠ .waiting pause (some told)) : p.goOn library number = p := by
  unfold goOn
  split
  next hwaits => exact absurd rfl (h _ _ _ hwaits)
  next => rfl

theorem begin_of_asks {work : Work} {document : Document}
    (h : work.asks? = some (provider, document)) :
    p.begin library work number = p.askProvider number provider document := by
  cases work <;> cases h <;> rfl

variable (library) in
/-- The activity that asks a provider next does so. -/
theorem happen_of_call {document : Document}
    (h : p.nextCall? = some (number, provider, document)) :
    ∃ a rest, p.ready = .start number :: rest ∧ p.activities[number]? = some a ∧
      a.work.asks? = some (provider, document) ∧ a.stage = .fresh ∧ a.cancelAsked = false ∧
      p.happen library = { p with ready := rest }.askProvider number provider document := by
  obtain ⟨a, rest, hready, here, hasks, hfresh, hwanted⟩ := exists_of_nextCall? h
  refine ⟨a, rest, hready, here, hasks, hfresh, hwanted, ?_⟩
  rw [happen_of_cons hready, ← begin_of_asks hasks]
  exact startActivity_of_fresh (p := { p with ready := rest }) here hfresh hwanted

theorem begin_turned (now : ∀ i document, a.work.asks? = some (i, document) → called i) :
    Turned library called warned p (p.begin library a.work number) := by
  cases hwork : a.work with
  | query q token document => exact .of_providers (startQuery_providers _ _ _)
  | entries i document => exact askProvider_turned (now i document (by rw [hwork]; rfl))
  | refresh q i document => exact askProvider_turned (now i document (by rw [hwork]; rfl))
  | load i l => exact startLoad_turned
  | wait q => exact .of_providers (startWait_providers _)

theorem hear_turned (pause : Pause) :
    Turned library called warned p (p.hear provider pause number) := by
  cases pause with
  | indexed answer => exact takeIndexed_turned answer
  | prepared | joined | loading | asking | gathering => exact .of_providers (by simp [hear])

theorem resume_turned (work : Work) (pause : Pause) :
    Turned library called warned p (p.resume library work pause number) := by
  unfold resume
  split
  next => exact .of_providers (by simp)
  next => exact hear_turned _
  next => exact hear_turned _
  next => exact continueLoad_turned
  next => exact .of_providers (by simp)
  next => exact .of_providers rfl

theorem goOn_turned : Turned library called warned p (p.goOn library number) := by
  unfold goOn
  split
  next =>
    split
    · exact giveUp_turned _ _
    · split
      · exact resume_turned _ _
      · exact giveUp_turned _ _
  next => exact .of_providers rfl

theorem happen_turned : Turned library p.Calls warned p (p.happen library) := by
  cases hready : p.ready with
  | nil => rw [happen_of_nil hready]; exact .of_providers rfl
  | cons reaction rest =>
    rw [happen_of_cons hready]
    have htaken : Turned library p.Calls warned p { p with ready := rest } := .of_providers rfl
    refine htaken.trans ?_
    cases reaction with
    | goOn number => exact goOn_turned
    | noteRefresh number => exact .of_providers noteRefresh_providers
    | count gatherer activity => exact .of_providers (count_providers _)
    | passOn waiting load => exact .of_providers (passOn_providers _)
    | start number =>
      show Turned library p.Calls warned _ (startActivity library number { p with ready := rest })
      unfold startActivity
      split
      next work cancelAsked reactions here =>
        cases cancelAsked with
        | true => exact giveUp_turned _ _
        | false =>
          exact begin_turned (a := ⟨work, .fresh, false, reactions⟩) fun i document hasks =>
            ⟨number, document, nextCall?_of_start hready here rfl rfl hasks⟩
      next => exact .of_providers rfl

theorem closeSession_turned : Turned library called warned p (p.closeSession provider) :=
  amend_turned fun b => .closed b

theorem setWarning_turned (now : warned provider) (warning : Option String) :
    Turned library called warned p (p.setWarning provider warning) := by
  unfold setWarning
  split
  next b hb => exact .setProvider hb (.single (.warned now b warning))
  next q hq => exact .setProvider hq (.single (.prepared ..))
  next => exact .of_providers rfl

/-! ### Looking -/

theorem narrowList_looked (entries : List Candidate) (token : String) :
    List.Forall₂ Provider.Looked p.providers (p.narrowList entries token).2.providers :=
  Provider.narrow_looked entries token p.limit p.providers

theorem setProvider_looked {q q' : Provider σ} (here : p.providers[provider]? = some q)
    (h : Provider.Looked q q') :
    List.Forall₂ Provider.Looked p.providers (p.setProvider provider q').providers :=
  forall₂_set .same here h

theorem searchOne_looked (token : String) (limit : Int) :
    List.Forall₂ Provider.Looked p.providers (p.searchOne provider token limit).2.providers := by
  unfold searchOne
  split
  next q hq => exact setProvider_looked hq (q.search_looked token limit)
  next => exact Provider.looked_refl p.providers

theorem exactOne_looked (token : String) :
    List.Forall₂ Provider.Looked p.providers (p.exactOne provider token).2.providers := by
  unfold exactOne
  split
  next q hq => exact setProvider_looked hq (q.exact_looked token)
  next => exact Provider.looked_refl p.providers

theorem Turned.of_looked (h : List.Forall₂ Provider.Looked p.providers p'.providers) :
    Turned library called warned p p' where
  width := h.length_eq.symm
  turns := fun i _ hq => by
    obtain ⟨q', hq', hlooked⟩ := forall₂_getElem? h hq
    exact ⟨q', hq', hlooked.turns (called i) (warned i)⟩

/-! ## 5. Moves -/

/-- Whether a move asks a provider. -/
def CalledBy (p : Panel σ) (m : Move) (provider : Nat) : Prop := m = .happen ∧ p.Calls provider

variable (p) (library) in
/-- The providers take turns in every move, and are asked only as an activity starts. -/
theorem move_turned (m : Move) :
    Turned library (p.CalledBy m) m.Warns p (p.move library m) := by
  cases m with
  | happen => exact happen_turned.mono (fun _ hcalls => ⟨rfl, hcalls⟩) fun _ hwarns => hwarns
  | ask token document => exact .of_providers rfl
  | bringUpToDate provider document => exact .of_providers rfl
  | wait query => exact .of_providers rfl
  | release provider which => exact .of_providers (release_providers which)
  | cancel activity => exact .of_providers cancel_providers
  | close => exact .of_providers close_providers
  | closeSession provider => exact closeSession_turned
  | setWarning provider warning => exact setWarning_turned ⟨warning, rfl⟩ warning
  | narrow entries token => exact .of_looked (narrowList_looked entries token)
  | search provider token limit => exact .of_looked (searchOne_looked token limit)
  | exact provider token => exact .of_looked (exactOne_looked token)

theorem Turned.forall₂ {called warned : Prop}
    (h : Turned library (fun _ => called) (fun _ => warned) p p') :
    List.Forall₂ (Provider.Turns library called warned) p.providers p'.providers := by
  refine List.forall₂_iff_get.2 ⟨h.width.symm, fun i hi hi' => ?_⟩
  obtain ⟨q', hq', hturns⟩ := h.turns i _ (List.getElem?_eq_getElem hi)
  obtain rfl := Option.some.inj ((List.getElem?_eq_getElem hi').symm.trans hq')
  exact hturns

variable (library) in
/-- The providers take turns along every course. -/
theorem course_turns (moves : List Move) :
    List.Forall₂ (Provider.Turns library True True) p.providers
      (p.course library moves).providers := by
  induction moves generalizing p with
  | nil => exact List.forall₂_same.2 fun _ _ => .refl
  | cons m moves ih =>
    have hmove : Turned library (fun _ => True) (fun _ => True) p (p.move library m) :=
      (p.move_turned library m).mono (fun _ _ => trivial) fun _ _ => trivial
    exact (forall₂_trans hmove.forall₂ ih).imp fun _ _ ⟨_, hfirst, hthen⟩ => hfirst.trans hthen

end Panel

end CiteSync.Completion
