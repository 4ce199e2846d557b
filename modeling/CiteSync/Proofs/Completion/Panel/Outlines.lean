import CiteSync.Proofs.Completion.Panel.Frames
import CiteSync.Proofs.Completion.Panel.Queries

/-!
# What matters to bibliographies

The loads of a bibliography, and those who ask for it and wait for them, go on whatever becomes of
all others.  Two panels are alike when they differ only in what does not matter to any of these: how
far the others have come, what the other providers have, and those who ask for a bibliography but
are gone, as nobody looks at them any more.
-/

namespace CiteSync.Completion

open Remote

variable {σ : Type}

/-! ## 1. Roles -/

/-- What an activity has to do with bibliographies. -/
inductive Role
  | load (provider number : Nat)
  | asker (provider : Nat) (document : Document)
  /-- It may come to start askers. -/
  | query (document : Document)
  | aside

namespace Role

variable {gone : List Nat}

/-- An activity of this role and number matters, unless it asks and is gone. -/
def seen (gone : List Nat) (number : Nat) : Role → Bool
  | load _ _ => true
  | asker _ _ => !gone.contains number
  | _ => false

def isLoad : Role → Bool
  | load _ _ => true
  | _ => false

def isAsker : Role → Bool
  | asker _ _ => true
  | _ => false

def isQuery : Role → Bool
  | query _ => true
  | _ => false

/-- It has nothing to do with loads. -/
def isPlain (role : Role) : Bool := !role.isLoad && !role.isAsker

/-- What an activity of this role may wait for. -/
def Awaits : Role → Pause → Prop
  | load _ _, pause => pause = .loading
  | asker _ _, pause => pause = .joined
  | _, _ => True

theorem seen_of_isPlain {role : Role} (h : role.isPlain = true) (gone : List Nat) (number : Nat) :
    role.seen gone number = false := by
  cases role with
  | query | aside => rfl
  | load | asker => cases h

theorem awaits_of_isPlain {role : Role} (h : role.isPlain = true) (pause : Pause) :
    role.Awaits pause := by
  cases role with
  | query | aside => trivial
  | load | asker => cases h

theorem awaits_of_isLoad {role : Role} (h : role.isLoad = true) : role.Awaits .loading := by
  cases role with
  | load => rfl
  | asker | query | aside => cases h

theorem isLoad_of_isPlain {role : Role} (h : role.isPlain = true) : role.isLoad = false := by
  cases role with
  | query | aside => rfl
  | load | asker => cases h

theorem seen_of_isLoad {role : Role} (h : role.isLoad = true) (gone : List Nat) (number : Nat) :
    role.seen gone number = true := by
  cases role with
  | load => rfl
  | asker | query | aside => cases h

theorem seen_of_stays {role : Role} (h : role.isPlain = false) {number : Nat}
    (stays : number ∉ gone) : role.seen gone number = true := by
  cases role with
  | load => rfl
  | asker => simp [seen, stays]
  | query | aside => cases h

theorem seen_of_gone {role : Role} (h : role.isLoad = false) {number : Nat}
    (leaves : number ∈ gone) : role.seen gone number = false := by
  cases role with
  | load => cases h
  | asker => simp [seen, leaves]
  | query | aside => rfl

theorem isPlain_of_isAsker {role : Role} (h : role.isAsker = true) : role.isPlain = false := by
  cases role with
  | asker => rfl
  | load | query | aside => cases h

theorem isLoad_of_isAsker {role : Role} (h : role.isAsker = true) : role.isLoad = false := by
  cases role with
  | asker => rfl
  | load | query | aside => cases h

end Role

/-- The role of one who asks a provider; `shelf` says which providers are bibliographies. -/
def askerRole (shelf : Nat → Bool) (provider : Nat) (document : Document) : Role :=
  if shelf provider then .asker provider document else .aside

def Work.role (shelf : Nat → Bool) : Work → Role
  | query _ _ document => .query document
  | entries i document => askerRole shelf i document
  | refresh _ i document => askerRole shelf i document
  | load i l => if shelf i then .load i l else .aside
  | wait _ => .aside

/-- Whether a reaction tells one that matters how a load ended. -/
def Reaction.tells (gone : List Nat) : Reaction → Bool
  | passOn waiting _ => !gone.contains waiting
  | _ => false

theorem Reaction.tells_of_isNote {r : Reaction} (h : r.isNote = true) (gone : List Nat) :
    r.tells gone = false := by
  cases r with
  | noteRefresh | count => rfl
  | start | goOn | passOn => cases h

theorem tells_of_notes {notes : List Reaction} (h : ∀ r ∈ notes, r.isNote = true)
    (gone : List Nat) : notes.filter (Reaction.tells gone) = [] :=
  List.filter_eq_nil_iff.2 fun r hr => by
    rw [Reaction.tells_of_isNote (h r hr)]
    exact Bool.false_ne_true

section

variable (shelf : Nat → Bool) (gone : List Nat)

/-! ## 2. Alike -/

/-- Activities that differ only in what does not matter. -/
structure Activity.Alike (number : Nat) (a a' : Activity) : Prop where
  role : a'.work.role shelf = a.work.role shelf
  stage : (a.work.role shelf).seen gone number = true → a'.stage = a.stage
  cancelAsked : (a.work.role shelf).seen gone number = true → a'.cancelAsked = a.cancelAsked
  told : (a.work.role shelf).isLoad = true →
    a'.reactions.filter (Reaction.tells gone) = a.reactions.filter (Reaction.tells gone)
  -- a query starts askers in both or in neither
  fresh : (a.work.role shelf).isQuery = true → (a'.stage = .fresh ↔ a.stage = .fresh)
  wanted : (a.work.role shelf).isQuery = true → a.stage = .fresh → a'.cancelAsked = a.cancelAsked

namespace Panel

/-- The role of an activity. -/
def role? (p : Panel σ) (number : Nat) : Option Role :=
  (p.activities[number]?).map fun a => a.work.role shelf

/-- Whether something that is ready matters. -/
def due (p : Panel σ) : Reaction → Bool
  -- a query that starts takes up numbers, so all starts are to happen in both
  | .start _ => true
  | .goOn number => (p.role? shelf number).all (Role.seen gone number)
  | .passOn waiting _ => !gone.contains waiting
  | _ => false

/-- Panels that differ only in what does not matter to bibliographies. -/
structure Alike (p p' : Panel σ) : Prop where
  shelves : ∀ i, p'.bibliography? i = p.bibliography? i
  width : p'.providers.length = p.providers.length
  length : p'.activities.length = p.activities.length
  activities : ∀ (n : Nat) (a : Activity), p.activities[n]? = some a →
    ∃ a', p'.activities[n]? = some a' ∧ a.Alike shelf gone n a'
  gates : p'.gates.filter (shelf ·.1) = p.gates.filter (shelf ·.1)
  ready : p'.ready.filter (p.due shelf gone) = p.ready.filter (p.due shelf gone)

/-- Everything in a panel is where it belongs. -/
structure Tidy (p : Panel σ) : Prop where
  shelves : ∀ i, (p.bibliography? i).isSome = shelf i
  /-- Only loads have more than ends noted. -/
  reactions : ∀ (n : Nat) (a : Activity), p.activities[n]? = some a → ∀ r ∈ a.reactions,
    r.isNote = true ∨ (a.work.role shelf).isLoad = true ∧ ∃ waiting, r = .passOn waiting n
  awaits : ∀ (n : Nat) (a : Activity) (pause : Pause) (told : Option Ending),
    p.activities[n]? = some a → a.stage = .waiting pause told →
      (a.work.role shelf).Awaits pause
  gates : ∀ gate ∈ p.gates, shelf gate.1 = false →
    ∃ a, p.activities[gate.2]? = some a ∧ (a.work.role shelf).isPlain = true
  passes : ∀ waiting load, .passOn waiting load ∈ p.ready →
    ∃ a, p.activities[load]? = some a ∧ (a.work.role shelf).isLoad = true
  /-- Those who are gone have asked a bibliography. -/
  left : ∀ n ∈ gone, ∃ a, p.activities[n]? = some a ∧ a.stage ≠ .fresh ∧
    (a.work.role shelf).isAsker = true

end Panel

end

variable {shelf : Nat → Bool} {gone : List Nat}

namespace Activity

variable {number : Nat} {a b c : Activity}

theorem Alike.refl (a : Activity) : a.Alike shelf gone number a :=
  ⟨rfl, fun _ => rfl, fun _ => rfl, fun _ => rfl, fun _ => .rfl, fun _ _ => rfl⟩

theorem Alike.symm (h : a.Alike shelf gone number b) : b.Alike shelf gone number a where
  role := h.role.symm
  stage := fun hseen => (h.stage (h.role ▸ hseen)).symm
  cancelAsked := fun hseen => (h.cancelAsked (h.role ▸ hseen)).symm
  told := fun hload => (h.told (h.role ▸ hload)).symm
  fresh := fun hquery => (h.fresh (h.role ▸ hquery)).symm
  wanted := fun hquery hfresh =>
    (h.wanted (h.role ▸ hquery) ((h.fresh (h.role ▸ hquery)).1 hfresh)).symm

theorem Alike.trans (h : a.Alike shelf gone number b) (h' : b.Alike shelf gone number c) :
    a.Alike shelf gone number c where
  role := h'.role.trans h.role
  stage := fun hseen => (h'.stage (h.role ▸ hseen)).trans (h.stage hseen)
  cancelAsked := fun hseen => (h'.cancelAsked (h.role ▸ hseen)).trans (h.cancelAsked hseen)
  told := fun hload => (h'.told (h.role ▸ hload)).trans (h.told hload)
  fresh := fun hquery => (h'.fresh (h.role ▸ hquery)).trans (h.fresh hquery)
  wanted := fun hquery hfresh =>
    (h'.wanted (h.role ▸ hquery) ((h.fresh hquery).2 hfresh)).trans (h.wanted hquery hfresh)

end Activity

namespace Panel

variable {p p' p'' : Panel σ} {number provider : Nat} {a : Activity}

theorem role?_of_here (here : p.activities[number]? = some a) :
    p.role? shelf number = some (a.work.role shelf) := by
  rw [role?, here, Option.map_some]

theorem due_congr (h : ∀ n, p'.role? shelf n = p.role? shelf n) :
    p'.due shelf gone = p.due shelf gone := by
  funext r
  cases r with
  | goOn n => exact congrArg (Option.all _) (h n)
  | _ => rfl

theorem Alike.role? (h : Alike shelf gone p p') (n : Nat) :
    p'.role? shelf n = p.role? shelf n := by
  cases here : p.activities[n]? with
  | none =>
    have hlength := List.getElem?_eq_none_iff.1 here
    have hnone : p'.activities[n]? = none := List.getElem?_eq_none_iff.2 (by rw [h.length]; omega)
    rw [Panel.role?, Panel.role?, here, hnone]
  | some a =>
    obtain ⟨a', here', halike⟩ := h.activities n a here
    rw [role?_of_here here, role?_of_here here', halike.role]

theorem Alike.due (h : Alike shelf gone p p') : p'.due shelf gone = p.due shelf gone :=
  due_congr h.role?

theorem Alike.refl (p : Panel σ) : Alike shelf gone p p :=
  ⟨fun _ => rfl, rfl, rfl, fun _ a here => ⟨a, here, .refl a⟩, rfl, rfl⟩

theorem Alike.here (h : Alike shelf gone p p') {a' : Activity}
    (here' : p'.activities[number]? = some a') :
    ∃ a, p.activities[number]? = some a ∧ a.Alike shelf gone number a' := by
  have hlt := (List.getElem?_eq_some_iff.1 here').1
  rw [h.length] at hlt
  obtain ⟨b, hb, halike⟩ := h.activities number _ (List.getElem?_eq_getElem hlt)
  obtain rfl := Option.some.inj (here'.symm.trans hb)
  exact ⟨_, List.getElem?_eq_getElem hlt, halike⟩

theorem Alike.symm (h : Alike shelf gone p p') : Alike shelf gone p' p where
  shelves := fun i => (h.shelves i).symm
  width := h.width.symm
  length := h.length.symm
  activities := fun n a' here' => by
    obtain ⟨a, here, halike⟩ := h.here here'
    exact ⟨a, here, halike.symm⟩
  gates := h.gates.symm
  ready := by rw [h.due, h.ready]

theorem Alike.trans (h : Alike shelf gone p p') (h' : Alike shelf gone p' p'') :
    Alike shelf gone p p'' where
  shelves := fun i => (h'.shelves i).trans (h.shelves i)
  width := h'.width.trans h.width
  length := h'.length.trans h.length
  activities := fun n a here => by
    obtain ⟨b, hb, hab⟩ := h.activities n a here
    obtain ⟨c, hc, hbc⟩ := h'.activities n b hb
    exact ⟨c, hc, hab.trans hbc⟩
  gates := h'.gates.trans h.gates
  ready := by
    have hready := h'.ready
    rw [h.due] at hready
    exact hready.trans h.ready

end Panel

/-! ## 3. What does not matter -/

namespace Activity

variable {number : Nat} {a b : Activity}

theorem Noted.tells (h : a.Noted b) :
    b.reactions.filter (Reaction.tells gone) = a.reactions.filter (Reaction.tells gone) := by
  obtain ⟨notes, hnotes, hall⟩ := h
  rw [hnotes, List.filter_append, tells_of_notes hall, List.append_nil]

variable (shelf gone number) in
/-- An activity changes as something happens that does not matter. -/
structure Hides (a b : Activity) : Prop where
  alike : a.Alike shelf gone number b
  noted : a.Noted b
  awaits : ∀ pause told, b.stage = .waiting pause told → (a.work.role shelf).Awaits pause
  started : b.stage = .fresh → a.stage = .fresh

theorem Rests.hides (h : a.Rests b)
    (hawaits : ∀ pause told, a.stage = .waiting pause told → (a.work.role shelf).Awaits pause) :
    a.Hides shelf gone number b where
  alike :=
    { role := by rw [h.work]
      stage := fun _ => h.stage
      cancelAsked := fun _ => h.cancelAsked
      told := fun _ => h.noted.tells
      fresh := fun _ => by rw [h.stage]
      wanted := fun _ _ => h.cancelAsked }
  noted := h.noted
  awaits := by rwa [h.stage]
  started := fun hfresh => h.stage ▸ hfresh

/-- What an activity does that does not matter, or as a query that has started. -/
theorem Continues.hides (h : a.Continues b) (hidden : (a.work.role shelf).seen gone number = false)
    (query : (a.work.role shelf).isQuery = true → a.stage ≠ .fresh)
    (hawaits : ∀ pause told, b.stage = .waiting pause told → (a.work.role shelf).Awaits pause) :
    a.Hides shelf gone number b where
  alike :=
    { role := by rw [h.work]
      stage := fun hseen => by rw [hidden] at hseen; cases hseen
      cancelAsked := fun hseen => by rw [hidden] at hseen; cases hseen
      told := fun _ => h.noted.tells
      fresh := fun hquery =>
        ⟨h.started, fun hfresh => absurd hfresh (query hquery)⟩
      wanted := fun hquery hfresh => absurd hfresh (query hquery) }
  noted := h.noted
  awaits := hawaits
  started := h.started

end Activity

namespace Panel

variable {p p' p'' : Panel σ} {number provider : Nat} {a : Activity}

variable (shelf gone) in
/-- Something happens that does not matter. -/
structure Hides (p p' : Panel σ) : Prop where
  tidy : Tidy shelf gone p'
  alike : Alike shelf gone p p'
  ready : ∃ more, p'.ready = p.ready ++ more ∧ ∀ r ∈ more, p.due shelf gone r = false

theorem Hides.refl (tidy : Tidy shelf gone p) : Hides shelf gone p p :=
  ⟨tidy, .refl p, [], (List.append_nil _).symm, fun _ h => nomatch h⟩

theorem Hides.trans (h : Hides shelf gone p p') (h' : Hides shelf gone p' p'') :
    Hides shelf gone p p'' where
  tidy := h'.tidy
  alike := h.alike.trans h'.alike
  ready := by
    obtain ⟨more, hmore, hall⟩ := h.ready
    obtain ⟨more', hmore', hall'⟩ := h'.ready
    refine ⟨more ++ more', by rw [hmore', hmore, List.append_assoc], fun r hr => ?_⟩
    rw [h.alike.due] at hall'
    exact (List.mem_append.1 hr).elim (hall r) (hall' r)

theorem due_of_isNote {r : Reaction} (h : r.isNote = true) : p.due shelf gone r = false := by
  cases r with
  | noteRefresh | count => rfl
  | start | goOn | passOn => cases h

/-- Ends that are noted, or one goes on that does not matter. -/
theorem not_due {r : Reaction}
    (h : r.isNote = true ∨ ∃ n, r = .goOn n ∧ p.due shelf gone (.goOn n) = false) :
    p.due shelf gone r = false := by
  rcases h with hnote | ⟨n, rfl, hdue⟩
  · exact due_of_isNote hnote
  · exact hdue

theorem Tidy.hides (tidy : Tidy shelf gone p)
    (shelves : ∀ i, p'.bibliography? i = p.bibliography? i)
    (width : p'.providers.length = p.providers.length)
    (length : p'.activities.length = p.activities.length)
    (activities : ∀ (n : Nat) (a : Activity), p.activities[n]? = some a →
      ∃ a', p'.activities[n]? = some a' ∧ a.Hides shelf gone n a')
    (gates : p'.gates.filter (shelf ·.1) = p.gates.filter (shelf ·.1))
    (plain : ∀ gate ∈ p'.gates, shelf gate.1 = false →
      ∃ a, p.activities[gate.2]? = some a ∧ (a.work.role shelf).isPlain = true)
    (ready : ∃ more, p'.ready = p.ready ++ more ∧
      ∀ r ∈ more, r.isNote = true ∨ ∃ n, r = .goOn n ∧ p.due shelf gone (.goOn n) = false) :
    Hides shelf gone p p' := by
  obtain ⟨more, hmore, hall⟩ := ready
  have hdue : ∀ r ∈ more, p.due shelf gone r = false := fun r hr => not_due (hall r hr)
  have halike : Alike shelf gone p p' :=
    { shelves, width, length, gates
      activities := fun n a here => by
        obtain ⟨a', here', hhides⟩ := activities n a here
        exact ⟨a', here', hhides.alike⟩
      ready := by
        have hnone : more.filter (p.due shelf gone) = [] :=
          List.filter_eq_nil_iff.2 fun r hr => by rw [hdue r hr]; exact Bool.false_ne_true
        rw [hmore, List.filter_append, hnone, List.append_nil] }
  have hthere : ∀ (n : Nat) (a' : Activity), p'.activities[n]? = some a' →
      ∃ a, p.activities[n]? = some a ∧ a.Hides shelf gone n a' := by
    intro n a' here'
    obtain ⟨a, here, -⟩ := halike.here here'
    obtain ⟨b, hb, hhides⟩ := activities n a here
    obtain rfl := Option.some.inj (here'.symm.trans hb)
    exact ⟨a, here, hhides⟩
  -- nobody changes its role, so what the roles say stays true
  have hsame : ∀ (n : Nat) (holds : Role → Bool),
      (∃ a, p.activities[n]? = some a ∧ holds (a.work.role shelf) = true) →
      ∃ a', p'.activities[n]? = some a' ∧ holds (a'.work.role shelf) = true := by
    rintro n holds ⟨a, here, hholds⟩
    obtain ⟨a', here', hhides⟩ := activities n a here
    exact ⟨a', here', hhides.alike.role ▸ hholds⟩
  refine ⟨?_, halike, more, hmore, hdue⟩
  constructor
  case shelves => exact fun i => by rw [shelves, tidy.shelves]
  case reactions =>
    intro n a' here' r hr
    obtain ⟨a, here, hhides⟩ := hthere n a' here'
    obtain ⟨notes, hnotes, hnote⟩ := hhides.noted
    rw [hnotes] at hr
    rw [hhides.alike.role]
    exact (List.mem_append.1 hr).elim (tidy.reactions n a here r) fun hnew => .inl (hnote r hnew)
  case awaits =>
    intro n a' pause told here' hwaits
    obtain ⟨a, here, hhides⟩ := hthere n a' here'
    rw [hhides.alike.role]
    exact hhides.awaits pause told hwaits
  case gates => exact fun gate hgate hshelf => hsame gate.2 Role.isPlain (plain gate hgate hshelf)
  case passes =>
    intro waiting load hpass
    rw [hmore] at hpass
    rcases List.mem_append.1 hpass with hold | hnew
    · exact hsame load Role.isLoad (tidy.passes waiting load hold)
    · rcases hall _ hnew with hnote | ⟨n, heq, -⟩
      · cases hnote
      · cases heq
  case left =>
    intro n hn
    obtain ⟨a, here, hstage, hasker⟩ := tidy.left n hn
    obtain ⟨a', here', hhides⟩ := activities n a here
    exact ⟨a', here', fun hfresh => hstage (hhides.started hfresh), hhides.alike.role ▸ hasker⟩

/-- Where there is no provider there is no bibliography. -/
theorem Tidy.outside (tidy : Tidy shelf gone p) : shelf p.providers.length = false := by
  rw [← tidy.shelves, bibliography?, List.getElem?_eq_none (Nat.le_refl _)]
  rfl

/-- Whoever is no load has nothing but ends noted. -/
theorem Tidy.notes (tidy : Tidy shelf gone p) (here : p.activities[number]? = some a)
    (role : (a.work.role shelf).isLoad = false) : ∀ r ∈ a.reactions, r.isNote = true := by
  intro r hr
  refine (tidy.reactions number a here r hr).resolve_right fun h => ?_
  rw [role] at h
  cases h.1

theorem Tidy.rests (tidy : Tidy shelf gone p) (here : p.activities[number]? = some a) :
    a.Hides shelf gone number a :=
  (Activity.Rests.refl a).hides fun pause told => tidy.awaits number a pause told here

theorem Tidy.hides_same (tidy : Tidy shelf gone p) (providers : p'.providers = p.providers)
    (activities : p'.activities = p.activities) (gates : p'.gates = p.gates)
    (ready : p'.ready = p.ready) : Hides shelf gone p p' := by
  refine tidy.hides (fun i => by rw [bibliography?, bibliography?, providers]) (by rw [providers])
    (by rw [activities]) (fun n a here => ⟨a, by rw [activities, here], tidy.rests here⟩)
    (by rw [gates]) (fun gate hgate => tidy.gates gate (gates ▸ hgate))
    ⟨[], by rw [ready, List.append_nil], fun _ h => nomatch h⟩

/-- A stretch of an activity that does not matter, about a provider that is no bibliography. -/
theorem Tidy.hides_touches (tidy : Tidy shelf gone p) (h : Touches number provider p p')
    (turned : ∀ i, (p'.bibliography? i).isSome = (p.bibliography? i).isSome)
    (elsewhere : shelf provider = false) (here : p.activities[number]? = some a)
    (hidden : (a.work.role shelf).seen gone number = false)
    (query : (a.work.role shelf).isQuery = true → a.stage ≠ .fresh)
    (plain : (a.work.role shelf).isPlain = true ∨
      p'.gates = p.gates ∧ ∀ a' pause told, p'.activities[number]? = some a' →
        a'.stage ≠ .waiting pause told) : Hides shelf gone p p' := by
  have hload : (a.work.role shelf).isLoad = false := by
    cases hrole : (a.work.role shelf).isLoad with
    | false => rfl
    | true => rw [Role.seen_of_isLoad hrole] at hidden; cases hidden
  obtain ⟨more, hmore, hgates⟩ := h.gates
  refine tidy.hides (fun i => ?_) h.width h.length (fun n b hb => ?_) ?_
    (fun gate hgate helse => ?_) ?_
  · by_cases hi : i = provider
    · -- the one that may change is no bibliography, before or after
      have hnone : p.bibliography? i = none := by
        rw [← Option.not_isSome_iff_eq_none, tidy.shelves, hi, elsewhere]
        exact Bool.false_ne_true
      have hsame := turned i
      rw [hnone] at hsame ⊢
      exact Option.not_isSome_iff_eq_none.1 (by rw [hsame]; exact Bool.false_ne_true)
    · rw [bibliography?, bibliography?, h.providers i hi]
  · by_cases hn : n = number
    · subst hn
      obtain rfl := Option.some.inj (here.symm.trans hb)
      obtain ⟨a', here', hcontinues⟩ := h.self a here
      refine ⟨a', here', hcontinues.hides hidden query fun pause told hwaits => ?_⟩
      rcases plain with hplain | ⟨-, hends⟩
      · exact Role.awaits_of_isPlain hplain pause
      · exact absurd hwaits (hends a' pause told here')
    · obtain ⟨b', hb', hrests⟩ := h.others n hn b hb
      exact ⟨b', hb', hrests.hides fun pause told => tidy.awaits n b pause told hb⟩
  · have hnone : more.filter (shelf ·.1) = [] :=
      List.filter_eq_nil_iff.2 fun gate hgate => by
        rw [hgates gate hgate, elsewhere]
        exact Bool.false_ne_true
    rw [hmore, List.filter_append, hnone, List.append_nil]
  · rcases plain with hplain | ⟨hsame, -⟩
    · rw [hmore] at hgate
      rcases List.mem_append.1 hgate with hold | hnew
      · exact tidy.gates gate hold helse
      · rw [hgates gate hnew]
        exact ⟨a, here, hplain⟩
    · rw [hsame] at hgate
      exact tidy.gates gate hgate helse
  · obtain ⟨added, hadded, hall⟩ := h.ready
    refine ⟨added, hadded, fun r hr => .inl ?_⟩
    rcases hall r hr with hnote | ⟨b, hb, hmem⟩
    · exact hnote
    · -- what was to happen at the end of the activity are notes, as it is no load
      obtain rfl := Option.some.inj (here.symm.trans hb)
      exact tidy.notes here hload r hmem

theorem Tidy.hides_setActivity (tidy : Tidy shelf gone p) {change : Activity → Activity}
    (h : ∀ a, p.activities[number]? = some a → a.Hides shelf gone number (change a)) :
    Hides shelf gone p (p.setActivity number change) := by
  refine tidy.hides (fun _ => rfl) rfl (List.length_modify ..) (fun n a here => ?_) rfl tidy.gates
    ⟨[], (List.append_nil _).symm, fun _ h => nomatch h⟩
  by_cases hn : number = n
  · subst hn
    exact ⟨change a, setActivity_here here change, h a here⟩
  · exact ⟨a, (setActivity_there hn change).trans here, tidy.rests here⟩

theorem Tidy.hides_schedule (tidy : Tidy shelf gone p) {reactions : List Reaction}
    (h : ∀ r ∈ reactions, r.isNote = true ∨ ∃ n, r = .goOn n ∧ p.due shelf gone (.goOn n) = false) :
    Hides shelf gone p (p.schedule reactions) :=
  tidy.hides (fun _ => rfl) rfl rfl (fun _ a here => ⟨a, here, tidy.rests here⟩) rfl tidy.gates
    ⟨reactions, rfl, h⟩

theorem hidden_of_not_due (h : p.due shelf gone (.goOn number) = false)
    (here : p.activities[number]? = some a) : (a.work.role shelf).seen gone number = false := by
  rwa [due, role?_of_here here] at h

theorem not_due_of_hidden (here : p.activities[number]? = some a)
    (hidden : (a.work.role shelf).seen gone number = false) :
    p.due shelf gone (.goOn number) = false := by
  rwa [due, role?_of_here here]

/-- One that does not matter is told something. -/
theorem Tidy.hides_tell (tidy : Tidy shelf gone p) (hdue : p.due shelf gone (.goOn number) = false)
    (fits : Pause → Bool) (ending : Ending) :
    Hides shelf gone p (p.tell fits number ending) := by
  unfold tell
  split
  next pause hstage =>
    split
    next =>
      have hset : Hides shelf gone p
          (p.setActivity number fun a => { a with stage := .waiting pause (some ending) }) := by
        refine tidy.hides_setActivity fun a here => ?_
        rw [here, Option.map_some] at hstage
        have hwaits := Option.some.inj hstage
        have hcontinues : a.Continues { a with stage := .waiting pause (some ending) } :=
          ⟨rfl, fun h => (nomatch h), .of_reactions rfl⟩
        -- it waits, so even a query has started
        refine hcontinues.hides (hidden_of_not_due hdue here)
          (fun _ hfresh => by rw [hwaits] at hfresh; cases hfresh) fun pause' told heq => ?_
        obtain ⟨rfl, -⟩ := Stage.waiting.inj heq
        exact tidy.awaits number a pause none here hwaits
      refine hset.trans (hset.tidy.hides_schedule fun r hr => .inr ⟨number, ?_, ?_⟩)
      · exact List.mem_singleton.1 hr
      · rwa [hset.alike.due]
    next => exact .refl tidy
  next => exact .refl tidy

/-- One that waits for a load or at a gate gathers nothing. -/
theorem Tidy.mapGathered (tidy : Tidy shelf gone p) (here : p.activities[number]? = some a)
    (role : (a.work.role shelf).isPlain = false) (change : Gathering → Gathering) :
    a.stage.mapGathered change = a.stage ∧ a.stage.gathered? = none := by
  cases hstage : a.stage with
  | fresh => exact ⟨rfl, rfl⟩
  | ended ending => exact ⟨rfl, rfl⟩
  | waiting pause told =>
    have hawaits := tidy.awaits number a pause told here hstage
    generalize a.work.role shelf = r at role hawaits
    cases r with
    | load i l => cases hawaits; exact ⟨rfl, rfl⟩
    | asker i document => cases hawaits; exact ⟨rfl, rfl⟩
    | query | aside => cases role

theorem Tidy.hides_setGathering (tidy : Tidy shelf gone p) (change : Gathering → Gathering) :
    Hides shelf gone p (p.setGathering number change) := by
  refine tidy.hides_setActivity fun a here => ?_
  cases hplain : (a.work.role shelf).isPlain with
  | false =>
    rw [(tidy.mapGathered here hplain change).1]
    exact tidy.rests here
  | true =>
    have hstays : a.stage.mapGathered change = .fresh ↔ a.stage = .fresh := by
      cases a.stage <;> simp [Stage.mapGathered]
    exact
      { alike :=
          { role := rfl
            stage := fun hseen => by
              rw [Role.seen_of_isPlain hplain] at hseen
              cases hseen
            cancelAsked := fun _ => rfl
            told := fun _ => rfl
            fresh := fun _ => hstays
            wanted := fun _ _ => rfl }
        noted := .of_reactions rfl
        awaits := fun pause _ _ => Role.awaits_of_isPlain hplain pause
        started := hstays.1 }

theorem Tidy.hides_count (tidy : Tidy shelf gone p) (activity : Nat) :
    Hides shelf gone p (p.count number activity) := by
  have hset : Hides shelf gone p (p.setGathering number (.count activity)) :=
    tidy.hides_setGathering _
  unfold count
  split
  · simp only
    split
    next g hg =>
      -- whoever gathers something does not matter
      refine hset.trans (hset.tidy.hides_tell ?_ _ _)
      obtain ⟨a, here, hgathers⟩ := Option.bind_eq_some_iff.1 hg
      refine not_due_of_hidden here (Role.seen_of_isPlain ?_ _ _)
      cases hplain : (a.work.role shelf).isPlain with
      | true => rfl
      | false =>
        have hnone := (hset.tidy.mapGathered here hplain id).2
        rw [hgathers] at hnone
        cases hnone
    next => exact hset
  · exact .refl tidy

theorem Tidy.hides_noteRefresh (tidy : Tidy shelf gone p) :
    Hides shelf gone p (p.noteRefresh number) := by
  unfold noteRefresh
  split
  · simp only
    split <;> exact tidy.hides_same rfl rfl rfl rfl
  · exact .refl tidy

end Panel

end CiteSync.Completion
