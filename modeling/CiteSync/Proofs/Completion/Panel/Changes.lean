import CiteSync.Completion.Panel.Course
import Mathlib.Data.List.GetD
import Mathlib.Logic.Relation

/-!
# What a panel can do

Every stretch of an activity and everything that is done with a panel is a number of small changes:
one activity comes a step further, a query starts or ends, a refresh is taken in, or something
happens that queries do not see.  What holds of a panel along every course is proved for these
changes only.
-/

namespace CiteSync.Completion

open Remote

variable {σ : Type} {library : RemoteLibrary σ}

/-! ## 1. Where answers come from -/

/-- What a provider may answer when it is asked to bring itself up to date.  A bibliography shows
whatever its loads have left. -/
def Provider.Brings : Provider σ → Except Failure (List Candidate) → Prop
  | prepared q, answer => ∃ number, answer = answerTo q.fresh number (.ok [])
  | references l, answer =>
    ∃ number, answer = (answerTo l.answers number (.ok [])).map (·.map Reference.candidate)
  | bibliography _, _ => True

/-- The query that an activity works for. -/
def Work.query? : Work → Option Nat
  | query q _ _ => some q
  | refresh q _ _ => some q
  | _ => none

/-- The provider that an activity asks. -/
def Work.provider? : Work → Option Nat
  | entries i _ => some i
  | refresh _ i _ => some i
  | _ => none

/-- The answer that waits at a gate. -/
def Pause.answer? : Pause → Option (Except Failure (List Candidate))
  | prepared answer => some answer
  | indexed answer => some (answer.map (·.map Reference.candidate))
  | _ => none

/-- The answer that an activity waits to hand on. -/
def Stage.answer? : Stage → Option (Except Failure (List Candidate))
  | waiting pause _ => pause.answer?
  | _ => none

/-! ## 2. What becomes of an activity -/

namespace Activity

/-- Whether an activity does what it is for when it goes on next. -/
def Runs (a : Activity) : Prop :=
  a.cancelAsked = false ∧
    (a.stage = .fresh ∨ ∃ pause found, a.stage = .waiting pause (some (.ok found)))

/-- Whether an activity has ended or ends without doing anything more. -/
def Lost (a : Activity) : Prop :=
  a.stage.ending?.isSome ∨ a.cancelAsked = true ∨
    ∃ pause failure, a.stage = .waiting pause (some (.error failure))

theorem Runs.not_lost {a : Activity} (h : a.Runs) : ¬a.Lost := by
  obtain ⟨hasked, hstage⟩ := h
  rintro (hended | hcancel | ⟨pause, failure, htold⟩)
  · rcases hstage with hfresh | ⟨pause, found, hwaits⟩
    · rw [hfresh] at hended
      cases hended
    · rw [hwaits] at hended
      cases hended
  · rw [hasked] at hcancel
    cases hcancel
  · rcases hstage with hfresh | ⟨pause', found, hwaits⟩
    · rw [hfresh] at htold
      cases htold
    · rw [hwaits] at htold
      cases htold

theorem Runs.not_ended {a : Activity} (h : a.Runs) : a.stage.ending? = none := by
  cases hending : a.stage.ending? with
  | none => rfl
  | some ending => exact absurd (.inl (by rw [hending]; rfl)) h.not_lost

/-- An activity keeps what it is for and how it ended, and what is lost stays lost. -/
structure Later (a a' : Activity) : Prop where
  work : a'.work = a.work
  ended : ∀ ending, a.stage = .ended ending → a'.stage = .ended ending
  lost : a.Lost → a'.Lost

theorem Later.refl (a : Activity) : a.Later a := ⟨rfl, fun _ h => h, fun h => h⟩

theorem Later.trans {a b c : Activity} (hab : a.Later b) (hbc : b.Later c) : a.Later c :=
  ⟨hbc.work.trans hab.work, fun ending h => hbc.ended ending (hab.ended ending h),
    fun h => hbc.lost (hab.lost h)⟩

end Activity

/-- Who makes a change. -/
inductive Actor
  /-- An activity that starts or goes on. -/
  | activity (number : Nat)
  /-- One who cancels what goes on. -/
  | canceller
  | other

/-- Who makes what happens. -/
def Reaction.actor : Reaction → Actor
  | start number => .activity number
  | goOn number => .activity number
  | _ => .other

theorem Stage.ending?_mapGathered (stage : Stage) (change : Gathering → Gathering) :
    (stage.mapGathered change).ending? = stage.ending? := by
  cases stage <;> rfl

namespace Panel

/-- Who makes what happens next. -/
def actor (p : Panel σ) : Actor := (p.ready.head?.map Reaction.actor).getD .other

/-- What a provider of a panel may answer. -/
def Brings (p : Panel σ) (provider : Nat) (answer : Except Failure (List Candidate)) : Prop :=
  ∃ q, p.providers[provider]? = some q ∧ q.Brings answer

/-- Whether an activity may hand on an answer of a provider: it has waited with it, or the provider
may answer so. -/
def Has (p : Panel σ) (a : Activity) (provider : Nat) (answer : Except Failure (List Candidate)) :
    Prop :=
  a.stage.answer? = some answer ∨ p.Brings provider answer

/-- One step of an activity of that number, and what is ready to happen then.  Only a query that
ends, and a refresh that hands something on, are not among these steps. -/
inductive Develops (p : Panel σ) (actor : Actor) (number : Nat) :
    Activity → List Reaction → Activity → Prop
  | promise (a : Activity) (reaction : Reaction) :
    Develops p actor number a [] { a with reactions := a.reactions ++ [reaction] }
  | askCancel (a : Activity) (cancels : actor = .canceller) :
    Develops p actor number a [] { a with cancelAsked := true }
  | pause {a : Activity} {pause : Pause} (fresh : a.stage = .fresh) (wanted : a.cancelAsked = false)
    (work : ∀ q token document, a.work ≠ .query q token document)
    (whole : ∀ g, pause.gathered? = some g → g.left = g.activities)
    (brings : ∀ i answer, a.work.provider? = some i → pause.answer? = some answer →
      p.Brings i answer) :
    Develops p actor number a [] { a with stage := .waiting pause none }
  | again {a : Activity} {i l : Nat} (work : a.work = .load i l) (runs : a.Runs) :
    Develops p actor number a [] { a with stage := .waiting .loading none }
  | tell {a : Activity} {pause : Pause} {ending : Ending} (waits : a.stage = .waiting pause none)
    (single : pause.gathered? = none ∨ actor = .canceller ∧ ending = .cancelled) :
    Develops p actor number a [.goOn number] { a with stage := .waiting pause (some ending) }
  | abandon (a : Activity) (cancels : actor = .canceller) :
    Develops p actor number a []
      { a with stage := a.stage.mapGathered fun g => { g with cancelled := true } }
  | count (a : Activity) {activity : Nat} (ended : (p.activityEnding? activity).isSome)
    (rest : ∀ pause g, a.stage = .waiting pause none → pause.gathered? = some g →
      (g.count activity).left ≠ []) :
    Develops p actor number a [] { a with stage := a.stage.mapGathered (.count activity) }
  | last {a : Activity} {pause : Pause} {g : Gathering} {activity : Nat}
    (ended : (p.activityEnding? activity).isSome) (waits : a.stage = .waiting pause none)
    (gathers : pause.gathered? = some g) (all : (g.count activity).left = []) :
    Develops p actor number a [.goOn number]
      { a with stage := .waiting (pause.mapGathered (.count activity)) (some g.ending) }
  | fail {a : Activity} {failure : Failure} (goesOn : a.stage.ending? = none)
    (lost : a.work.provider?.isSome ∨ a.Lost) :
    Develops p actor number a a.reactions { a with stage := .ended (.error failure) }
  | finish {a : Activity} {ending : Ending} (goesOn : a.stage.ending? = none)
    (work : a.work.query? = none)
    (has : ∀ i, a.work.provider? = some i → ∀ found, ending = .ok found →
      ∃ cs, found = some cs ∧ p.Has a i (.ok cs)) :
    Develops p actor number a a.reactions { a with stage := .ended ending }

/-! ## 3. What becomes of a panel -/

/-- The numbers of the activities that ask each provider for the query that starts next. -/
def nextAskers (p : Panel σ) : List Nat := List.range' p.activities.length p.providers.length

/-- The activities that ask each provider for a query, with what happens at their ends. -/
def askers (p : Panel σ) (work : Nat → Work) (after : Nat → Reaction) : List Activity :=
  ((List.range p.providers.length).map work).zipWith
    (fun work number => { work, reactions := [after number] }) p.nextAskers

/-- What a query waits for that has just asked its providers. -/
def askPause (p : Panel σ) : Pause := .asking (p.generation + 1) (.whole p.nextAskers)

/-- One change of a panel, and who makes it. -/
inductive Change : Actor → Panel σ → Panel σ → Prop
  | aside {actor : Actor} {p p' : Panel σ} (queries : p'.queries = p.queries)
    (activities : p'.activities = p.activities) (generation : p'.generation = p.generation)
    (outstanding : p'.outstanding = p.outstanding) (ready : p.ready ⊆ p'.ready)
    (brings : ∀ i answer, p'.Brings i answer → p.Brings i answer) : Change actor p p'
  | develop {actor : Actor} {p : Panel σ} {number : Nat} {a a' : Activity}
    {reactions : List Reaction} (here : p.activities[number]? = some a)
    (develops : p.Develops actor number a reactions a') :
    Change actor p
      { p with activities := p.activities.set number a', ready := p.ready ++ reactions }
  | begin {actor : Actor} {p : Panel σ} {work : Work} (free : work.query? = none) :
    Change actor p (p.addActivity work).2
  | ask {actor : Actor} {p : Panel σ} (token : String) (document : Document) :
    Change actor p (p.ask token document)
  | warm {actor : Actor} {p : Panel σ} {number : Nat} {a : Activity} {query : Nat}
    {token : String} {document : Document} (here : p.activities[number]? = some a)
    (fresh : a.stage = .fresh) (work : a.work = .query query token document)
    (loaded : p.current.all Option.isNone = false) :
    Change actor p
      { p with
        generation := p.generation + 1
        queries := p.queries.modify query fun q =>
          { q with
            shown := some (.warm token (p.generation + 1) p.current)
            refreshes := p.nextAskers }
        activities := p.activities.set number { a with stage := .ended .done } ++
          p.askers (.refresh query · document) .noteRefresh
        outstanding := p.outstanding ++ p.nextAskers
        ready := p.ready ++ p.nextAskers.map .start ++ a.reactions }
  | cold {actor : Actor} {p : Panel σ} {number : Nat} {a : Activity} {query : Nat}
    {token : String} {document : Document} (here : p.activities[number]? = some a)
    (fresh : a.stage = .fresh) (work : a.work = .query query token document)
    (empty : p.current.all Option.isNone = true) (some : p.providers ≠ []) :
    Change actor p
      { p with
        generation := p.generation + 1
        activities := p.activities.set number { a with stage := .waiting p.askPause none } ++
          p.askers (.entries · document) (.count number)
        ready := p.ready ++ p.nextAskers.map .start }
  | alone {actor : Actor} {p : Panel σ} {number : Nat} {a : Activity} {query : Nat}
    {token : String} {document : Document} (here : p.activities[number]? = some a)
    (fresh : a.stage = .fresh) (work : a.work = .query query token document)
    (none : p.providers = []) :
    Change actor p
      { p with
        generation := p.generation + 1
        queries := p.queries.modify query fun q =>
          { q with shown := some (.cold token (p.generation + 1) []), refreshes := [] }
        activities := p.activities.set number { a with stage := .ended .done }
        ready := p.ready ++ a.reactions }
  | answered {actor : Actor} {p : Panel σ} {number : Nat} {a : Activity} {query : Nat}
    {token : String} {document : Document} {generation : Nat} {g : Gathering}
    {found : Option (List Candidate)} (here : p.activities[number]? = some a)
    (told : a.stage = .waiting (.asking generation g) (some (.ok found)))
    (work : a.work = .query query token document) :
    Change actor p
      { p with
        queries := p.queries.modify query fun q =>
          { q with
            shown := some (.cold token generation (g.activities.filterMap p.broughtBack?))
            refreshes := [] }
        activities := p.activities.set number { a with stage := .ended .done }
        ready := p.ready ++ a.reactions }
  | deliver {p : Panel σ} {number : Nat} {a : Activity} {query provider : Nat}
    {document : Document} {found : List Candidate} (here : p.activities[number]? = some a)
    (runs : a.Runs) (work : a.work = .refresh query provider document)
    (has : p.Has a provider (.ok found)) :
    Change (.activity number) p
      { p.receive query provider found with
        activities := p.activities.set number { a with stage := .ended (.ok (some found)) }
        ready := p.ready ++ a.reactions }
  | note {actor : Actor} {p : Panel σ} {number : Nat}
    (ended : (p.activityEnding? number).isSome) :
    Change actor p { p with outstanding := p.outstanding.erase number }
  | clear {actor : Actor} {p : Panel σ}
    (lost : ∀ number ∈ p.outstanding, ∀ a, p.activities[number]? = some a → a.Lost) :
    Change actor p { p with outstanding := [] }

/-- Changes, one after the other. -/
abbrev Changes (actor : Actor) : Panel σ → Panel σ → Prop :=
  Relation.ReflTransGen (Change actor)

/-! ## 4. What stays -/

variable {actor : Actor} {p p' : Panel σ} {number : Nat} {a a' : Activity}
  {reactions : List Reaction}

theorem lost_of_ended {ending : Ending} (h : a.stage = .ended ending) : a.Lost :=
  .inl (by rw [h]; rfl)

theorem ended_of_ending? (h : (p.activityEnding? number).isSome)
    (here : p.activities[number]? = some a) : ∃ ending, a.stage = .ended ending := by
  rw [activityEnding?, here, Option.bind_some] at h
  cases hstage : a.stage with
  | ended ending => exact ⟨ending, rfl⟩
  | fresh => rw [hstage] at h; cases h
  | waiting pause told => rw [hstage] at h; cases h

theorem later_ended {ending : Ending} (goesOn : a.stage.ending? = none) :
    a.Later { a with stage := .ended ending } where
  work := rfl
  ended := fun ended h => by rw [h] at goesOn; cases goesOn
  lost := fun _ => lost_of_ended rfl

theorem later_mapGathered (change : Gathering → Gathering) :
    a.Later { a with stage := a.stage.mapGathered change } where
  work := rfl
  ended := fun ending h => by
    show a.stage.mapGathered change = .ended ending
    rw [h]
    rfl
  lost := by
    rintro (hended | hcancel | ⟨pause, failure, htold⟩)
    · refine .inl ?_
      cases hstage : a.stage with
      | ended ending => rfl
      | fresh => rw [hstage] at hended; cases hended
      | waiting pause told => rw [hstage] at hended; cases hended
    · exact .inr (.inl hcancel)
    · refine .inr (.inr ⟨pause.mapGathered change, failure, ?_⟩)
      show a.stage.mapGathered change = _
      rw [htold]
      rfl

theorem later_waiting {pause : Pause} (fresh : a.stage = .fresh) :
    a.Later { a with stage := .waiting pause none } where
  work := rfl
  ended := fun ending h => by rw [fresh] at h; cases h
  lost := by
    rintro (hended | hcancel | ⟨pause, failure, htold⟩)
    · rw [fresh] at hended
      cases hended
    · exact .inr (.inl hcancel)
    · rw [fresh] at htold
      cases htold

theorem later_again (runs : a.Runs) : a.Later { a with stage := .waiting .loading none } where
  work := rfl
  ended := fun ending h => by
    have hgoing := runs.not_ended
    rw [h] at hgoing
    cases hgoing
  lost := fun hlost => absurd hlost runs.not_lost

theorem later_told {pause pause' : Pause} {ending : Ending}
    (waits : a.stage = .waiting pause none) :
    a.Later { a with stage := .waiting pause' (some ending) } where
  work := rfl
  ended := fun ended h => by rw [waits] at h; cases h
  lost := by
    rintro (hended | hcancel | ⟨pause, failure, htold⟩)
    · rw [waits] at hended
      cases hended
    · exact .inr (.inl hcancel)
    · rw [waits] at htold
      cases htold

theorem Develops.later (h : p.Develops actor number a reactions a') : a.Later a' := by
  cases h with
  | promise reaction => exact ⟨rfl, fun _ h => h, fun h => h⟩
  | askCancel => exact ⟨rfl, fun _ h => h, fun _ => .inr (.inl rfl)⟩
  | pause fresh wanted work whole brings => exact later_waiting fresh
  | again work runs => exact later_again runs
  | tell waits single => exact later_told waits
  | abandon => exact later_mapGathered _
  | count ended rest => exact later_mapGathered _
  | last ended waits gathers all => exact later_told waits
  | fail goesOn => exact later_ended goesOn
  | finish goesOn work has => exact later_ended goesOn

/-- A change replaces one activity by a later one, if any, and adds some. -/
theorem Change.activities (h : Change actor p p') :
    (∃ more, p'.activities = p.activities ++ more) ∨
      ∃ number a a' more, p.activities[number]? = some a ∧ a.Later a' ∧
        p'.activities = p.activities.set number a' ++ more := by
  cases h with
  | aside queries activities => exact .inl ⟨[], by rw [activities, List.append_nil]⟩
  | begin free => exact .inl ⟨_, rfl⟩
  | ask token document => exact .inl ⟨_, rfl⟩
  | note ended => exact .inl ⟨[], (List.append_nil _).symm⟩
  | clear lost => exact .inl ⟨[], (List.append_nil _).symm⟩
  | develop here develops =>
    exact .inr ⟨_, _, _, [], here, develops.later, (List.append_nil _).symm⟩
  | warm here fresh => exact .inr ⟨_, _, _, _, here, later_ended (by rw [fresh]; rfl), rfl⟩
  | cold here fresh => exact .inr ⟨_, _, _, _, here, later_waiting fresh, rfl⟩
  | alone here fresh =>
    exact .inr ⟨_, _, _, [], here, later_ended (by rw [fresh]; rfl), (List.append_nil _).symm⟩
  | answered here told =>
    exact .inr ⟨_, _, _, [], here, later_ended (by rw [told]; rfl), (List.append_nil _).symm⟩
  | deliver here runs =>
    exact .inr ⟨_, _, _, [], here, later_ended runs.not_ended, (List.append_nil _).symm⟩

/-- What a change leaves of an activity. -/
theorem Change.later (h : Change actor p p') (here : p.activities[number]? = some a) :
    ∃ a', p'.activities[number]? = some a' ∧ a.Later a' := by
  have hlt := (List.getElem?_eq_some_iff.1 here).1
  rcases h.activities with ⟨more, hmore⟩ | ⟨other, b, b', more, hb, hlater, hset⟩
  · rw [hmore, List.getElem?_append_left hlt]
    exact ⟨a, here, .refl a⟩
  · rw [hset, List.getElem?_append_left (by rwa [List.length_set])]
    -- it is the one that was replaced, or another one
    by_cases ho : other = number
    · subst ho
      obtain rfl := Option.some.inj (here.symm.trans hb)
      refine ⟨b', ?_, hlater⟩
      rw [List.getElem?_set_self', here]
      rfl
    · exact ⟨a, (List.getElem?_set_ne ho).trans here, .refl a⟩

theorem Changes.later (h : Changes actor p p') (here : p.activities[number]? = some a) :
    ∃ a', p'.activities[number]? = some a' ∧ a.Later a' := by
  induction h with
  | refl => exact ⟨a, here, .refl a⟩
  | tail _ hchange ih =>
    obtain ⟨b, hb, hab⟩ := ih
    obtain ⟨c, hc, hbc⟩ := hchange.later hb
    exact ⟨c, hc, hab.trans hbc⟩

end Panel

end CiteSync.Completion
