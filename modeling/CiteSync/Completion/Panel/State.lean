import CiteSync.Completion.Provider
import CiteSync.Completion.Query

/-!
# The panel

The completions of a document as they are worked on: queries, refreshes and loads that go on side by
side and wait for one another.  What is going on is a number of activities.  An activity runs until
it has to wait, a load at most twice and any other at most once, and goes on when it is told that
what it waits for has come about; whatever is ready to go on does so in the order in which it became
ready.
-/

namespace CiteSync.Completion

open Remote

/-! ## Activities -/

/-- What an activity ends with: the candidates it was about, if it was about any. -/
abbrev Ending := Except Failure (Option (List Candidate))

def Ending.done : Ending := .ok none

def Ending.cancelled : Ending := .error (.cancelled "")

inductive Work
  | query (number : Nat) (token : String) (document : Document)
  /-- The candidates of a provider that was brought up to date. -/
  | entries (provider : Nat) (document : Document)
  /-- The same, on behalf of a query. -/
  | refresh (query provider : Nat) (document : Document)
  | load (provider number : Nat)
  /-- Waiting for all refreshes of a query. -/
  | wait (query : Nat)

def Work.isLoad (provider number : Nat) : Work → Bool
  | load q l => q = provider && l = number
  | _ => false

/-- Activities that are waited for together. -/
structure Gathering where
  activities : List Nat
  /-- Those whose end was not counted yet. -/
  left : List Nat
  cancelled : Bool := false

namespace Gathering

def whole (activities : List Nat) : Gathering := { activities, left := activities }

def count (activity : Nat) (g : Gathering) : Gathering :=
  { g with left := g.left.filter (· ≠ activity) }

/-- What one who waits for them is told when the last one was counted. -/
def ending (g : Gathering) : Ending := if g.cancelled then .cancelled else .done

end Gathering

inductive Pause
  /-- A gate with a prepared answer. -/
  | prepared (answer : Except Failure (List Candidate))
  /-- A gate with an answer of an index. -/
  | indexed (answer : Except Failure (List Reference))
  /-- A gate of a load. -/
  | loading
  | joined
  /-- The activities that ask the providers for a query of that generation. -/
  | asking (generation : Nat) (asked : Gathering)
  | gathering (refreshes : Gathering)

namespace Pause

def gathered? : Pause → Option Gathering
  | asking _ g => some g
  | gathering g => some g
  | _ => none

def mapGathered (change : Gathering → Gathering) : Pause → Pause
  | asking generation g => asking generation (change g)
  | gathering g => gathering (change g)
  | pause => pause

def isGate : Pause → Bool
  | prepared _ | indexed _ | loading => true
  | _ => false

def isJoined : Pause → Bool
  | joined => true
  | _ => false

/-- Whether all that is gathered was counted. -/
def isComplete (pause : Pause) : Bool := pause.gathered?.any (·.left.isEmpty)

end Pause

inductive Stage
  | fresh
  /-- Waiting, until it is told how what it waits for came about. -/
  | waiting (pause : Pause) (told : Option Ending)
  | ended (ending : Ending)

namespace Stage

def ending? : Stage → Option Ending
  | ended ending => some ending
  | _ => none

def gathered? : Stage → Option Gathering
  | waiting pause _ => pause.gathered?
  | _ => none

def mapGathered (change : Gathering → Gathering) : Stage → Stage
  | waiting pause told => waiting (pause.mapGathered change) told
  | stage => stage

end Stage

/-- What happens next, or when an activity ends. -/
inductive Reaction
  | start (activity : Nat)
  | goOn (activity : Nat)
  | noteRefresh (activity : Nat)
  /-- The one who gathers counts one more activity that has ended. -/
  | count (gatherer activity : Nat)
  /-- The one who waits for a load is told how it ended. -/
  | passOn (waiting load : Nat)
  deriving DecidableEq, Repr

structure Activity where
  work : Work
  stage : Stage := .fresh
  /-- Whether it is to be cancelled when it goes on. -/
  cancelAsked : Bool := false
  reactions : List Reaction := []

/-! ## The panel -/

structure Asked where
  activity : Nat
  shown : Option Query := none
  /-- The activities that bring its providers up to date. -/
  refreshes : List Nat := []

structure Panel (σ : Type) where
  providers : List (Provider σ)
  /-- How many matches each provider may show. -/
  limit : Int
  generation : Nat := 0
  queries : List Asked := []
  activities : List Activity := []
  /-- The activities that wait at a gate, each with its provider, oldest first. -/
  gates : List (Nat × Nat) := []
  /-- The refreshes whose end was not noted yet. -/
  outstanding : List Nat := []
  /-- What is ready to happen, first things first. -/
  ready : List Reaction := []
  records : List Log.Record := []

namespace Panel

variable {σ : Type}

def defaultLimit : Int := 100

/-- A panel over providers; a limit of zero counts as none. -/
def ofProviders (providers : List (Provider σ)) (limit : Option Int) : Panel σ :=
  { providers, limit := (limit.filter (· ≠ 0)).getD defaultLimit }

def report (records : List Log.Record) (p : Panel σ) : Panel σ :=
  { p with records := p.records ++ records }

def setProvider (number : Nat) (provider : Provider σ) (p : Panel σ) : Panel σ :=
  { p with providers := p.providers.set number provider }

/-- Changes the bibliography that a provider is, and reports. -/
def amend (provider : Nat) (change : Bibliography σ → Bibliography σ × List Log.Record)
    (p : Panel σ) : Panel σ :=
  match p.providers[provider]? with
  | some (.bibliography b) =>
    let (b, records) := change b
    (p.setProvider provider (.bibliography b)).report records
  | _ => p

def setActivity (number : Nat) (change : Activity → Activity) (p : Panel σ) : Panel σ :=
  { p with activities := p.activities.modify number change }

/-- Lets something happen after all that is ready. -/
def schedule (reactions : List Reaction) (p : Panel σ) : Panel σ :=
  { p with ready := p.ready ++ reactions }

def current (p : Panel σ) : List (Option (List Candidate)) := p.providers.map Provider.current

def warning? (p : Panel σ) : Option String := p.providers.findSome? Provider.warning?

/-! ## The course of an activity -/

def activityEnding? (p : Panel σ) (number : Nat) : Option Ending :=
  (p.activities[number]?).bind fun a => a.stage.ending?

def addActivity (work : Work) (p : Panel σ) : Nat × Panel σ :=
  let number := p.activities.length
  let fresh : Activity := { work }
  (number, { p with activities := p.activities ++ [fresh] }.schedule [.start number])

/-- Starts several activities at whose ends something is to happen. -/
def addActivities (works : List Work) (after : Nat → Reaction) (p : Panel σ) :
    List Nat × Panel σ :=
  let numbers := List.range' p.activities.length works.length
  let whole (work : Work) (number : Nat) : Activity := { work, reactions := [after number] }
  (numbers, { p with activities := p.activities ++ works.zipWith whole numbers }.schedule
    (numbers.map .start))

/-- Lets something happen when an activity ends, or next if it has ended. -/
def whenOver (number : Nat) (reaction : Reaction) (p : Panel σ) : Panel σ :=
  if (p.activityEnding? number).isSome then p.schedule [reaction]
  else p.setActivity number fun a => { a with reactions := a.reactions ++ [reaction] }

def pause (number : Nat) (pause : Pause) (p : Panel σ) : Panel σ :=
  p.setActivity number fun a => { a with stage := .waiting pause none }

/-- Tells an activity that what it waits for has come about, if it waits for such a thing and was
not told before. -/
def tell (fits : Pause → Bool) (number : Nat) (ending : Ending) (p : Panel σ) : Panel σ :=
  match (p.activities[number]?).map Activity.stage with
  | some (.waiting pause none) =>
    if fits pause then
      (p.setActivity number fun a => { a with stage := .waiting pause (some ending) }).schedule
        [.goOn number]
    else p
  | _ => p

def gathering? (p : Panel σ) (number : Nat) : Option Gathering :=
  (p.activities[number]?).bind fun a => a.stage.gathered?

def setGathering (number : Nat) (change : Gathering → Gathering) (p : Panel σ) : Panel σ :=
  p.setActivity number fun a => { a with stage := a.stage.mapGathered change }

/-- Ends an activity, unless it has ended before. -/
def endActivity (number : Nat) (ending : Ending) (p : Panel σ) : Panel σ :=
  match p.activities[number]? with
  | some a =>
    if a.stage.ending?.isSome then p
    else (p.setActivity number fun a => { a with stage := .ended ending }).schedule a.reactions
  | none => p

def awaitGate (number provider : Nat) (pause : Pause) (p : Panel σ) : Panel σ :=
  { p with gates := p.gates ++ [(provider, number)] }.pause number pause

end Panel

end CiteSync.Completion
