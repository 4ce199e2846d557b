import CiteSync.Citation.Context
import CiteSync.Completion.Filter
import CiteSync.Completion.Panel.Steps

/-!
# What can be done with a panel

The operations of a reader's editor: queries and what becomes of them, gates that are opened by
outsiders, cancelling and closing.  None of them lets anything happen by itself; that is up to the
one who settles the panel.
-/

namespace CiteSync.Completion.Panel

open Remote

variable {σ : Type}

/-! ## Starting -/

def ask (token : String) (document : Document) (p : Panel σ) : Panel σ :=
  let (activity, p) := p.addActivity (.query p.queries.length token document)
  { p with queries := p.queries ++ [{ activity }] }

/-- Starts to bring a provider up to date; the number of the activity that does it. -/
def bringUpToDate (provider : Nat) (document : Document) (p : Panel σ) : Nat × Panel σ :=
  p.addActivity (.entries provider document)

def wait (query : Nat) (p : Panel σ) : Nat × Panel σ := p.addActivity (.wait query)

/-! ## Gates -/

inductive Which
  | all
  | first
  | last
  /-- The gate with so many older ones before it. -/
  | only (place : Nat)
  deriving DecidableEq, Repr

def Which.of : Which → List (Nat × Nat) → List (Nat × Nat)
  | all, gates => gates
  | first, gates => gates.take 1
  | last, gates => gates.drop (gates.length - 1)
  | only place, gates => (gates.drop place).take 1

def release (provider : Nat) (which : Which) (p : Panel σ) : Panel σ :=
  let opened := which.of (p.gates.filter (·.1 == provider))
  let p := { p with gates := p.gates.filter (!opened.contains ·) }
  opened.foldl (fun p gate => p.tell Pause.isGate gate.2 .done) p

/-! ## Cancelling -/

/-- Asks an activity to be cancelled when it goes on. -/
def askCancel (number : Nat) (p : Panel σ) : Panel σ :=
  p.setActivity number fun a => { a with cancelAsked := true }

/-- Cancels an activity that waits for nothing or for a single thing. -/
def cancelSingle (number : Nat) (p : Panel σ) : Panel σ :=
  match (p.activities[number]?).map Activity.stage with
  -- One who waits is woken at once; one who was told already finds out when it goes on.
  | some (.waiting _ none) => p.tell (fun _ => true) number .cancelled
  | some (.ended _) => p
  | _ => p.askCancel number

def isGoingOn (p : Panel σ) (number : Nat) : Bool := (p.activityEnding? number).isNone

/-- Cancels an activity, with all that it gathers. -/
def cancel (number : Nat) (p : Panel σ) : Panel σ :=
  match p.gathering? number with
  | none => p.cancelSingle number
  | some g =>
    -- While one of them goes on it is they who are cancelled, and the one who gathers ends after
    -- them.
    if g.activities.any p.isGoingOn then
      let p := p.setGathering number fun g => { g with cancelled := true }
      g.activities.foldl (fun p a => p.cancelSingle a) p
    else p.askCancel number

def cancelQuery (query : Nat) (p : Panel σ) : Panel σ :=
  match p.queries[query]? with
  | some q => p.cancel q.activity
  | none => p

/-- Cancels the refreshes that are going on. -/
def close (p : Panel σ) : Panel σ :=
  { p.outstanding.foldl (fun p a => p.cancelSingle a) p with outstanding := [] }

def closeSession (provider : Nat) (p : Panel σ) : Panel σ :=
  p.amend provider fun b =>
    let records := if b.session.closed then [] else [b.session.closedRecord]
    ({ b with session := b.session.close }, records)

def setWarning (provider : Nat) (warning : Option String) (p : Panel σ) : Panel σ :=
  match p.providers[provider]? with
  | some (.bibliography b) =>
    p.setProvider provider (.bibliography { b with session := { b.session with warning } })
  | some (.prepared q) => p.setProvider provider (.prepared { q with warning })
  | _ => p

/-! ## Looking -/

inductive Standing
  | pending
  | cancelled
  | failed (cause : Fault)
  | ended (found : Option (List Candidate))

def standing (p : Panel σ) (number : Nat) : Standing :=
  match p.activityEnding? number with
  | none => .pending
  | some (.ok found) => .ended found
  | some (.error (.cancelled _)) => .cancelled
  | some (.error (.fault cause)) => .failed cause

def shown? (p : Panel σ) (query : Nat) : Option Query := (p.queries[query]?).bind Asked.shown

def narrowList (entries : List Candidate) (token : String) (p : Panel σ) :
    Except Failure (List Candidate) × Panel σ :=
  let (found, providers, records) := narrow entries token p.limit p.providers
  (found, { p with providers }.report records)

def searchOne (provider : Nat) (token : String) (limit : Int) (p : Panel σ) :
    Except Failure (Option (List Candidate)) × Panel σ :=
  match p.providers[provider]? with
  | some q =>
    let (found, q) := q.search token limit
    (found, p.setProvider provider q)
  | none => (.ok none, p)

def exactOne (provider : Nat) (token : String) (p : Panel σ) : Except Failure Bool × Panel σ :=
  match p.providers[provider]? with
  | some q =>
    let (found, q) := q.exact token
    (found, p.setProvider provider q)
  | none => (.ok false, p)

/-! ## The citation at the cursor -/

/-- A way to find the citation at the cursor. -/
abbrev Finder := Citation.EditorState → Except Fault (Option Citation.Context)

def standardFinder : Finder := fun state => .ok (Citation.context? state)

/-- The citation at the cursor; a finder that fails finds none. -/
def context (finder : Finder) (state : Citation.EditorState) :
    Option Citation.Context × List Log.Record :=
  match finder state with
  | .ok found => (found, [])
  | .error cause =>
    (none, [⟨.orchestrator, Log.warning, "Citation parser failed: " ++ cause.message⟩])

end CiteSync.Completion.Panel
