import CiteSync.Completion.Panel.State

/-!
# What activities do

The stretches that activities run, and the order in which they run.
-/

namespace CiteSync.Completion.Panel

open Remote

variable {σ : Type} (library : RemoteLibrary σ)

/-! ## Bringing a provider up to date -/

def failedToLoad (label text : String) : Log.Record :=
  ⟨.orchestrator, Log.warning, label ++ " failed to load entries: " ++ text⟩

def refreshFailed (label text : String) : Log.Record :=
  ⟨.orchestrator, Log.warning, "Completion refresh " ++ label ++ ".refresh failed: " ++ text⟩

def labelOf (p : Panel σ) (provider : Nat) : String :=
  ((p.providers[provider]?).map Provider.label).getD ""

/-- The records of an arrival for a query, which has none if it is the newest one. -/
def arrivalRecords (p : Panel σ) (query : Nat) : List Log.Record :=
  let shown := (p.queries[query]?).bind Asked.shown
  let stale := shown.filter fun s => !s.isCurrent p.generation
  stale.toList.map (·.discarded p.generation)

def receive (query provider : Nat) (found : List Candidate) (p : Panel σ) : Panel σ :=
  { p with
    queries := p.queries.modify query fun q =>
      { q with shown := q.shown.map fun s => s.receive p.generation provider found }
    records := p.records ++ p.arrivalRecords query }

/-- Ends an activity that asked a provider; a refresh hands on what it has found. -/
def deliver (number : Nat) (answer : Except Failure (List Candidate)) (p : Panel σ) : Panel σ :=
  let p := match (p.activities[number]?).map Activity.work, answer with
    | some (.refresh query provider _), .ok found => p.receive query provider found
    | _, _ => p
  p.endActivity number (answer.map some)

def takeIndexed (number provider : Nat) (answer : Except Failure (List Reference)) (p : Panel σ) :
    Panel σ :=
  match p.providers[provider]?, answer with
  | some (.references l), .ok found =>
    let l := l.receive found
    (p.setProvider provider (.references l)).deliver number (.ok l.candidates)
  | _, .error failure => p.deliver number (.error failure)
  | _, .ok _ => p

/-- Lets an activity wait for a load, without the load depending on the activity. -/
def awaitLoad (number load : Nat) (p : Panel σ) : Panel σ :=
  (p.whenOver load (.passOn number load)).pause number .joined

def joiningRecord : Log.Record := ⟨.providers, Log.debug, "Joining in-flight bibliography sync"⟩

def loadActivity? (p : Panel σ) (provider load : Nat) : Option Nat :=
  p.activities.findIdx? (·.work.isLoad provider load)

/-- Asks a provider to bring itself up to date. -/
def askProvider (number provider : Nat) (document : Document) (p : Panel σ) : Panel σ :=
  match p.providers[provider]? with
  | none => p
  | some (.prepared q) =>
    let (answer, q) := q.next
    let p := p.setProvider provider (.prepared q)
    if q.gated then p.awaitGate number provider (.prepared answer) else p.deliver number answer
  | some (.references l) =>
    let (answer, l) := l.next
    let p := p.setProvider provider (.references l)
    if l.gated then p.awaitGate number provider (.indexed answer)
    else p.takeIndexed number provider answer
  | some (.bibliography b) =>
    -- The load is an activity of its own, so that it outlives those who wait for it.
    let (load, isNew, b) := b.join document
    let p := p.setProvider provider (.bibliography b)
    let p := if isNew then (p.addActivity (.load provider load)).2 else p.report [joiningRecord]
    match p.loadActivity? provider load with
    | some load => p.awaitLoad number load
    | none => p

def takeLoaded (number provider : Nat) (p : Panel σ) : Panel σ :=
  match p.providers[provider]? with
  | some (.bibliography b) => p.deliver number (.ok b.session.candidates)
  | _ => p

/-! ## Loads -/

def loadEnding : Except Failure Bool → Ending
  | .ok _ => .done
  | .error (.cancelled _) => .cancelled
  | .error failure => .error failure

def endLoadActivity (number provider load : Nat) (p : Panel σ) : Panel σ :=
  match p.providers[provider]? with
  | some (.bibliography b) =>
    match (b.loads[load]?).bind Load.result with
    | some result => p.endActivity number (loadEnding result)
    | none => p
  | _ => p

def heldBack? (p : Panel σ) (provider load : Nat) : Option Bool :=
  match p.providers[provider]? with
  | some (.bibliography b) => b.heldBack? load
  | _ => none

/-- Lets a load wait at a gate if its next answer is held back there, and go on if not.  The
activity of a load that waits for no answer ends. -/
def proceed (number provider load : Nat) (goOn : Panel σ → Panel σ) (p : Panel σ) : Panel σ :=
  match p.heldBack? provider load with
  | some true => p.awaitGate number provider .loading
  | some false => goOn p
  | none => p.endLoadActivity number provider load

/-- Ends a load with the second answer that it has waited for. -/
def finishLoad (number provider load : Nat) (p : Panel σ) : Panel σ :=
  (p.amend provider (·.takeAnswer library load)).endLoadActivity number provider load

def continueLoad (number provider load : Nat) (p : Panel σ) : Panel σ :=
  (p.amend provider (·.takeAnswer library load)).proceed number provider load
    (finishLoad library number provider load)

def startLoad (number provider load : Nat) (p : Panel σ) : Panel σ :=
  (p.amend provider fun b => (b.beginLoad library load, [])).proceed number provider load
    (continueLoad library number provider load)

/-! ## Queries -/

def setQuery (query : Nat) (shown : Query) (refreshes : List Nat) (p : Panel σ) : Panel σ :=
  { p with queries := p.queries.modify query fun q =>
      { q with shown := some shown, refreshes } }

/-- Starts a query: shows what the providers have if one of them has anything, else waits for their
answers. -/
def startQuery (number query : Nat) (token : String) (document : Document) (p : Panel σ) :
    Panel σ :=
  let generation := p.generation + 1
  let p := { p with generation }
  let current := p.current
  let each := List.range p.providers.length
  if current.all Option.isNone then
    -- Nothing can be shown yet: the query itself waits for every provider.
    let (asked, p) := p.addActivities (each.map (.entries · document)) (.count number)
    if asked.isEmpty then
      (p.setQuery query (.cold token generation []) []).endActivity number .done
    else p.pause number (.asking generation (.whole asked))
  else
    -- The query has ended before its refreshes begin; what they find is handed on later.
    let (refreshes, p) := p.addActivities (each.map (.refresh query · document)) .noteRefresh
    let p := { p with outstanding := p.outstanding ++ refreshes }
    (p.setQuery query (.warm token generation current) refreshes).endActivity number .done

def missingAnswer (p : Panel σ) (number : Nat) : List Log.Record :=
  match p.activities[number]?, p.activityEnding? number with
  | some { work := .entries provider _, .. }, some (.error (.fault cause)) =>
    [failedToLoad (p.labelOf provider) cause.message]
  | some { work := .entries provider _, .. }, some (.error (.cancelled _)) =>
    [failedToLoad (p.labelOf provider) ""]
  | _, _ => []

def broughtBack? (p : Panel σ) (number : Nat) : Option (List Candidate) :=
  match p.activityEnding? number with
  | some (.ok found) => found
  | _ => none

def finishQuery (number query : Nat) (token : String) (generation : Nat) (asked : List Nat)
    (p : Panel σ) : Panel σ :=
  let p := p.report (asked.flatMap p.missingAnswer)
  (p.setQuery query (.cold token generation (asked.filterMap p.broughtBack?)) []).endActivity number
    .done

/-! ## Waiting -/

def latest? (p : Panel σ) (query : Nat) : Option (List Candidate) :=
  ((p.queries[query]?).bind Asked.shown).bind Query.latest

def startWait (number query : Nat) (p : Panel σ) : Panel σ :=
  let refreshes := ((p.queries[query]?).map Asked.refreshes).getD []
  if refreshes.isEmpty then p.endActivity number (.ok (p.latest? query))
  else
    let p := refreshes.foldl (fun p a => p.whenOver a (.count number a)) p
    p.pause number (.gathering (.whole refreshes))

/-! ## Stretches -/

def begin (work : Work) (number : Nat) (p : Panel σ) : Panel σ :=
  match work with
  | .query query token document => p.startQuery number query token document
  | .entries provider document => p.askProvider number provider document
  | .refresh _ provider document => p.askProvider number provider document
  | .load provider load => p.startLoad library number provider load
  | .wait query => p.startWait number query

/-- What an activity that asks a provider does after it has waited. -/
def hear (provider : Nat) (pause : Pause) (number : Nat) (p : Panel σ) : Panel σ :=
  match pause with
  | .prepared answer => p.deliver number answer
  | .indexed answer => p.takeIndexed number provider answer
  | .joined => p.takeLoaded number provider
  | _ => p

def resume (work : Work) (pause : Pause) (number : Nat) (p : Panel σ) : Panel σ :=
  match work, pause with
  | .query query token _, .asking generation asked =>
    p.finishQuery number query token generation asked.activities
  | .entries provider _, pause => p.hear provider pause number
  | .refresh _ provider _, pause => p.hear provider pause number
  | .load provider load, .loading => p.continueLoad library number provider load
  | .wait query, .gathering _ => p.endActivity number (.ok (p.latest? query))
  | _, _ => p

/-- Ends an activity that does no more of what it is for.  Those are cancelled loads, and others
that were cancelled or whose load failed. -/
def giveUp (work : Work) (number : Nat) (failure : Failure) (p : Panel σ) : Panel σ :=
  match work with
  | .load provider load =>
    (p.amend provider (·.cancelLoad load)).endActivity number (.error failure)
  | _ => p.endActivity number (.error failure)

def startActivity (number : Nat) (p : Panel σ) : Panel σ :=
  match p.activities[number]? with
  | some { work, stage := .fresh, cancelAsked, .. } =>
    if cancelAsked then p.giveUp work number (.cancelled "") else p.begin library work number
  | _ => p

/-- An activity goes on, or ends if what it waited for failed or it is to be cancelled. -/
def goOn (number : Nat) (p : Panel σ) : Panel σ :=
  match p.activities[number]? with
  | some { work, stage := .waiting pause (some told), cancelAsked, .. } =>
    if cancelAsked then p.giveUp work number (.cancelled "")
    else
      match told with
      | .ok _ => p.resume library work pause number
      | .error failure => p.giveUp work number failure
  | _ => p

def noteRefresh (number : Nat) (p : Panel σ) : Panel σ :=
  match p.activities[number]? with
  | some { work, stage := .ended ending, .. } =>
    let p := { p with outstanding := p.outstanding.erase number }
    match work, ending with
    -- Nobody has to wait for a refresh, so its fault would go unnoticed; a cancelled one is none.
    | .refresh _ provider _, .error (.fault cause) =>
      p.report [refreshFailed (p.labelOf provider) cause.message]
    | _, _ => p
  | _ => p

def count (gatherer activity : Nat) (p : Panel σ) : Panel σ :=
  if (p.activityEnding? activity).isSome then
    let p := p.setGathering gatherer (.count activity)
    match p.gathering? gatherer with
    | some g => p.tell Pause.isComplete gatherer g.ending
    | none => p
  else p

/-- What one who waits for a load is told when it has ended. -/
def passedOn : Ending → Ending
  | .ok _ => .done
  | .error (.cancelled _) => .cancelled
  | .error failure => .error failure

def passOn (number load : Nat) (p : Panel σ) : Panel σ :=
  match p.activityEnding? load with
  | some ending => p.tell Pause.isJoined number (passedOn ending)
  | none => p

def react (reaction : Reaction) (p : Panel σ) : Panel σ :=
  match reaction with
  | .start number => p.startActivity library number
  | .goOn number => p.goOn library number
  | .noteRefresh number => p.noteRefresh number
  | .count gatherer activity => p.count gatherer activity
  | .passOn number load => p.passOn number load

def happen (p : Panel σ) : Panel σ :=
  match p.ready with
  | [] => p
  | reaction :: rest => { p with ready := rest }.react library reaction

def settleWithin : Nat → Panel σ → Panel σ
  | 0, p => p
  | left + 1, p => if p.ready.isEmpty then p else settleWithin left (p.happen library)

/-- How often something can happen before all is quiet.  Every activity starts and goes on once, and
takes part in what it waits for; a query starts an activity for each provider, and each of those a
load. -/
def patience (p : Panel σ) : Nat :=
  let width := p.providers.length + 1
  8 * (p.activities.length + 2 * width * (p.ready.length + 1)) * width

/-- Lets everything happen that is ready, and what becomes ready by it. -/
def settle (p : Panel σ) : Panel σ := p.settleWithin library p.patience

end CiteSync.Completion.Panel
