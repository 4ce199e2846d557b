import CiteSync.FrontMatter.Directive
import CiteSync.Log.Timing
import CiteSync.Remote.Library
import CiteSync.Session.Merge
import CiteSync.Yaml.Fault

/-!
# Cycles

A cycle brings a session up to date with a remote library.  It asks twice, for the collection tree
and for the collections, and between its steps anything else may happen to the session: other
cycles may run and the document may be closed.  Each step is therefore a function of the session as
it is then, and of what the cycle itself remembers.
-/

namespace CiteSync.Session

open Library Remote FrontMatter

/-! ## Steps -/

/-- What a cycle remembers of the session it started with. -/
structure Request where
  roots : List String
  previous : Store
  /-- Without a warning the remote may leave out what is known. -/
  useCache : Bool

def Request.known (r : Request) : List Spec := r.previous.specs

inductive Start
  /-- The library is not wanted; whether that changes anything. -/
  | disabled (changed : Bool)
  | asking (request : Request)

def start (s : Session) (scope : Scope) : Start × Session :=
  if scope = .nothing then
    -- Forgetting is a cycle too: from here on the session counts as loaded, with nothing in it.
    (.disabled s.holdsAnything, ({ s with enabled := false }.reset).countCycle)
  else
    (.asking ⟨scope.roots, s.store, s.trustsCache⟩, { s with enabled := true })

def errorText (error : Option String) : String := error.getD "None"

def takeSpecs (s : Session) (answer : Reply (List Spec)) : Session × List Log.Record :=
  match answer.ok, answer.message with
  | true, some specs => ({ s with specs }, [])
  | _, _ =>
    (s, [⟨.sync, Log.info, "Could not read collection tree: " ++ errorText answer.error⟩])

structure Outcome where
  changed : Bool
  session : Session
  records : List Log.Record := []

def flagText (b : Bool) : String := if b then "True" else "False"

/-- Puts the collections of an answer in place of the ones that are known. -/
def commit (s : Session) (r : Request) (sent : List Collection) : Outcome :=
  let merged := mergeAll r.useCache s.store r.previous sent
  let changed := merged.any (·.changed) || merged.length != r.previous.size
  { changed
    session := { s with store := ⟨settle merged⟩ }
    records := [⟨.sync, Log.debug, "Synced " ++ toString merged.length ++
      " collections (use_cache=" ++ flagText r.useCache ++ ", has_updates=" ++ flagText changed ++
      ")"⟩] }

def takeCollections (s : Session) (r : Request) (answer : Reply (List Collection)) : Outcome :=
  -- The warning counts whatever else the answer says; only the collections are kept from a session
  -- that was closed meanwhile.
  let s := { s with warning := answer.warning }
  match answer.ok, answer.message with
  | false, _ =>
    ⟨false, s, [⟨.sync, Log.info, "Could not read collections: " ++ errorText answer.error⟩]⟩
  | true, none => ⟨false, s, []⟩
  | true, some sent => if s.closed then ⟨false, s, []⟩ else s.commit r sent

def giveUp (s : Session) (cause : Fault) : Outcome :=
  ⟨false, s, [⟨.sync, Log.warning,
    "Zotero sync failed, keeping cached collections: " ++ cause.message⟩]⟩

def timingRecord (document : Document) (elapsed : Float) (failed : Bool) : Log.Record :=
  let timing : Log.Timing := ⟨"Zotero sync", [("document", errorText document.path)]⟩
  ⟨.sync, Log.debug, timing.line elapsed failed⟩

/-! ## Halves of a cycle -/

/-- The part of the library that is asked for: the given one, else the one the document names. -/
def asked (document : Document) (given : Option Scope) : Except Fault Scope :=
  match given with
  | some scope => .ok scope
  | none =>
    match FrontMatter.scope document.blocks with
    | .ok scope => .ok scope
    | .error fault => .error (.foreign fault.label fault.message)

/-- The part of the library that a cycle is about.  A closed document has no cycles. -/
def wanted (s : Session) (document : Document) (given : Option Scope) : Except Fault Scope := do
  s.checkOpen
  asked document given

inductive Progress
  /-- It has ended: whether it changed anything, or why it failed. -/
  | ended (result : Except Failure Bool)
  /-- It has asked for the collections and waits for the answer. -/
  | waiting (request : Request) (arrival : Arrival (Reply (List Collection)))

/-- A stretch of a cycle. -/
structure Stretch (α : Type) where
  result : α
  session : Session
  records : List Log.Record := []

def cancelled (document : Document) (elapsed : Float) (note : String) (s : Session) :
    Stretch (Except Failure Bool) :=
  ⟨.error (.cancelled note), s, [timingRecord document elapsed true]⟩

def Outcome.finish (o : Outcome) (document : Document) (elapsed : Float) :
    Stretch (Except Failure Bool) :=
  ⟨.ok o.changed, o.session.countCycle, o.records ++ [timingRecord document elapsed false]⟩

def atArrival {α : Type} (s : Session) (arrival : Arrival α) : Session :=
  if arrival.closing then s.close else s

/-- What is reported until an answer arrives. -/
def arrivalRecords {α : Type} (s : Session) (arrival : Arrival α) : List Log.Record :=
  arrival.records ++ if arrival.closing && !s.closed then [s.closedRecord] else []

/-- The second half of a cycle: takes the answer about the collections. -/
def conclude (s : Session) (document : Document) (elapsed : Float) (request : Request)
    (arrival : Arrival (Reply (List Collection))) : Stretch (Except Failure Bool) :=
  let before := s.arrivalRecords arrival
  let s := s.atArrival arrival
  let last := match arrival.result with
    | .ok answer => (s.takeCollections request answer).finish document elapsed
    | .error (.fault cause) => (s.giveUp cause).finish document elapsed
    -- A cancelled cycle is not counted and leaves the session as it is.
    | .error (.cancelled note) => cancelled document elapsed note s
  { last with records := before ++ last.records }

/-- Takes the answer about the collection tree.  Without one the cycle has ended. -/
def hearTree (s : Session) (document : Document) (elapsed : Float)
    (arrival : Arrival (Reply (List Spec))) : Stretch (Option (Except Failure Bool)) :=
  let before := s.arrivalRecords arrival
  let s := s.atArrival arrival
  let ended (last : Stretch (Except Failure Bool)) : Stretch (Option (Except Failure Bool)) :=
    ⟨some last.result, last.session, before ++ last.records⟩
  match arrival.result with
  | .ok answer =>
    -- A refusal is only reported: the collections are asked for all the same.
    let (s, records) := s.takeSpecs answer
    ⟨none, s, before ++ records⟩
  | .error (.fault cause) => ended ((s.giveUp cause).finish document elapsed)
  | .error (.cancelled note) => ended (cancelled document elapsed note s)

def askCollections {σ : Type} (library : RemoteLibrary σ) (document : Document) (elapsed : Float)
    (request : Request) (arrival : Arrival (Reply (List Spec))) (s : Session) (remote : σ) :
    Stretch Progress × σ :=
  let heard := s.hearTree document elapsed arrival
  match heard.result with
  | none =>
    let (next, remote) :=
      library.collections document request.roots request.known request.useCache remote
    (⟨.waiting request next, heard.session, heard.records⟩, remote)
  | some result => (⟨.ended result, heard.session, heard.records⟩, remote)

/-- The first half of a cycle: starts it, takes the answer about the collection tree and asks for
the collections. -/
def begin {σ : Type} (library : RemoteLibrary σ) (document : Document) (elapsed : Float)
    (scope : Scope) (s : Session) (remote : σ) : Stretch Progress × σ :=
  match s.start scope with
  | (.disabled changed, s) => (⟨.ended (.ok changed), s, []⟩, remote)
  | (.asking request, s) =>
    let (arrival, remote) := library.specs document request.roots remote
    askCollections library document elapsed request arrival s remote

/-! ## A whole cycle -/

/-- A whole cycle, with nothing else happening to the session but what the answers bring. -/
def runCycle {σ : Type} (library : RemoteLibrary σ) (document : Document) (elapsed : Float)
    (scope : Scope) (s : Session) (remote : σ) : Stretch (Except Failure Bool) × σ :=
  let (first, remote) := begin library document elapsed scope s remote
  match first.result with
  | .ended result => (⟨result, first.session, first.records⟩, remote)
  | .waiting request arrival =>
    let last := first.session.conclude document elapsed request arrival
    ({ last with records := first.records ++ last.records }, remote)

def load {σ : Type} (library : RemoteLibrary σ) (document : Document) (given : Option Scope)
    (elapsed : Float) (s : Session) (remote : σ) : Stretch (Except Failure Bool) × σ :=
  match s.wanted document given with
  | .ok scope => runCycle library document elapsed scope s remote
  | .error cause => (⟨.error (.fault cause), s, []⟩, remote)

/-! ## Works in another format -/

/-- A work in the citation format, where that is to be had. -/
def citationText {σ : Type} (library : RemoteLibrary σ) (w : Source) (allowed : Bool) (remote : σ) :
    Arrival (Option String) × σ :=
  match filled? w.id, allowed with
  | some id, true =>
    let (arrival, remote) := library.exportText [id] citationFormat ownLibrary remote
    match arrival.result with
    | .ok answer =>
      let text := (answer.filter (·.ok)).bind fun reply => filled? reply.message
      ({ result := .ok text, records := arrival.records }, remote)
    | .error (.fault cause) =>
      let record : Log.Record := ⟨.sync, Log.warning,
        "BibLaTeX export of " ++ id ++ " failed: " ++ cause.message⟩
      ({ result := .ok none, records := arrival.records ++ [record] }, remote)
    | .error (.cancelled note) =>
      ({ result := .error (.cancelled note), records := arrival.records }, remote)
  | _, _ => ({ result := .ok none }, remote)

def exportWork {σ : Type} (s : Session) (library : RemoteLibrary σ) (w : Source) (allowed : Bool)
    (remote : σ) : Arrival (Option String) × σ :=
  match s.checkOpen with
  | .ok () => citationText library w allowed remote
  | .error cause => ({ result := .error (.fault cause) }, remote)

end CiteSync.Session
