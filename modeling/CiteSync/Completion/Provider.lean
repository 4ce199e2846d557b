import CiteSync.Completion.Bibliography
import CiteSync.Completion.CrossReference
import CiteSync.Session.Cycle

/-!
# Providers

Where candidates come from.  A provider answers at once from what it has loaded, and it can be asked
to bring itself up to date.  There are providers whose answers are laid down beforehand, the cross
references of a document, and the bibliography of a session.
-/

namespace CiteSync.Completion

open Library Remote

/-- The answer to a call by its number: each call takes the next answer, and the last one
repeats. -/
def answerTo {α : Type} (answers : List α) (number : Nat) (standard : α) : α :=
  (answers[min number (answers.length - 1)]?).getD standard

/-! ## Prepared answers -/

inductive Inquiry
  | exact (token : String)
  | search (token : String) (limit : Int)
  deriving DecidableEq, Repr

/-- A provider whose answers are laid down beforehand. -/
structure Prepared where
  current : Option (List Candidate) := none
  /-- The answers to refreshes, one after the other. -/
  fresh : List (Except Failure (List Candidate)) := []
  found : Option (List Candidate) := some []
  searchFailure : Option Failure := none
  complete : List String := []
  exactFailure : Option Failure := none
  warning : Option String := none
  gated : Bool := false
  refreshes : Nat := 0
  inquiries : List Inquiry := []

namespace Prepared

def next (p : Prepared) : Except Failure (List Candidate) × Prepared :=
  (answerTo p.fresh p.refreshes (.ok []), { p with refreshes := p.refreshes + 1 })

def exact (p : Prepared) (token : String) : Except Failure Bool × Prepared :=
  (match p.exactFailure with
    | some failure => .error failure
    | none => .ok (p.complete.contains token),
    { p with inquiries := p.inquiries ++ [.exact token] })

def search (p : Prepared) (token : String) (limit : Int) :
    Except Failure (Option (List Candidate)) × Prepared :=
  (match p.searchFailure with
    | some failure => .error failure
    | none => .ok p.found,
    { p with inquiries := p.inquiries ++ [.search token limit] })

end Prepared

/-! ## Cross references -/

/-- The cross references of a document, and the answers of the index that knows them. -/
structure ReferenceList where
  known : Option (List Reference) := none
  answers : List (Except Failure (List Reference)) := []
  gated : Bool := false
  asked : Nat := 0

namespace ReferenceList

def next (l : ReferenceList) : Except Failure (List Reference) × ReferenceList :=
  (answerTo l.answers l.asked (.ok []), { l with asked := l.asked + 1 })

def receive (l : ReferenceList) (rs : List Reference) : ReferenceList := { l with known := some rs }

def references (l : ReferenceList) : List Reference := l.known.getD []

def candidates (l : ReferenceList) : List Candidate := l.references.map Reference.candidate

/-- The references as candidates, once the index has answered. -/
def currentCandidates (l : ReferenceList) : Option (List Candidate) :=
  l.known.map fun rs => rs.map Reference.candidate

def knows (l : ReferenceList) (key : String) : Bool := l.references.any (·.key == key)

def search (l : ReferenceList) (token : String) (limit : Int) : List Candidate :=
  (firstOf limit (matchingReferences l.references token)).map Reference.candidate

end ReferenceList

/-! ## The bibliography -/

/-- The answer that a load waits for, and what its cycle remembers. -/
inductive Awaited
  | tree (request : Session.Request) (arrival : Arrival (Reply (List Spec)))
  | collections (request : Session.Request) (arrival : Arrival (Reply (List Collection)))

/-- A cycle that the bibliography has started. -/
structure Load where
  document : Document
  waiting : Option Awaited := none
  result : Option (Except Failure Bool) := none

namespace Load

def awaiting (awaited : Awaited) (l : Load) : Load := { l with waiting := some awaited }

def ended (result : Except Failure Bool) (l : Load) : Load :=
  { l with waiting := none, result := some result }

/-- What becomes of a load that has heard about the collection tree. -/
def follow : Session.Progress → Load → Load
  | .ended result => ended result
  | .waiting request arrival => awaiting (.collections request arrival)

end Load

/-- The bibliography of a session.  Those who ask for it while it is being loaded for the same
document share the load. -/
structure Bibliography (σ : Type) where
  session : Session
  remote : σ
  /-- Whether the collections arrive only when a gate is opened. -/
  gated : Bool := false
  /-- Whether the collection tree does. -/
  treeGated : Bool := false
  loads : List Load := []

namespace Bibliography

variable {σ : Type}

/-- The number of the load to share for a document: the last one that was started, if it is for the
same document and has not ended. -/
def shared? (b : Bibliography σ) (document : Document) : Option Nat :=
  match b.loads.getLast? with
  | some load =>
    if load.result.isNone && load.document = document then some (b.loads.length - 1) else none
  | none => none

/-- The number of the load to wait for, and whether it has just been started. -/
def join (b : Bibliography σ) (document : Document) : Nat × Bool × Bibliography σ :=
  match b.shared? document with
  | some number => (number, false, b)
  | none => (b.loads.length, true, { b with loads := b.loads ++ [{ document }] })

def setLoad (b : Bibliography σ) (number : Nat) (change : Load → Load) : Bibliography σ :=
  { b with loads := b.loads.modify number change }

/-- Whether the answer that a load waits for is held back at a gate, if it waits for one. -/
def heldBack? (b : Bibliography σ) (number : Nat) : Option Bool :=
  ((b.loads[number]?).bind Load.waiting).map fun
    | .tree .. => b.treeGated
    | .collections .. => b.gated

/-! ### Stretches of a load -/

/-- Runs a load until it waits for the collection tree or has ended. -/
def beginLoad (library : RemoteLibrary σ) (b : Bibliography σ) (number : Nat) : Bibliography σ :=
  match b.loads[number]? with
  | none => b
  | some load =>
    -- The session may have been closed since the load was asked for.
    match b.session.wanted load.document none with
    | .error cause => b.setLoad number (.ended (.error (.fault cause)))
    | .ok scope =>
      match b.session.start scope with
      | (.disabled changed, session) => { b with session }.setLoad number (.ended (.ok changed))
      | (.asking request, session) =>
        let (arrival, remote) := library.specs load.document request.roots b.remote
        { b with session, remote }.setLoad number (.awaiting (.tree request arrival))

/-- Runs a load from the collection tree until it waits for the collections or has ended. -/
def hearTree (library : RemoteLibrary σ) (b : Bibliography σ) (number : Nat) (document : Document)
    (request : Session.Request) (arrival : Arrival (Reply (List Spec))) :
    Bibliography σ × List Log.Record :=
  let (heard, remote) :=
    Session.askCollections library document 0 request arrival b.session b.remote
  ({ b with session := heard.session, remote }.setLoad number (.follow heard.result), heard.records)

def hearCollections (b : Bibliography σ) (number : Nat) (document : Document)
    (request : Session.Request) (arrival : Arrival (Reply (List Collection))) :
    Bibliography σ × List Log.Record :=
  let last := b.session.conclude document 0 request arrival
  ({ b with session := last.session }.setLoad number (.ended last.result), last.records)

def takeAnswer (library : RemoteLibrary σ) (b : Bibliography σ) (number : Nat) :
    Bibliography σ × List Log.Record :=
  match b.loads[number]? with
  | some { document, waiting := some (.tree request arrival), .. } =>
    b.hearTree library number document request arrival
  | some { document, waiting := some (.collections request arrival), .. } =>
    b.hearCollections number document request arrival
  | _ => (b, [])

/-- Ends a load that is cancelled.  Nobody joins it any more. -/
def cancelLoad (b : Bibliography σ) (number : Nat) : Bibliography σ × List Log.Record :=
  -- The time of a cycle is taken from its first question on, and noted also when it is cut short.
  let records := match b.loads[number]? with
    | some { document, waiting := some _, .. } => [Session.timingRecord document 0 true]
    | _ => []
  (b.setLoad number (.ended (.error (.cancelled ""))), records)

end Bibliography

/-! ## Any provider -/

inductive Provider (σ : Type)
  | prepared (p : Prepared)
  | references (l : ReferenceList)
  | bibliography (b : Bibliography σ)

namespace Provider

variable {σ : Type}

def label : Provider σ → String
  | prepared _ => "ScriptedProvider"
  | references _ => "CrossReferenceCompletionProvider"
  | bibliography _ => "BibliographyCompletionProvider"

/-- The candidates that are there right now, none before the first load. -/
def current : Provider σ → Option (List Candidate)
  | prepared p => p.current
  | references l => l.currentCandidates
  | bibliography b => b.session.currentCandidates

def exact : Provider σ → String → Except Failure Bool × Provider σ
  | prepared p, token => (p.exact token).map id prepared
  | references l, token => (.ok (l.knows token), references l)
  | bibliography b, token => (.ok (b.session.knows token), bibliography b)

def search : Provider σ → String → Int → Except Failure (Option (List Candidate)) × Provider σ
  | prepared p, token, limit => (p.search token limit).map id prepared
  | references l, token, limit => (.ok (some (l.search token limit)), references l)
  | bibliography b, token, limit => (.ok (some (b.session.search token limit)), bibliography b)

def warning? : Provider σ → Option String
  | prepared p => filled? p.warning
  | references _ => none
  | bibliography b => filled? b.session.warning

end Provider

end CiteSync.Completion
