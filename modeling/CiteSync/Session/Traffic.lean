import CiteSync.Session.Cycle

/-!
# Traffic

Cycles of one document that go on at the same time.  A cycle rests while it waits for an answer, and
answers may arrive in any order, with other cycles starting and the document closing in between.
-/

namespace CiteSync.Session

open Library Remote FrontMatter

inductive Stage
  | askingTree (request : Request)
  | askingCollections (request : Request)
  | ended (result : Except Failure Bool)

/-- What a cycle that goes on was started with. -/
def Stage.request? : Stage → Option Request
  | .askingTree request => some request
  | .askingCollections request => some request
  | .ended _ => none

/-- A cycle and the document as it was when the cycle was started. -/
structure Cycle where
  document : Document
  stage : Stage

/-- A session with its cycles, in the order in which they were started. -/
structure Traffic where
  session : Session
  cycles : List Cycle := []
  records : List Log.Record := []

inductive Event
  | load (document : Document) (given : Option Scope)
  /-- The answer about the collection tree arrives for a cycle. -/
  | tree (number : Nat) (elapsed : Float) (arrival : Arrival (Reply (List Spec)))
  /-- The answer about the collections arrives for a cycle. -/
  | collections (number : Nat) (elapsed : Float) (arrival : Arrival (Reply (List Collection)))
  | close

namespace Traffic

def opened (path : Option String) : Traffic := { session := .opened path }

/-- A load begins: a cycle starts, unless there is nothing to ask for. -/
def load (t : Traffic) (document : Document) (given : Option Scope) : Traffic :=
  match t.session.wanted document given with
  | .error cause =>
    { t with cycles := t.cycles ++ [⟨document, .ended (.error (.fault cause))⟩] }
  | .ok scope =>
    match t.session.start scope with
    | (.disabled changed, s) =>
      { t with session := s, cycles := t.cycles ++ [⟨document, .ended (.ok changed)⟩] }
    | (.asking request, s) =>
      { t with session := s, cycles := t.cycles ++ [⟨document, .askingTree request⟩] }

/-- A cycle that waits for the collection tree takes the answer and goes on to ask for the
collections. -/
def hearTree (t : Traffic) (number : Nat) (elapsed : Float)
    (arrival : Arrival (Reply (List Spec))) : Traffic :=
  match t.cycles[number]? with
  | some ⟨document, .askingTree request⟩ =>
    let heard := t.session.hearTree document elapsed arrival
    let stage : Stage :=
      match heard.result with
      | none => .askingCollections request
      | some result => .ended result
    { session := heard.session
      cycles := t.cycles.set number ⟨document, stage⟩
      records := t.records ++ heard.records }
  | _ => t

def hearCollections (t : Traffic) (number : Nat) (elapsed : Float)
    (arrival : Arrival (Reply (List Collection))) : Traffic :=
  match t.cycles[number]? with
  | some ⟨document, .askingCollections request⟩ =>
    let last := t.session.conclude document elapsed request arrival
    { session := last.session
      cycles := t.cycles.set number ⟨document, .ended last.result⟩
      records := t.records ++ last.records }
  | _ => t

def close (t : Traffic) : Traffic :=
  { t with
    session := t.session.close
    records := t.records ++ if t.session.closed then [] else [t.session.closedRecord] }

/-- What happens next.  An answer that no cycle waits for does not arrive. -/
def step (t : Traffic) : Event → Traffic
  | .load document given => t.load document given
  | .tree number elapsed arrival => t.hearTree number elapsed arrival
  | .collections number elapsed arrival => t.hearCollections number elapsed arrival
  | .close => t.close

def run (t : Traffic) (events : List Event) : Traffic := events.foldl step t

end Traffic

end CiteSync.Session
