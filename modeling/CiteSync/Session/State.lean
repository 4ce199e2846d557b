import CiteSync.Remote.Failure
import CiteSync.Session.Store

/-!
# The session of a document

All that is known of the library for one open document.  It goes away with the document.
-/

namespace CiteSync

open Library Session

/-- What is known of the library for one document. -/
structure Session where
  path : Option String := none
  store : Store := {}
  specs : List Spec := []
  /-- What the last answer warned of. -/
  warning : Option String := none
  enabled : Bool := true
  cycles : Nat := 0
  closed : Bool := false
  deriving Inhabited

namespace Session

def label (s : Session) : String := (filled? s.path).getD "<untitled>"

def opened (path : Option String) : Session := { path }

/-- Whether a cycle has ended. -/
def hasLoaded (s : Session) : Bool := s.cycles ≠ 0

def checkOpen (s : Session) : Except Remote.Fault Unit :=
  if s.closed then
    .error (.service .sessionClosed ("Library session for " ++ s.label ++ " is closed") none)
  else .ok ()

/-- Forgets the collections. -/
def reset (s : Session) : Session := { s with store := .empty, specs := [] }

def close (s : Session) : Session :=
  if s.closed then s else { s.reset with warning := none, closed := true }

def holdsAnything (s : Session) : Bool := !s.store.isEmpty || !s.specs.isEmpty

/-- Whether the collections that are known may be used.  A warning puts them in doubt. -/
def trustsCache (s : Session) : Bool := (filled? s.warning).isNone

def countCycle (s : Session) : Session := { s with cycles := s.cycles + 1 }

/-! ## What a reader sees -/

/-- Whether the library is in use and has collections. -/
def isActive (s : Session) : Bool := s.enabled && !s.specs.isEmpty

/-- The name under which this library provides works. -/
def providerKey : String := "zotero"

def listings (s : Session) : List Listing :=
  s.specs.map fun spec => ⟨spec.key, spec.name, spec.parentKey, providerKey⟩

/-- The works, once for each collection they are in. -/
def works (s : Session) : List Source := s.store.works

/-- The works that belong to a collection; all of them if no key is given. -/
def worksIn (s : Session) (key : Option String) : List Source :=
  match filled? key with
  | none => s.works
  | some key => s.works.filter fun w => w.collectionKeys.contains key

/-! ## Records -/

def openedRecord (s : Session) : Log.Record :=
  ⟨.session, Log.debug, "Opened library session for " ++ s.label⟩

def closedRecord (s : Session) : Log.Record :=
  ⟨.session, Log.debug, "Closed library session for " ++ s.label⟩

end Session

end CiteSync
