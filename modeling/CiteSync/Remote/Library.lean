import CiteSync.Library.Reply
import CiteSync.Remote.Call

/-!
# Remote libraries

What a document asks a remote library: the shape of its collection tree, the collections with their
works, and works in another format.
-/

namespace CiteSync.Remote

open Library

/-- What a remote library knows of the document that asks. -/
structure Document where
  path : Option String := none
  blocks : List String := []
  deriving DecidableEq, Repr, Inhabited

/-- How a call on a remote library ended. -/
structure Arrival (α : Type) where
  result : Except Failure α
  /-- What was reported while the call went on. -/
  records : List Log.Record := []
  /-- Whether the document was closed while the answer was on its way. -/
  closing : Bool := false

def citationFormat : String := "f895aa0d-f28e-47fe-b247-2ea77c6ed583"

def ownLibrary : Int := 1

/-- The calls on a remote library whose state is a `σ`. -/
structure RemoteLibrary (σ : Type) where
  /-- The collections of those names and all below them, none for the whole library. -/
  specs : Document → (roots : List String) → σ → Arrival (Reply (List Spec)) × σ
  /-- The same collections with their works.  Those of a collection that is known and unchanged may
  be left out if the cache may be used. -/
  collections : Document → (roots : List String) → (known : List Spec) → (useCache : Bool) → σ →
    Arrival (Reply (List Collection)) × σ
  /-- Works in a format, or nothing where that is not to be had. -/
  exportText : (ids : List String) → (format : String) → (library : Int) → σ →
    Arrival (Option (Reply String)) × σ

end CiteSync.Remote
