import CiteSync.Remote.Call

/-!
# The web service

The calls of the web service of a reference manager.  Everything it answers is JSON of whatever
shape, and every call can fail.
-/

namespace CiteSync.Zotero

open Remote

/-- Which library is meant and how it is reached. -/
structure Connection where
  libraryId : String
  libraryType : String := "user"
  apiKey : Option String := none
  /-- Whether the service runs beside the reader's own reference manager. -/
  isLocal : Bool := false
  deriving DecidableEq, Repr, Inhabited

/-- A web service whose state is a `σ`. -/
structure Service (σ : Type) where
  /-- Opens the connection, before the first call. -/
  connect : Connection → σ → σ
  /-- The first page of the collections. -/
  collections : Call σ Json
  /-- The first page of the items at the top of a collection. -/
  items : (collection : String) → Call σ Json
  /-- The versions of the items at the top of a collection, by their keys. -/
  itemVersions : (collection : String) → Call σ Json
  /-- A first page with all that follow it. -/
  everything : Json → Call σ Json
  /-- The version of the library as a whole. -/
  libraryVersion : Call σ Json

end CiteSync.Zotero
