import CiteSync.Proofs.Remote.Calls
import CiteSync.Zotero.Client

/-!
# Libraries as the web service shows them

What a library holds at a moment, what the client reports of it, and what it takes for a web service
to show it.  Of the service's state it is only known that it stays among the states in which the
library is shown; a call may fail in whatever way is allowed.
-/

namespace CiteSync.Zotero

open Library Remote

/-! ## A library at a moment -/

/-- An item at the top of a collection. -/
structure Item where
  key : String
  version : Int
  /-- The item as it is sent. -/
  record : Json

/-- What a library holds at a moment. -/
structure Catalogue where
  /-- The collections, each with its own version. -/
  specs : List Spec
  /-- The items at the top of a collection, by its key. -/
  items : String → List Item
  /-- The item versions that are listed for a collection, by its key. -/
  listed : String → List (String × Int)
  /-- The version of the library as a whole. -/
  version : Int

namespace Catalogue

variable (L : Catalogue)

/-- The works of a collection, unless an item of it cannot be read. -/
def works (key : String) : Except Fault (List Source) :=
  readWorks key (.arr ((L.items key).map Item.record))

/-- The version of what a collection holds. -/
def content (spec : Spec) : Int := highest spec.version ((L.listed spec.key).map (·.2))

/-- How many items a collection has at its top. -/
def count (spec : Spec) : Nat := (L.listed spec.key).length

/-- What the client finds out about a collection before it fetches items. -/
def verdict (known : List Spec) (useCache : Bool) (spec : Spec) : Verdict :=
  Zotero.verdict (knownSpec? known spec.key) useCache (L.content spec) (L.count spec)

/-- What the client reports of a collection. -/
inductive Reports (known : List Spec) (useCache : Bool) (spec : Spec) : Collection → Prop
  | unchanged {version : Int} (found : L.verdict known useCache spec = .unchanged version) :
      Reports known useCache spec (reported spec version (L.count spec) none)
  | changed {version : Int} {works : List Source}
      (found : L.verdict known useCache spec = .changed version)
      (read : L.works spec.key = .ok works) :
      Reports known useCache spec (reported spec version (L.count spec) (some works))
  | shrunk {before : Int} {works : List Source}
      (found : L.verdict known useCache spec = .shrunk before)
      (read : L.works spec.key = .ok works) :
      Reports known useCache spec
        (reported spec (max (before + 1) L.version) (L.count spec) (some works))

end Catalogue

/-! ## Services that show a library -/

section Shows

variable {σ : Type} (service : Service σ) (L : Catalogue) (P : σ → Prop) (E : Failure → Prop)

/-- Among the states in `P`, a service lists the collections and the item versions of a library,
or fails as `E` says. -/
structure ShowsOutline : Prop where
  connect : ∀ connection s, P s → P (service.connect connection s)
  collections : (do service.everything (← service.collections) : Call σ Json).Meets P E
    fun listing => readListing listing = .ok L.specs
  itemVersions : ∀ spec ∈ L.specs, (service.itemVersions spec.key).Meets P E
    fun versions => readItemVersions versions = .ok ((L.listed spec.key).map (·.2))

/-- Among the states in `P`, a service sends the items of a library and tells its version, or fails
as `E` says. -/
structure ShowsBodies : Prop where
  items : ∀ spec ∈ L.specs,
    (do service.everything (← service.items spec.key) : Call σ Json).Meets P E
      (· = .arr ((L.items spec.key).map Item.record))
  libraryVersion : service.libraryVersion.Meets P E
    fun version => readVersion "int" version = .ok L.version

/-- Among the states in `P`, a service shows a library or fails as `E` says. -/
structure Shows : Prop extends ShowsOutline service L P E, ShowsBodies service L P E

variable {service L P E} {E' : Failure → Prop}

theorem ShowsOutline.mono (h : ShowsOutline service L P E) (hE : ∀ e, E e → E' e) :
    ShowsOutline service L P E' where
  connect := h.connect
  collections := h.collections.mono hE fun _ hq => hq
  itemVersions spec hspec := (h.itemVersions spec hspec).mono hE fun _ hq => hq

theorem ShowsBodies.mono (h : ShowsBodies service L P E) (hE : ∀ e, E e → E' e) :
    ShowsBodies service L P E' where
  items spec hspec := (h.items spec hspec).mono hE fun _ hq => hq
  libraryVersion := h.libraryVersion.mono hE fun _ hq => hq

theorem Shows.mono (h : Shows service L P E) (hE : ∀ e, E e → E' e) : Shows service L P E' where
  toShowsOutline := h.toShowsOutline.mono hE
  toShowsBodies := h.toShowsBodies.mono hE

end Shows

end CiteSync.Zotero
