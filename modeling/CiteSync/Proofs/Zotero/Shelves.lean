import CiteSync.Proofs.Zotero.Loads
import CiteSync.Zotero.Holdings

/-!
# Holdings as libraries

Holdings in which no faults are laid down show what they hold, and no call changes that.
-/

namespace CiteSync.Zotero.Holdings

open Library Remote

/-- The holdings of a library, with no faults laid down for calls to come. -/
structure Holds (L : Catalogue) (h : Holdings) : Prop where
  listing : readListing h.collections = .ok L.specs
  items : ∀ spec ∈ L.specs, h.itemsOf spec.key = .arr ((L.items spec.key).map Item.record)
  itemVersions : ∀ spec ∈ L.specs,
    readItemVersions (h.itemVersionsOf spec.key) = .ok ((L.listed spec.key).map (·.2))
  version : readVersion "int" h.version = .ok L.version
  faultless : h.faults = []

variable {L : Catalogue}

theorem answer_meets (m : Method) (about : Option String) {value : Holdings → Json}
    {Q : Json → Prop} (hvalue : ∀ h, Holds L h → Q (value h)) :
    (answer m about value).Meets (Holds L) (fun _ => False) Q := by
  intro h hh
  have hnext : h.nextFault m = none := by
    unfold nextFault
    rw [hh.faultless]
    rfl
  have hspend : h.spendFault m = [] := by
    unfold spendFault
    rw [hh.faultless]
    rfl
  unfold answer
  simp only [Call.perform_bind, Call.perform_get, Call.perform_set, hnext, hspend]
  -- what a call leaves differs in the journal alone
  exact ⟨hvalue h hh, hh.listing, hh.items, hh.itemVersions, hh.version, rfl⟩

/-- Holdings show the library that they hold, without a failure. -/
theorem service_shows : Shows service L (Holds L) fun _ => False where
  connect _ _ hh := ⟨hh.listing, hh.items, hh.itemVersions, hh.version, hh.faultless⟩
  collections := by
    refine .bind (Q := fun page => readListing page = .ok L.specs)
      (answer_meets _ _ fun h hh => hh.listing) ?_
    exact fun page hpage => answer_meets _ _ fun _ _ => hpage
  itemVersions spec hspec := answer_meets _ _ fun h hh => hh.itemVersions spec hspec
  items spec hspec := by
    refine .bind (Q := (· = .arr ((L.items spec.key).map Item.record)))
      (answer_meets _ _ fun h hh => hh.items spec hspec) ?_
    exact fun page hpage => answer_meets _ _ fun _ _ => hpage
  libraryVersion := answer_meets _ _ fun h hh => hh.version

/-! ## A collection of books -/

/-- A book, by its key and its version. -/
def book (b : String × Int) : Json :=
  .obj [("key", .str b.1), ("version", .int b.2), ("data", .obj [("itemType", .str "book")])]

/-- The holdings of a library with one collection, which holds books. -/
def ofBooks (books : List (String × Int)) (version : Int) : Holdings where
  collections := .arr [.obj [("key", .str "C"), ("version", .int 4),
    ("data", .obj [("name", .str "Papers")])]]
  items := [("C", .arr (books.map book))]
  version := .int version

end CiteSync.Zotero.Holdings

namespace CiteSync.Zotero

open Library Session Holdings

/-- A library with one collection, which holds books. -/
def Catalogue.ofBooks (books : List (String × Int)) (version : Int) : Catalogue where
  specs := [{ key := "C", name := "Papers", version := 4 }]
  items _ := books.map fun b => ⟨b.1, b.2, book b⟩
  listed _ := books
  version := version

namespace Catalogue

variable {books : List (String × Int)} {version : Int}

theorem mem_ofBooks {spec : Spec} (h : spec ∈ (ofBooks books version).specs) :
    spec = { key := "C", name := "Papers", version := 4 } := List.mem_singleton.1 h

end Catalogue

theorem Holdings.ofBooks_holds {books : List (String × Int)} {version : Int}
    (hlisted : readItemVersions ((Holdings.ofBooks books version).itemVersionsOf "C") =
      .ok (books.map (·.2))) :
    Holds (Catalogue.ofBooks books version) (Holdings.ofBooks books version) where
  listing := rfl
  items spec hspec := by
    rw [Catalogue.mem_ofBooks hspec]
    show Json.arr _ = Json.arr _
    rw [Catalogue.ofBooks, List.map_map]
    rfl
  itemVersions spec hspec := by
    rw [Catalogue.mem_ofBooks hspec]
    exact hlisted
  version := rfl
  faultless := rfl

/-! ## Loads of books -/

/-- A reader of a library at hand. -/
def Holdings.reader : Client where
  connection := { libraryId := "1" }

/-- A load of the whole library while it holds these books. -/
def bookVisit (books : List (String × Int)) (version : Int) : Visit (World Holdings) where
  given := some .all
  remote := { remote := .ofBooks books version }

/-- A session that has loaded two books. -/
def bookSession : Session :=
  ((bookVisit [("A", 5), ("B", 6)] 6).run (reader.library services) (.opened none)).1.session

theorem bookSession_open : bookSession.closed = false := by
  unfold bookSession
  rw [Visit.run_closed _ _ _ (reader.library_quiet services)]
  rfl

end CiteSync.Zotero
