import CiteSync.KeyService.Endpoint
import CiteSync.Library.Closure
import CiteSync.Remote.Library
import CiteSync.Zotero.Service
import CiteSync.Zotero.Version

/-!
# The client of the web service

Reads collections and their works through the web service.  The items of a collection that is known
and unchanged are not fetched again; it is unchanged when no version in it is newer than the known
one and it holds as many items as were counted then.  A collection that lost an item has nothing
newer in it, so it takes the version of the library, which is.
-/

namespace CiteSync.Zotero

open Library Remote

/-! ## The client and its surroundings -/

structure Client where
  connection : Connection
  /-- Where citation keys come from that the library does not know. -/
  keyService : Option KeyService.Endpoint := none
  attempts : Int := 3
  /-- The pause after the first failed call, in seconds. -/
  pause : Float := 2.0

structure Services (σ : Type) where
  library : Service σ
  web : KeyService.Web σ

/-- What a client works on: the services' state, and what it did and said. -/
structure World (σ : Type) where
  remote : σ
  connected : Bool := false
  records : List Log.Record := []
  pauses : List Float := []

variable {σ : Type}

def report (records : List Log.Record) : Call (World σ) Unit :=
  modify fun w => { w with records := w.records ++ records }

def once {α : Type} (call : Call σ α) : Call (World σ) α := do
  let w ← get
  let (result, remote) := call.perform w.remote
  set { w with remote }
  match result with
  | .ok a => return a
  | .error failure => throw failure

/-- Connects unless that was done before. -/
def Client.connect (c : Client) (services : Services σ) (w : World σ) : World σ :=
  -- Without an attempt nothing is called, and so nothing connects.
  if w.connected || c.attempts ≤ 0 then w
  else { w with remote := services.library.connect c.connection w.remote, connected := true }

def Client.attempt {α : Type} (c : Client) (services : Services σ) (task : String)
    (call : Call σ α) : Call (World σ) α := do
  let w := c.connect services (← get)
  let policy : Policy := ⟨c.attempts, c.pause, task⟩
  let (done, remote) := policy.run call.perform w.remote
  set { w with
    remote
    records := w.records ++ done.records
    pauses := w.pauses ++ done.pauses }
  match done.result with
  | .ok a => return a
  | .error failure => throw failure

/-! ## Calls on the web service -/

section Calls

variable (c : Client) (services : Services σ)

def Client.fetchCollections : Call (World σ) Json :=
  c.attempt services "Fetch collections" do
    services.library.everything (← services.library.collections)

def Client.fetchItemVersions (key : String) : Call (World σ) Json :=
  c.attempt services ("Fetch item versions of " ++ key) (services.library.itemVersions key)

def Client.fetchItems (key : String) : Call (World σ) Json :=
  c.attempt services ("Fetch items of " ++ key) do
    services.library.everything (← services.library.items key)

def Client.fetchLibraryVersion : Call (World σ) Json :=
  c.attempt services "Fetch library version" services.library.libraryVersion

/-! ## The collection tree -/

def readListing (listing : Json) : Except Fault (List Spec) := do
  (← elements listing).mapM readSpec

def selected (roots : List String) (listing : Json) : Call (World σ) (List Spec) := do
  let specs ← Call.ofResult (readListing listing)
  report (if roots.isEmpty then [] else missingRecord specs roots)
  return closure specs roots

def failedReply {α : Type} (operation : String) (cause : Fault) : Call (World σ) (Reply α) := do
  report [cause.record operation]
  return .failure cause.message cause.warning?

/-- The collections of those names and all below them.  A listing that cannot be read fails the
call. -/
def Client.collectionSpecs (roots : List String) : Call (World σ) (Reply (List Spec)) := do
  match ← (c.fetchCollections services).caught with
  -- The listing is read outside of what is caught: a fault in it is not turned into a reply.
  | .ok listing => return .success (← selected roots listing) none
  | .error cause => failedReply "get_collection_specs" cause

/-! ## Collections with their works -/

/-- What is found out about a collection before its items are fetched. -/
inductive Verdict
  /-- Unchanged, at the version that is known. -/
  | unchanged (version : Int)
  /-- Changed, with a version of its own. -/
  | changed (version : Int)
  /-- Smaller than it was at that known version, with nothing newer in it. -/
  | shrunk (known : Int)
  deriving DecidableEq, Repr

def verdict (known : Option Spec) (useCache : Bool) (content : Int) (count : Nat) : Verdict :=
  match known with
  | some spec =>
    if useCache && content ≤ spec.version then
      if spec.itemCount.all (· == (count : Int)) then .unchanged spec.version
      else .shrunk spec.version
    else .changed content
  | none => .changed content

/-- What is known of the collection of that key; the last where a key repeats. -/
def knownSpec? (known : List Spec) (key : String) : Option Spec :=
  known.reverse.find? (·.key == key)

/-- The version of the library, asked for once. -/
def Client.libraryVersionOnce (before : Option Int) : Call (World σ) Int := do
  match before with
  | some version => return version
  | none => Call.ofResult (readVersion "int" (← c.fetchLibraryVersion services))

def readWorks (key : String) (items : Json) : Except Fault (List Source) := do
  let works ← (← elements items).mapM fun item => do
    if ← isCitable item then some <$> readSource item key else return none
  return works.filterMap id

def reported (spec : Spec) (version : Int) (count : Nat) (items : Option (List Source)) :
    Collection where
  key := spec.key
  name := spec.name
  parentKey := spec.parentKey
  version := version
  itemCount := some count
  items := items

def Client.withWorks (spec : Spec) (version : Int) (count : Nat) : Call (World σ) Collection := do
  let works ← Call.ofResult (readWorks spec.key (← c.fetchItems services spec.key))
  return reported spec version count (some works)

/-- One collection, with its works unless they are known, and the version of the library if it had
to be asked for. -/
def Client.fetchOne (known : List Spec) (useCache : Bool) (spec : Spec) (library : Option Int) :
    Call (World σ) (Collection × Option Int) := do
  let versions ← Call.ofResult (readItemVersions (← c.fetchItemVersions services spec.key))
  let count := versions.length
  match verdict (knownSpec? known spec.key) useCache (highest spec.version versions) count with
  | .unchanged version => return (reported spec version count none, library)
  | .changed version => return (← c.withWorks services spec version count, library)
  | .shrunk before =>
    -- The items that are left are no newer than before, so the version of the library stands in;
    -- at any rate one above the known version, for the loss to be noticed.
    let version ← c.libraryVersionOnce services library
    return (← c.withWorks services spec (max (before + 1) version) count, some version)

def Client.fetchEach (known : List Spec) (useCache : Bool) :
    List Spec → Option Int → Call (World σ) (List Collection)
  | [], _ => return []
  | spec :: rest, library => do
    let (collection, library) ← c.fetchOne services known useCache spec library
    return collection :: (← fetchEach known useCache rest library)

/-! ## Citation keys -/

def lacksKey (w : Source) : Bool := (filled? w.id).isNone && (filled? w.key).isSome

def keyless (collections : List Collection) : List Source :=
  (collections.flatMap Collection.works).filter lacksKey

/-- The items of works, each once and in order. -/
def itemKeys (works : List Source) : List String :=
  (works.filterMap (filled? ·.key)).eraseDups.mergeSort fun a b => decide (a ≤ b)

def foundKey? (found : List (String × Json)) (item : String) : Option String :=
  (Json.lookup found item).map Json.shown

/-- A work with the citation key of its item, if it lacks one. -/
def fillKey (found : List (String × Json)) (w : Source) : Source :=
  if lacksKey w then { w with id := foundKey? found (w.key.getD "") } else w

def fillKeys (found : List (String × Json)) (c : Collection) : Collection :=
  { c with items := c.items.map (List.map (fillKey found)) }

/-- Collections with the citation keys that the key service knows.  Without an answer they stay as
they are. -/
def Client.withKeys (collections : List Collection) : Call (World σ) (List Collection) := do
  match c.keyService, itemKeys (keyless collections) with
  | none, _ => return collections
  | some _, [] => return collections
  | some endpoint, keys =>
    match ← (once (KeyService.citationKeys services.web endpoint keys ownLibrary)).caught with
    | .ok found => return collections.map (fillKeys found)
    -- The key service only adds to what was fetched, so its faults cost no works.
    | .error cause =>
      report [⟨.client, Log.debug, "Better BibTeX citation keys unavailable: " ++ cause.message⟩]
      return collections

/-! ## The client as a remote library -/

def Client.collections (roots : List String) (known : List Spec) (useCache : Bool) :
    Call (World σ) (Reply (List Collection)) := do
  let fetch : Call (World σ) (List Collection) := do
    c.fetchEach services known useCache (← selected roots (← c.fetchCollections services)) none
  match ← fetch.caught with
  | .ok collections => return .success (← c.withKeys services collections) none
  | .error cause => failedReply "get_collections" cause

def Client.exportText (ids : List String) (format : String) (library : Int) :
    Call (World σ) (Option (Reply String)) := do
  match c.keyService with
  | none => return none
  | some endpoint =>
    match ← (once (KeyService.exportText services.web endpoint ids format library)).caught with
    | .ok text => return some (.success text none)
    | .error cause =>
      report [⟨.client, Log.warning, "Better BibTeX export failed: " ++ cause.message⟩]
      return none

end Calls

/-- A call with what was reported during it. -/
def arrival {α : Type} (call : Call (World σ) α) (w : World σ) : Arrival α × World σ :=
  let (result, w') := call.perform { w with records := [] }
  ({ result, records := w'.records }, { w' with records := w.records })

def Client.library (c : Client) (services : Services σ) : RemoteLibrary (World σ) where
  specs _ roots := arrival (c.collectionSpecs services roots)
  collections _ roots known useCache := arrival (c.collections services roots known useCache)
  exportText ids format library := arrival (c.exportText services ids format library)

end CiteSync.Zotero
