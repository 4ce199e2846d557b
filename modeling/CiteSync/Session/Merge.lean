import CiteSync.Citation.Key
import CiteSync.Session.State

/-!
# Merging an answer

Puts the collections that a remote sent together with the ones that are known.  A collection that is
unchanged keeps its works, one that was sent without works takes those of its key, and the works of
all others are fresh: each of them gets a citation key, the provider's name and the collection it is
in.
-/

namespace CiteSync.Session

open Library

/-! ## Collections -/

/-- A collection of an answer, with works. -/
structure Merged where
  collection : Collection
  /-- Whether its works come from the answer. -/
  fresh : Bool
  changed : Bool

/-- The known collection that a sent one is unchanged from: the one of its name, at its version. -/
def unchanged? (useCache : Bool) (store : Store) (sent : Collection) : Option Collection :=
  if useCache then (store.findByName? sent.name).filter (·.version == sent.version) else none

/-- One collection of an answer.  `store` is what is known now, and `previous` what was known when
the remote was asked. -/
def mergeOne (useCache : Bool) (store previous : Store) (sent : Collection) : Merged :=
  match unchanged? useCache store sent with
  | some known => ⟨{ sent with items := known.items }, false, false⟩
  | none =>
    match sent.items, previous.findByKey? sent.key with
    -- Sent without works: the remote takes those of this key for known and unchanged.
    | none, some known => ⟨{ sent with items := known.items }, false, true⟩
    | _, _ => ⟨sent, true, true⟩

def mergeAll (useCache : Bool) (store previous : Store) (sent : List Collection) : List Merged :=
  sent.map (mergeOne useCache store previous)

/-! ## Citation keys of fresh works -/

/-- The citation keys in use, and the ones that items have, by the key of the item. -/
structure Ledger where
  taken : List String := []
  assigned : List (String × String) := []

namespace Ledger

def find? (l : Ledger) (item : String) : Option String :=
  (l.assigned.find? (·.1 == item)).map (·.2)

/-- Notes a citation key; an item keeps the first one that is noted for it. -/
def note (l : Ledger) (item : Option String) (id : String) : Ledger :=
  match item with
  | some item =>
    if (l.find? item).isSome then { l with taken := id :: l.taken }
    else ⟨id :: l.taken, (item, id) :: l.assigned⟩
  | none => { l with taken := id :: l.taken }

/-- Notes the citation key that a work comes with.  Only a carried work ties its item to it. -/
def noteWork (carried : Bool) (l : Ledger) (w : Source) : Ledger :=
  match filled? w.id with
  | some id => l.note (if carried then filled? w.key else none) id
  | none => l

def ofMerged (ms : List Merged) : Ledger :=
  ms.foldl (fun l m => m.collection.works.foldl (noteWork !m.fresh) l) {}

/-- The citation key of a work without one: its item's if that has one, else a new one. -/
def mint (l : Ledger) (w : Source) : String × Ledger :=
  match (filled? w.key).bind l.find? with
  | some id => (id, l)
  | none =>
    let id := Citation.suggestKey w l.taken
    (id, l.note (filled? w.key) id)

def keyOf (l : Ledger) (w : Source) : String × Ledger :=
  match filled? w.id with
  | some id => (id, l)
  | none => l.mint w

end Ledger

/-- A fresh work in a collection. -/
def tagged (id collectionKey : String) (w : Source) : Source :=
  { w with
    id := some id
    provider := some providerKey
    collectionKeys := if w.collectionKeys.isEmpty then [collectionKey] else w.collectionKeys }

def tagWorks (collectionKey : String) : Ledger → List Source → List Source × Ledger
  | l, [] => ([], l)
  | l, w :: rest =>
    -- The works behind this one are tagged with its key already taken.
    let (id, l) := l.keyOf w
    let (rest, l) := tagWorks collectionKey l rest
    (tagged id collectionKey w :: rest, l)

def tagFresh : Ledger → List Merged → List Collection
  | _, [] => []
  | l, m :: rest =>
    if m.fresh then
      let (works, l) := tagWorks m.collection.key l m.collection.works
      { m.collection with items := some works } :: tagFresh l rest
    else m.collection :: tagFresh l rest

def settle (ms : List Merged) : List Collection := tagFresh (.ofMerged ms) ms

end CiteSync.Session
