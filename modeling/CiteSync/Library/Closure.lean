import CiteSync.Library.Source
import CiteSync.Log.Record
import CiteSync.Text.Search

/-!
# Collections below others

A document names the collections to start from, and everything below them belongs to it as well.
Parent links are taken as they come: they may lead nowhere, in circles or to several collections of
one key.
-/

namespace CiteSync.Library

def Spec.parent? (s : Spec) : Option String := filled? s.parentKey

def Spec.isBelow (s : Spec) (keys : List String) : Bool := s.parent?.any keys.contains

/-- The keys right below the given ones that are not among them. -/
def nextKeys (specs : List Spec) (keys : List String) : List String :=
  (specs.filter fun s => s.isBelow keys && !keys.contains s.key).map (·.key)

/-- Adds the keys below, level by level, as often as is said at most. -/
def descend (specs : List Spec) : Nat → List String → List String
  | 0, keys => keys
  | left + 1, keys =>
    match nextKeys specs keys with
    | [] => keys
    | found => descend specs left (keys ++ found)

def rootKeys (specs : List Spec) (names : List String) : List String :=
  (specs.filter fun s => names.contains s.name).map (·.key)

/-- The keys of the collections of those names and of all below them.  Every level but the last adds
a key, so there are no more levels than collections. -/
def closureKeys (specs : List Spec) (names : List String) : List String :=
  descend specs specs.length (rootKeys specs names)

/-- The collections of those names and all below them, in the order of the library; without names
the whole library. -/
def closure (specs : List Spec) (names : List String) : List Spec :=
  if names.isEmpty then specs
  else
    let keys := closureKeys specs names
    specs.filter fun s => keys.contains s.key

theorem closure_sublist (specs : List Spec) (names : List String) :
    (closure specs names).Sublist specs := by
  unfold Library.closure
  split
  · exact List.Sublist.refl _
  · exact List.filter_sublist

/-! ## Names that are missing -/

def missingNames (specs : List Spec) (names : List String) : List String :=
  (names.filter fun n => !specs.any (·.name == n)).eraseDups.mergeSort fun a b => decide (a ≤ b)

def missingRecord (specs : List Spec) (names : List String) : List Log.Record :=
  match missingNames specs names with
  | [] => []
  | missing => [⟨.client, Log.info,
      "Collections not found in library: " ++ Text.join ", " missing⟩]

end CiteSync.Library
