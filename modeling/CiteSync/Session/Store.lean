import CiteSync.Library.Source

/-!
# The store of a session

The collections of the last cycle that was committed, always replaced as a whole.
-/

namespace CiteSync.Session

open Library

/-- The last committed collections, none before the first. -/
structure Store where
  collections : List Collection := []
  deriving Inhabited

namespace Store

def empty : Store := {}

def size (s : Store) : Nat := s.collections.length

def isEmpty (s : Store) : Bool := s.collections.isEmpty

/-- The works of every collection in the order of the collections.  A work that is in several
collections is there once for each. -/
def works (s : Store) : List Source := s.collections.flatMap Collection.works

def findByName? (s : Store) (name : String) : Option Collection :=
  s.collections.find? (·.name == name)

/-- The collection of that key; the last one where a key repeats. -/
def findByKey? (s : Store) (key : String) : Option Collection :=
  s.collections.reverse.find? (·.key == key)

def specs (s : Store) : List Spec := s.collections.map Collection.spec

@[simp]
theorem works_empty : empty.works = [] := rfl

theorem mem_works {s : Store} {w : Source} :
    w ∈ s.works ↔ ∃ c ∈ s.collections, w ∈ c.works := by
  simp [works, List.mem_flatMap]

end Store

end CiteSync.Session
