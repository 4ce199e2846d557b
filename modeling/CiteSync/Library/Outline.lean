import CiteSync.Library.Source

/-!
# Outline

The collections of a library as a tree on lines: below each collection those that are in it, and at
the top those that are in none that is known.  Siblings stay in the order of the library.
-/

namespace CiteSync.Library

/-- The key of the known collection that this one is in.  A link to a collection that is not known
counts as none. -/
def knownParent? (specs : List Spec) (s : Spec) : Option String :=
  s.parentKey.filter fun key => specs.any (·.key == key)

/-- The collections right below the collection of a key, or at the top. -/
def rightBelow (specs : List Spec) (key : Option String) : List Spec :=
  specs.filter fun s => knownParent? specs s == key

/-- A line of an outline: a collection so many levels below the top. -/
structure Row where
  spec : Spec
  depth : Nat

def rowsBelow (specs : List Spec) : (levels : Nat) → (depth : Nat) → Option String → List Row
  | 0, _, _ => []
  | levels + 1, depth, key =>
    (rightBelow specs key).flatMap fun s =>
      ⟨s, depth⟩ :: rowsBelow specs levels (depth + 1) (some s.key)

/-- The rows of a library.  A row below as many others as there are collections would be below one
of its own key, so there are no more levels than collections. -/
def outline (specs : List Spec) : List Row := rowsBelow specs specs.length 0 none

def endsWithin (specs : List Spec) : (levels : Nat) → Option String → Bool
  | 0, _ => false
  | levels + 1, key => (rightBelow specs key).all fun s => endsWithin specs levels (some s.key)

/-- Whether the outline has an end.  It has none where a collection is below another of its own key.
-/
def hasOutline (specs : List Spec) : Bool := endsWithin specs (specs.length + 1) none

def Row.line (r : Row) (count : Nat) : String :=
  String.ofList (List.replicate (2 * r.depth) ' ') ++ r.spec.name ++ " [" ++ r.spec.key ++ "] (" ++
    toString count ++ " items)"

end CiteSync.Library
