import CiteSync.Library.Source
import CiteSync.Text.Search
import CiteSync.Text.Truncated

/-!
# Candidates

What a reader is offered while typing a citation, and the rules by which the offers of several
providers become one list.  A candidate is known by its id and its kind; of several that are known
by the same the first is kept, and the list is in the order of the ids.
-/

namespace CiteSync.Completion

open Library

/-! ## What is offered -/

/-- A place in the document that can be referred to. -/
structure Reference where
  kind : String
  name : String
  title : String := ""
  /-- The file it is in, if that is another one. -/
  file : Option String := none
  deriving DecidableEq, Repr, Inhabited

inductive Origin
  | none
  | work (w : Source)
  | reference (r : Reference)

/-- Something that a reader is offered. -/
structure Candidate where
  id : String
  kind : String
  detail : String := ""
  image : Option String := none
  origin : Origin := .none

/-- What a candidate is known by. -/
def Candidate.identity (c : Candidate) : String × String := (c.id, c.kind)

/-- What is put into the text when a candidate is chosen. -/
structure Insertion where
  pos : Int
  id : String
  origin : Origin

def Candidate.choose (c : Candidate) (pos : Int) : Insertion := ⟨pos, c.id, c.origin⟩

/-! ## Lists of candidates -/

/-- The candidates that none before is known as; `seen` are the ones known before. -/
def unseen (seen : List (String × String)) : List Candidate → List Candidate
  | [] => []
  | c :: rest =>
    if seen.contains c.identity then unseen seen rest
    else c :: unseen (c.identity :: seen) rest

def dedupe (cs : List Candidate) : List Candidate := unseen [] cs

/-- The first candidate of each identity, in the order of the ids. -/
def sorted (cs : List Candidate) : List Candidate :=
  (dedupe cs).mergeSort fun a b => decide (a.id ≤ b.id)

/-- The candidates of several providers as one list; a provider may have none yet. -/
def merge (groups : List (Option (List Candidate))) : List Candidate :=
  sorted (groups.flatMap (·.getD []))

/-- The first elements of a list; a negative number leaves that many off at the end. -/
def firstOf {α : Type} (count : Int) (xs : List α) : List α :=
  if 0 ≤ count then xs.take count.toNat else xs.take (xs.length - (-count).toNat)

end CiteSync.Completion
