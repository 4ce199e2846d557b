import CiteSync.Completion.Candidate
import CiteSync.Session.State
import CiteSync.Text.Case

/-!
# Works as candidates

The works of a session as a reader finds them: by the start of the citation key, by a part of it, or
by what is written about the work, in this order.
-/

namespace CiteSync.Completion

open Library

def bibliographyKind : String := "bibliography"

def workCandidate (w : Source) : Candidate where
  id := w.id.getD ""
  kind := bibliographyKind
  detail := w.title.getD ""
  image := some w.kind
  origin := .work w

/-- Texts that are not empty with blanks between them. -/
def spaced (parts : List String) : String := Text.join " " (parts.filter (· ≠ ""))

/-- The line about a work, with room for so many characters of its creators. -/
def workLine (w : Source) (room : Int) : String :=
  spaced [Text.truncate (creatorLine w.creators) (max room 0) Text.defaultMark, w.year.getD ""]

/-- The works that no work before has the citation key of; `seen` are the keys before. -/
def unseenWorks (seen : List String) : List Source → List Source
  | [] => []
  | w :: rest =>
    match filled? w.id with
    | some id =>
      if seen.contains id then unseenWorks seen rest else w :: unseenWorks (id :: seen) rest
    | none => unseenWorks seen rest

/-- The works with a citation key, each key once. -/
def distinctWorks (works : List Source) : List Source := unseenWorks [] works

/-! ## Search -/

/-- What is written about a work, in lower case. -/
def description (w : Source) : String :=
  Text.lower (spaced [w.title.getD "", creatorLine w.creators, w.year.getD "",
    w.container.getD ""])

/-- How well a work matches what was typed, in lower case: best by the start of its key, then by a
part of it, then by what is written about it. -/
def rank? (typed : String) (w : Source) : Option Nat :=
  let id := Text.lower (w.id.getD "")
  if Text.startsWith id typed then some 0
  else if Text.contains id typed then some 1
  else if Text.contains (description w) typed then some 2
  else none

def ofRank (typed : String) (rank : Nat) (works : List Source) : List Source :=
  works.filter fun w => rank? typed w == some rank

/-- The works that match what was typed, best first and otherwise in the order of the library. -/
def matching (works : List Source) (token : String) : List Source :=
  let typed := Text.lower token
  let works := distinctWorks works
  ofRank typed 0 works ++ ofRank typed 1 works ++ ofRank typed 2 works

end CiteSync.Completion

namespace CiteSync.Session

open Completion

def candidates (s : Session) : List Candidate := (distinctWorks s.works).map workCandidate

/-- The works of a session as candidates, once a cycle has ended. -/
def currentCandidates (s : Session) : Option (List Candidate) :=
  if s.hasLoaded then some s.candidates else none

def knows (s : Session) (id : String) : Bool := s.works.any (·.id == some id)

def search (s : Session) (token : String) (limit : Int) : List Candidate :=
  (firstOf limit (matching s.works token)).map workCandidate

end CiteSync.Session
