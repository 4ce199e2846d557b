import CiteSync.Completion.Candidate
import CiteSync.Text.Case

/-!
# Cross references as candidates

Figures, tables, sections and other places of a document that can be referred to.
-/

namespace CiteSync.Completion

def referenceKind : String := "xref"

def placeNames : List (String × String) :=
  [("fig", "Figure"), ("tbl", "Table"), ("eq", "Equation"), ("sec", "Section"),
    ("lst", "Listing"), ("thm", "Theorem"), ("lem", "Lemma"), ("cor", "Corollary"),
    ("prp", "Proposition"), ("cnj", "Conjecture"), ("def", "Definition"), ("exm", "Example"),
    ("exr", "Exercise")]

namespace Reference

def key (r : Reference) : String := r.kind ++ "-" ++ r.name

/-- The name of a kind of place, the kind itself if it has none. -/
def placeName (r : Reference) : String :=
  ((placeNames.find? (·.1 == r.kind)).map (·.2)).getD r.kind

def location (r : Reference) : String :=
  match Library.filled? r.file with
  | some file => r.placeName ++ " (" ++ file ++ ")"
  | none => r.placeName

def candidate (r : Reference) : Candidate where
  id := r.key
  kind := referenceKind
  detail := r.title
  image := some r.kind
  origin := .reference r

def line (r : Reference) (room : Int) : String :=
  Text.truncate r.location (max room 0) Text.defaultMark

end Reference

/-! ## Search -/

def startsKey (typed : String) (r : Reference) : Bool :=
  Text.startsWith (Text.lower r.key) typed

def describes (typed : String) (r : Reference) : Bool :=
  Text.contains (Text.lower r.key) typed || Text.contains (Text.lower r.title) typed

/-- The places that match what was typed, those that match by the start of their keys first. -/
def matchingReferences (rs : List Reference) (token : String) : List Reference :=
  let typed := Text.lower token
  rs.filter (startsKey typed) ++ rs.filter fun r => !startsKey typed r && describes typed r

end CiteSync.Completion
