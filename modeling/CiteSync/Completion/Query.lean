import CiteSync.Completion.Candidate
import CiteSync.Log.Record
import CiteSync.Text.Quoted

/-!
# Queries

What a reader sees while typing: what the providers have loaded at once, and then a list that grows
more current with every provider that was brought up to date.  Only the newest query of all takes
in what arrives, so that a late arrival never changes an older list.
-/

namespace CiteSync.Completion

structure Query where
  token : String
  generation : Nat
  /-- What is shown at once. -/
  items : List Candidate
  /-- What each provider has to offer so far. -/
  contributions : List (List Candidate) := []
  /-- What is shown since the first arrival. -/
  latest : Option (List Candidate) := none

namespace Query

/-- A query that shows what the providers have loaded. -/
def warm (token : String) (generation : Nat) (current : List (Option (List Candidate))) :
    Query where
  token := token
  generation := generation
  items := merge current
  contributions := current.map (·.getD [])

/-- A query that shows what the providers answered, for as many as did. -/
def cold (token : String) (generation : Nat) (answers : List (List Candidate)) : Query where
  token := token
  generation := generation
  items := merge (answers.map some)

def isCurrent (q : Query) (generation : Nat) : Bool := q.generation == generation

def discarded (q : Query) (generation : Nat) : Log.Record :=
  ⟨.orchestrator, Log.debug, "Discarding refresh for stale query " ++ Text.quoted q.token ++
    " (generation " ++ toString q.generation ++ ", current " ++ toString generation ++ ")"⟩

/-- Takes in what a provider has found, unless a newer query was made. -/
def receive (q : Query) (generation provider : Nat) (found : List Candidate) : Query :=
  if q.isCurrent generation then
    let contributions := q.contributions.set provider (dedupe found)
    { q with contributions, latest := some (merge (contributions.map some)) }
  else q

end Query

end CiteSync.Completion
