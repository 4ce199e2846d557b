import CiteSync.Citation.Doi
import CiteSync.Completion.Provider

/-!
# Narrowing a list to what was typed

Nothing typed or an identifier of a work shows everything, a complete key shows nothing, and
anything else shows the best matches of every provider.
-/

namespace CiteSync.Completion

open Remote

variable {σ : Type}

/-- Marks that may be typed behind a complete key. -/
def trailingMarks : List Char := ",!?.:".toList

/-- The key that a token would be if it were complete. -/
def completeKey (token : String) : String :=
  let cs := Text.dropEnd trailingMarks.contains token.toList
  if cs = [] then token else String.ofList cs

def showsAll (token : String) : Bool :=
  Text.trim token.toList = [] || Citation.hasDoi token

/-- Whether one of the providers knows a key; those after it are not asked. -/
def anyExact (key : String) : List (Provider σ) → Except Failure Bool × List (Provider σ)
  | [] => (.ok false, [])
  | p :: rest =>
    match p.exact key with
    | (.ok true, p) => (.ok true, p :: rest)
    | (.ok false, p) =>
      let (found, rest) := anyExact key rest
      (found, p :: rest)
    | (.error failure, p) => (.error failure, p :: rest)

def searchAll (token : String) (limit : Int) :
    List (Provider σ) → Except Failure (List Candidate) × List (Provider σ)
  | [] => (.ok [], [])
  | p :: rest =>
    match p.search token limit with
    | (.ok found, p) =>
      let (more, rest) := searchAll token limit rest
      (more.map (found.getD [] ++ ·), p :: rest)
    | (.error failure, p) => (.error failure, p :: rest)

/-- What matches a token: nothing if it is a complete key. -/
def matches? (token : String) (limit : Int) (providers : List (Provider σ)) :
    Except Failure (List Candidate) × List (Provider σ) :=
  match anyExact (completeKey token) providers with
  | (.ok true, providers) => (.ok [], providers)
  | (.ok false, providers) =>
    let (found, providers) := searchAll token limit providers
    (found.map sorted, providers)
  | (.error failure, providers) => (.error failure, providers)

def searchFailedRecord (token : String) (cause : Fault) : Log.Record :=
  ⟨.orchestrator, Log.warning, "Citation search for " ++ Text.quoted token ++
    " failed, showing all entries: " ++ cause.message⟩

/-- Narrows a list to what was typed.  Where a provider fails the list stays as it is. -/
def narrow (entries : List Candidate) (token : String) (limit : Int)
    (providers : List (Provider σ)) :
    Except Failure (List Candidate) × List (Provider σ) × List Log.Record :=
  if showsAll token then (.ok entries, providers, [])
  else
    match matches? token limit providers with
    | (.ok found, providers) => (.ok found, providers, [])
    | (.error (.fault cause), providers) =>
      (.ok entries, providers, [searchFailedRecord token cause])
    | (.error (.cancelled note), providers) => (.error (.cancelled note), providers, [])

end CiteSync.Completion
