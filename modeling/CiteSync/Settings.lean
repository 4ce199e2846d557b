import CiteSync.Library.Check
import CiteSync.Zotero.Client

/-!
# Settings

How the library is reached and how much is shown, from the variables of the environment.  The names
of the variables have `ZOTERO_` in front and may be written in either case.
-/

namespace CiteSync

open Library

inductive LibraryType
  | user
  | group
  deriving DecidableEq, Repr

def LibraryType.word : LibraryType → String
  | user => "user"
  | group => "group"

structure Settings where
  libraryId : Option String := none
  libraryType : LibraryType := .user
  apiKey : Option String := none
  isLocal : Bool := false
  useKeyService : Bool := true
  keyServicePort : Int := 23119
  /-- How long a request is waited for, in seconds. -/
  requestTimeout : Int := 30
  /-- How often a call is made at most. -/
  retryAttempts : Int := 3
  maxCompletions : Int := 100
  deriving DecidableEq, Repr, Inhabited

namespace Settings

/-! ## Reading -/

def variableStart : String := "zotero_"

/-- The settings among the variables of an environment, by their names in lower case. -/
def ownVariables (environment : List (String × String)) : Members :=
  environment.filterMap fun (name, value) =>
    let name := Text.lower name
    if Text.startsWith name variableStart then
      some (String.ofList (name.toList.drop variableStart.length), .str value)
    else none

def checkLibraryType : Json → Check LibraryType
  | .str "user" => .pass .user
  | .str "group" => .pass .group
  | _ => .fail [] .notChoice

def checkFlag : Json → Check Bool
  | .str s => checkFlagText s
  | .bool b => .pass b
  | _ => .fail [] .unreadableFlag

def checkPositive (v : Json) : Check Int :=
  match checkWhole v with
  | .ok n => if n < 1 then .fail [] .tooSmall else .pass n
  | .error es => .error es

def ofEnvironment (environment : List (String × String)) : Check Settings :=
  let ms := ownVariables environment
  let setting {α : Type} (name : String) (read : Json → Check α) (standard : α) : Check α :=
    field ms name name read standard
  let standard : Settings := {}
  (Check.pass Settings.mk)
    |>.also (setting "library_id" (checkOptional checkText) none)
    |>.also (setting "library_type" checkLibraryType standard.libraryType)
    |>.also (setting "api_key" (checkOptional checkText) none)
    |>.also (setting "local" checkFlag standard.isLocal)
    |>.also (setting "use_better_bibtex" checkFlag standard.useKeyService)
    |>.also (setting "better_bibtex_port" checkWhole standard.keyServicePort)
    |>.also (setting "request_timeout" checkPositive standard.requestTimeout)
    |>.also (setting "retry_attempts" checkPositive standard.retryAttempts)
    |>.also (setting "max_completions" checkPositive standard.maxCompletions)

/-! ## Clients -/

/-- The number of the reader's own library where the service runs beside the reader. -/
def ownLibraryId : String := "0"

/-- The client that the settings ask for.  Away from the reader's own machine the library has to be
named. -/
def client (s : Settings) : Except Remote.Fault Zotero.Client :=
  let id := filled? s.libraryId
  if !s.isLocal && id.isNone then
    .error (.service .configuration "No Zotero library configured"
      (some "Set ZOTERO_LIBRARY_ID and ZOTERO_API_KEY, or ZOTERO_LOCAL=true"))
  else
    .ok {
      connection := ⟨id.getD ownLibraryId, s.libraryType.word, s.apiKey, s.isLocal⟩
      keyService := if s.useKeyService then some ⟨s.keyServicePort, s.requestTimeout⟩ else none
      attempts := s.retryAttempts }

end Settings

end CiteSync
