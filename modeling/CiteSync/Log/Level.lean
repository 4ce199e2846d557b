import CiteSync.Log.Record
import CiteSync.Text.Case

/-!
# The level asked for

How severe a record has to be to be shown, from the variables of the environment.
-/

namespace CiteSync.Log

def namedLevels : List (String × Severity) :=
  [("DEBUG", debug), ("INFO", info), ("WARNING", warning), ("ERROR", error),
    ("CRITICAL", critical)]

def debugWords : List String := ["true", "1", "yes"]

/-- The value of a variable, empty if it is not set. -/
def valueOf (environment : List (String × String)) (name : String) : String :=
  ((environment.find? (·.1 == name)).map (·.2)).getD ""

/-- The level that an environment asks for: by name, else by asking for everything. -/
def levelAsked (environment : List (String × String)) : Severity :=
  let name := String.ofList ((valueOf environment "LOG_LEVEL").toList.flatMap Text.upperAscii)
  match namedLevels.find? (·.1 == name) with
  | some (_, level) => level
  | none =>
    if debugWords.contains (Text.lower (valueOf environment "DEBUG")) then debug else info

end CiteSync.Log
