import CiteSync.Command.Run
import CiteSync.Json.Reader
import CiteSync.Log.Level
import CiteSync.Settings
import CiteSync.Zotero.Holdings

/-!
# The program

Reads the holdings of a library as JSON from standard input and runs the command line on them.  The
settings come from the environment.
-/

namespace CiteSync

open Remote

def environmentNames : List String :=
  ["LOG_LEVEL", "DEBUG", "ZOTERO_LIBRARY_ID", "ZOTERO_LIBRARY_TYPE", "ZOTERO_API_KEY",
    "ZOTERO_LOCAL", "ZOTERO_USE_BETTER_BIBTEX", "ZOTERO_BETTER_BIBTEX_PORT",
    "ZOTERO_REQUEST_TIMEOUT", "ZOTERO_RETRY_ATTEMPTS", "ZOTERO_MAX_COMPLETIONS"]

def settingOf (settings : Settings) (level : Log.Severity) :
    Command.Setting (Zotero.World Zotero.Holdings) where
  library := settings.client.map fun client => client.library Zotero.Holdings.services
  standardLimit := settings.maxCompletions
  level := level

/-- Writes how the program ended; the number it ends with. -/
def writeEnding : Command.Ending → IO UInt32
  | .refused .help => do
    IO.print (Command.textOf Command.helpLines)
    return 0
  | .refused refusal => do
    IO.eprint (Command.textOf refusal.line?.toList)
    return 2
  | .finished output => do
    IO.print (Command.textOf output.lines)
    IO.eprint (Command.textOf output.notices)
    return UInt32.ofNat output.exit
  | .failed .endless => do
    IO.eprintln "The collections have no end."
    return 1
  | .failed (.call (.fault cause)) => do
    IO.eprintln cause.message
    return 1
  | .failed (.call (.cancelled _)) => return 130

/-- The whole program: the number it ends with. -/
def program (line : List String) : IO UInt32 := do
  let environment ← environmentNames.filterMapM fun name =>
    return (← IO.getEnv name).map fun value => (name, value)
  match Settings.ofEnvironment environment with
  | .error es =>
    IO.eprintln (Fault.invalid es).message
    return 1
  | .ok settings =>
    let text ← (← IO.getStdin).readToEnd
    let holdings := ({} : Zotero.Holdings).replaced ((Json.parse text).getD (.obj []))
    let setting := settingOf settings (Log.levelAsked environment)
    let (ending, _) := Command.run setting line { remote := holdings }
    writeEnding ending

end CiteSync

def main (line : List String) : IO UInt32 := CiteSync.program line
