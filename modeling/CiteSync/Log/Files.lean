import CiteSync.Log.Record
import CiteSync.Text.Search

/-!
# Log files

One file a day, each kept for three days.
-/

namespace CiteSync.Log

/-- How old a log file may get, in seconds. -/
def retention : Float := 259200

/-- A file in the directory of the logs and its age in seconds. -/
structure LogFile where
  name : String
  age : Float

def fileStart : String := "zotero-cite-"

def fileEnd : String := ".log"

def fileName (day : String) : String := fileStart ++ day ++ fileEnd

def LogFile.isLog (f : LogFile) : Bool :=
  let cs := f.name.toList
  fileStart.length + fileEnd.length ≤ cs.length && Text.startsWith f.name fileStart &&
    fileEnd.toList.reverse.isPrefixOf cs.reverse

def LogFile.isExpired (f : LogFile) : Bool := f.isLog && retention < f.age

/-- The files that are kept and the ones that are removed. -/
def cleanUp (files : List LogFile) : List LogFile × List LogFile :=
  files.partition fun f => !f.isExpired

def removalRecord (directory : String) (f : LogFile) : Record :=
  ⟨.logging, info, "Removed old log file: " ++ directory ++ "/" ++ f.name⟩

end CiteSync.Log
