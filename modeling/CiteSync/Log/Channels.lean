import CiteSync.Log.Level
import CiteSync.Text.Blank
import CiteSync.Text.Search

/-!
# Channels

Where records go.  A channel has a name with dots, a level and outlets.  A channel that was set up
speaks for itself; any other takes the level of the nearest one around it that has one, and hands
its records to the outlets of the nearest one that was set up.
-/

namespace CiteSync.Log

inductive OutletKind
  | console
  | file
  deriving DecidableEq, Repr

def OutletKind.layout : OutletKind → String
  | console => "%(name)s %(levelname)s: %(message)s"
  | file => "%(asctime)s - %(name)s - %(levelname)s - %(funcName)s:%(lineno)d - %(message)s"

/-- A place that records above a level are written to. -/
structure Outlet where
  kind : OutletKind
  level : Severity
  deriving DecidableEq, Repr

structure Channel where
  name : String
  level : Severity
  outlets : List Outlet
  deriving Repr

structure Channels where
  asked : Severity
  /-- Channels whose level was set by someone else. -/
  preset : List (String × Severity) := []
  channels : List Channel := []

namespace Channels

def libraryName : String := "zotero_cite"

/-- The level of a channel that no one set. -/
def outerLevel : Severity := warning

def find? (c : Channels) (name : String) : Option Channel := c.channels.find? (·.name == name)

/-- Sets a channel up, unless that was done before.  A level of zero counts as none. -/
def setUp (c : Channels) (name : String) (level : Option Severity) (console file : Bool) :
    Channels :=
  if (c.find? name).isSome then c
  else
    let level := (level.filter (· ≠ 0)).getD c.asked
    let outlets := (if console then [⟨.console, level⟩] else []) ++
      (if file then [⟨.file, level⟩] else [])
    { c with channels := c.channels ++ [⟨name, level, outlets⟩] }

def showAll (c : Channels) : Channels :=
  { c with channels := c.channels.map fun ch =>
      { ch with level := debug, outlets := ch.outlets.map fun o => { o with level := debug } } }

/-- The level that was set for a channel itself. -/
def ownLevel (c : Channels) (name : String) : Severity :=
  match c.find? name with
  | some channel => channel.level
  | none => ((c.preset.find? (·.1 == name)).map (·.2)).getD 0

/-- The names of the channels around a channel, itself first. -/
def around (name : String) : List String :=
  let parts := Text.splitOn (· == '.') name.toList
  ((List.range parts.length).map fun n =>
    Text.join "." ((parts.take (parts.length - n)).map String.ofList))

def levelOf (c : Channels) (name : String) : Severity :=
  (((around name).map c.ownLevel).find? (· ≠ 0)).getD outerLevel

/-- The outlets that the records of a channel reach, if a channel around it was set up. -/
def outletsOf (c : Channels) (name : String) : List Outlet :=
  (((around name).findSome? c.find?).map (·.outlets)).getD []

/-- What a record writes to the console.  Where no outlet is to be found, a warning or worse is
written without its name. -/
def written (c : Channels) (name : String) (severity : Severity) (text : String) : List String :=
  if severity < c.levelOf name then []
  else
    match c.outletsOf name with
    | [] => if warning ≤ severity then [text] else []
    | outlets =>
      (outlets.filter fun o => o.kind == .console && o.level ≤ severity).map fun _ =>
        name ++ " " ++ severityWord severity ++ ": " ++ text

def setUpLibrary (c : Channels) (file : Bool) : Channels × List String :=
  let c := c.setUp libraryName none true file
  (c, c.written libraryName debug
    ("Logging initialized. Level: " ++ severityWord (c.ownLevel libraryName)))

def names (c : Channels) : List String :=
  (c.channels.map (·.name)).mergeSort fun a b => decide (a ≤ b)

end Channels

end CiteSync.Log
