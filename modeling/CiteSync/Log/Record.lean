/-!
# Log records

What the library reports while it works: a severity, the part that speaks and a text.
-/

namespace CiteSync.Log

/-- How severe a record is; higher is worse. -/
abbrev Severity := Int

def debug : Severity := 10
def info : Severity := 20
def warning : Severity := 30
def error : Severity := 40
def critical : Severity := 50

def severityWord (severity : Severity) : String :=
  if severity = debug then "DEBUG"
  else if severity = info then "INFO"
  else if severity = warning then "WARNING"
  else if severity = error then "ERROR"
  else if severity = critical then "CRITICAL"
  else "Level " ++ toString severity

inductive Speaker
  | errors
  | retry
  | logging
  | client
  | sync
  | session
  | providers
  | orchestrator
  deriving DecidableEq, Repr

def Speaker.name : Speaker → String
  | errors => "zotero_cite.utils.errors"
  | retry => "zotero_cite.utils.retry"
  | logging => "zotero_cite.utils.logging_config"
  | client => "zotero_cite.clients.zotero_client"
  | sync => "zotero_cite.services.bibliography_sync"
  | session => "zotero_cite.services.session"
  | providers => "zotero_cite.completion.bibliography"
  | orchestrator => "zotero_cite.completion.orchestrator"

structure Record where
  speaker : Speaker
  severity : Severity
  text : String
  deriving DecidableEq, Repr

def Record.line (r : Record) : String := severityWord r.severity ++ ": " ++ r.text

/-- The text of a record as it is shown on a console. -/
def Record.consoleLine (r : Record) : String :=
  r.speaker.name ++ " " ++ severityWord r.severity ++ ": " ++ r.text

end CiteSync.Log
