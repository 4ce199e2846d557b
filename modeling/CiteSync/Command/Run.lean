import CiteSync.Command.Invocation
import CiteSync.Completion.Line
import CiteSync.Completion.Panel.Operations
import CiteSync.Library.Outline
import CiteSync.Log.Channels

/-!
# Running the program

What the program writes for a command line.  A task is a session of its own: it is opened, brought
up to date, shown and closed.
-/

namespace CiteSync.Command

open Library Remote Completion

variable {σ : Type}

/-! ## Output -/

/-- What a program writes, and the number it ends with. -/
structure Output where
  exit : Nat := 0
  lines : List String := []
  /-- The lines beside them. -/
  notices : List String := []
  deriving DecidableEq, Repr

def textOf (lines : List String) : String := String.join (lines.map (· ++ "\n"))

/-- What the program works with: the library, if it can be reached, and the settings of the
environment. -/
structure Setting (σ : Type) where
  library : Except Fault (RemoteLibrary σ)
  standardLimit : Int
  level : Log.Severity

/-- Where the program's records go, and the lines that setting them up writes. -/
def channels (level : Log.Severity) (debug : Bool) : Log.Channels × List String :=
  let (c, lines) := ({ asked := level : Log.Channels }).setUpLibrary false
  (if debug then c.showAll else c, lines)

def recordLines (c : Log.Channels) (records : List Log.Record) : List String :=
  records.flatMap fun r => c.written r.speaker.name r.severity r.text

def warningLines (warning : Option String) : List String :=
  ((filled? warning).map ("Warning: " ++ ·)).toList

/-! ## Tasks -/

def documentPath : String := "<cli>"

/-- The document of a task that starts from collections. -/
def documentFor (roots : List String) : Document where
  path := some documentPath
  blocks := if roots.isEmpty then [] else [FrontMatter.writeBlock roots]

inductive Trouble
  | call (failure : Failure)
  /-- The collections go deeper and deeper. -/
  | endless
  deriving DecidableEq, Repr

def treeLines (s : Session) : Except Trouble (List String) :=
  if hasOutline s.specs then
    .ok ((outline s.specs).map fun r => r.line (s.worksIn (some r.spec.key)).length)
  else .error .endless

def collectionLines (s : Session) : Except Trouble (List String) :=
  if s.isActive then treeLines s else .ok ["No Zotero collections available."]

structure Done where
  lines : List String
  records : List Log.Record
  warning : Option String
  session : Session

def showCollections (library : RemoteLibrary σ) (roots : List String) (remote : σ) :
    Except Trouble Done × σ :=
  let opened := Session.opened (some documentPath)
  let (loaded, remote) := opened.load library (documentFor roots) none 0 remote
  let s := loaded.session
  (match loaded.result with
    | .error failure => .error (.call failure)
    | .ok _ => (collectionLines s).map fun lines => ⟨lines, loaded.records, s.warning, s⟩, remote)

def completionLine (c : Candidate) : String :=
  "@" ++ c.id ++ "\t" ++ c.line 40 ++ "\t" ++ c.detail

/-- The session and the library of a panel that has a bibliography. -/
def bibliography? (p : Panel σ) : Option (Bibliography σ) :=
  p.providers.findSome? fun q => match q with
    | .bibliography b => some b
    | _ => none

/-- Shows completions.  A limit of zero shows none, but does not limit the search. -/
def showCompletions (library : RemoteLibrary σ) (standardLimit : Int) (token : String)
    (roots : List String) (limit : Int) (remote : σ) : Except Trouble Done × σ :=
  let opened := Session.opened (some documentPath)
  let provider : Provider σ := .bibliography { session := opened, remote }
  let p := Panel.ofProviders [provider] (some (if limit = 0 then standardLimit else limit))
  let p := (p.ask token (documentFor roots)).settle library
  let found := ((p.shown? 0).map Query.items).getD []
  let (found, p) := p.narrowList found token
  let done (found : List Candidate) : Done :=
    ⟨(firstOf limit found).map completionLine, p.records, p.warning?,
      ((bibliography? p).map Bibliography.session).getD opened⟩
  ((found.map done).mapError .call, ((bibliography? p).map Bibliography.remote).getD remote)

def Task.run (library : RemoteLibrary σ) (standardLimit : Int) (remote : σ) :
    Task → Except Trouble Done × σ
  | collections roots => showCollections library roots remote
  | complete token roots limit => showCompletions library standardLimit token roots limit remote

/-! ## The program -/

def closingRecords (s : Session) : List Log.Record := if s.closed then [] else [s.closedRecord]

def Done.output (d : Done) (c : Log.Channels) (before : List String) : Output where
  lines := d.lines
  notices := before ++
    recordLines c ((Session.opened (some documentPath)).openedRecord :: d.records) ++
    warningLines d.warning ++ recordLines c (closingRecords d.session)

def Invocation.run (i : Invocation) (setting : Setting σ) (remote : σ) :
    Except Trouble Output × σ :=
  let (c, before) := channels setting.level i.debug
  match i.task, setting.library with
  | none, _ => (.ok { exit := 1, lines := helpLines, notices := before }, remote)
  | some _, .error cause =>
    (.ok { exit := 2, notices := before ++ ["Error: " ++ cause.message] }, remote)
  | some task, .ok library =>
    let (done, remote) := task.run library setting.standardLimit remote
    (done.map (·.output c before), remote)

inductive Ending
  | refused (refusal : Refusal)
  | finished (output : Output)
  | failed (trouble : Trouble)

def run (setting : Setting σ) (line : List String) (remote : σ) : Ending × σ :=
  match Invocation.read setting.standardLimit line with
  | .error refusal => (.refused refusal, remote)
  | .ok i =>
    match i.run setting remote with
    | (.ok output, remote) => (.finished output, remote)
    | (.error trouble, remote) => (.failed trouble, remote)

end CiteSync.Command
