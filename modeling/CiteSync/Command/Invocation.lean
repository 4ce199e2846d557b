import CiteSync.Command.Arguments
import CiteSync.Text.WholeNumber

/-!
# The commands of the program

What the program can be asked on its command line: to show the collections of a library, or the
completions of a token.
-/

namespace CiteSync.Command

inductive Task
  /-- Show the collections of those names and all below them, of the whole library without names. -/
  | collections (roots : List String)
  | complete (token : String) (roots : List String) (limit : Int)
  deriving DecidableEq, Repr

def Task.roots : Task → List String
  | collections roots => roots
  | complete _ roots _ => roots

structure Invocation where
  debug : Bool
  task : Option Task
  deriving DecidableEq, Repr

/-! ## Grammars -/

def programName : String := "zotero-cite"

def helpOption : OptionRule := { names := [Grammar.helpName, "--help"] }

def debugOption : OptionRule := { names := ["--debug"] }

/-- May be given again and again. -/
def collectionOption : OptionRule := { names := ["--collection"], takesValue := true }

def limitObjection? (value : String) : Option String :=
  if (Text.scriptInt? value).isSome then none
  else some ("invalid int value: " ++ Text.quoted value)

def limitOption : OptionRule :=
  { names := ["--limit"], takesValue := true, objection? := limitObjection? }

def collectionsWord : String := "collections"

def completeWord : String := "complete"

/-- What stands in front of a task. -/
def programGrammar : Grammar where
  program := programName
  options := [helpOption, debugOption]
  operand := .choice "command" [collectionsWord, completeWord]

def collectionsGrammar : Grammar where
  program := programName ++ " " ++ collectionsWord
  options := [helpOption, collectionOption]
  operand := .none

def completeGrammar : Grammar where
  program := programName ++ " " ++ completeWord
  options := [helpOption, collectionOption, limitOption]
  operand := .word "token"

/-! ## Reading -/

/-- A task, and the words that have no place in it. -/
def readTask (standardLimit : Int) (word : String) (line : List String) :
    Except Refusal (Task × List String) :=
  if word == completeWord then do
    let r ← completeGrammar.read line
    let token := (r.operand.getD []).headD ""
    let limit := ((r.all "--limit").getLast?.bind Text.scriptInt?).getD standardLimit
    return (.complete token (r.all "--collection") limit, r.extras)
  else do
    let r ← collectionsGrammar.read line
    return (.collections (r.all "--collection"), r.extras)

/-- A command line.  The words behind the one that names a task belong to the task. -/
def Invocation.read (standardLimit : Int) (line : List String) : Except Refusal Invocation := do
  let r ← programGrammar.read line
  let (task, extras) ← match r.operand with
    | some (word :: rest) => do
      let (task, extras) ← readTask standardLimit word rest
      pure (some task, r.extras ++ extras)
    | _ => pure (none, r.extras)
  if extras.isEmpty then return ⟨!(r.all "--debug").isEmpty, task⟩
  else throw (programGrammar.refuse ("unrecognized arguments: " ++ Text.join " " extras))

/-! ## Help -/

def helpLines : List String := [
  "usage: zotero-cite [-h] [--debug] \x7bcollections,complete\x7d ...",
  "",
  "Inspect Zotero collections and citation completions",
  "",
  "positional arguments:",
  "  \x7bcollections,complete\x7d",
  "                        Command to run",
  "    collections         Sync and print the collection tree",
  "    complete            Print citation completions for a token",
  "",
  "options:",
  "  -h, --help            show this help message and exit",
  "  --debug               Enable debug logging"]

end CiteSync.Command
