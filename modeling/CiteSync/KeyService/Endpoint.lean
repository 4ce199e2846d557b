import CiteSync.Json.Shown
import CiteSync.Remote.Call
import CiteSync.Remote.Library

/-!
# The citation key service

A reference manager can run a service beside it that knows citation keys and exports works.  It is
asked by remote procedure calls in JSON.
-/

namespace CiteSync.KeyService

open Remote

/-! ## The web -/

/-- What comes back from a web server. -/
inductive Body
  | json (v : Json)
  | text (s : String)
  /-- Something that is not the JSON it should be. -/
  | broken
  /-- A status that means failure, in words. -/
  | refused (status : String)

inductive Request
  | post (url : String) (body : Json) (timeout : Int)
  | get (url : String) (timeout : Int)

/-- A web whose state is a `σ`. -/
structure Web (σ : Type) where
  send : Request → Call σ Body

/-! ## The service -/

/-- Where the service is and how long it is waited for, in seconds. -/
structure Endpoint where
  port : Int := 23119
  timeout : Int := 30
  deriving DecidableEq, Repr

def Endpoint.address (e : Endpoint) : String := "http://127.0.0.1:" ++ toString e.port

def Endpoint.rpcUrl (e : Endpoint) : String := e.address ++ "/better-bibtex/json-rpc"

def Endpoint.probeUrl (e : Endpoint) : String := e.address ++ "/better-bibtex/cayw?probe=true"

def probeTimeout : Int := 5

/-- A fault of the transport as the service reports it. -/
def transportFault : Fault → Fault
  | .transport kind message =>
    if kind.isConnection then
      .service .connection "Cannot connect to Zotero"
        (some "Is Zotero running with Better BibTeX installed?")
    else if kind.isTimeout then .service .connection "Better BibTeX request timed out" none
    else .transport kind message
  | cause => cause

def Body.json? : Body → Except Fault Json
  | json v => .ok v
  | text _ => .error (.transport .badBody "Expecting value: line 1 column 1 (char 0)")
  | broken => .error (.transport .badBody "Expecting value: line 1 column 1 (char 0)")
  | refused status => .error (.transport .badStatus status)

def rpcFault : Json → Fault
  | .obj members =>
    let message := ((Json.lookup members "message").map Json.shown).getD "Unknown error"
    let detail := (Json.lookup members "data").getD (.str "")
    .service .rpc ("RPC error: " ++
      (if detail.isFilled then message ++ ": " ++ detail.shown else message)) none
  | v => .shape (.noMembers (shapeWord v))

/-- The result in an answer.  An error counts before a result. -/
def rpcResult : Json → Except Fault Json
  | .obj members =>
    match Json.lookup members "error" with
    | some error => .error (rpcFault error)
    | none => .ok ((Json.lookup members "result").getD .null)
  -- A list or a text can be searched for an error like an object, but not asked for one.
  | .arr elems =>
    .error (.shape (if elems.any (·.text? == some "error") then .noNamedParts "list"
      else .noMembers "list"))
  | .str s =>
    .error (.shape (if Text.contains s "error" then .noNamedParts "string" else .noMembers "str"))
  | v => .error (.shape (.noParts (shapeWord v)))

def Endpoint.request (e : Endpoint) (method : String) (params : List Json) : Request :=
  .post e.rpcUrl (.obj [("jsonrpc", .str "2.0"), ("method", .str method), ("params", .arr params),
    ("id", .int 1)]) e.timeout

def ask {σ : Type} (web : Web σ) (e : Endpoint) (method : String) (params : List Json) :
    Call σ Json := do
  match ← (do Call.ofResult (← web.send (e.request method params)).json?).caught with
  -- Only what the transport says is put in other words, not what the service answers.
  | .ok answer => Call.ofResult (rpcResult answer)
  | .error cause => Call.fault (transportFault cause)

def isAvailable {σ : Type} (web : Web σ) (e : Endpoint) : Call σ Bool := do
  match ← (web.send (.get e.probeUrl probeTimeout)).caught with
  | .ok (.text s) => return s == "ready"
  | .ok _ => return false
  | .error (.transport ..) => return false
  | .error cause => Call.fault cause

/-! ## Citation keys -/

def qualifiedKey (library : Int) (itemKey : String) : String := toString library ++ ":" ++ itemKey

/-- The citation key that an answer gives an item, under its qualified key or else under its own. -/
def answeredKey? (members : List (String × Json)) (library : Int) (itemKey : String) :
    Option Json :=
  ((Json.lookup members (qualifiedKey library itemKey)).bind Json.filled?) <|>
    ((Json.lookup members itemKey).bind Json.filled?)

def answeredKeys (library : Int) (itemKeys : List String) (answer : Json) :
    Except Fault (List (String × Json)) :=
  match answer.filled? with
  | none => .ok []
  | some (.obj members) =>
    .ok (itemKeys.filterMap fun key => (answeredKey? members library key).map (key, ·))
  | some v => .error (.shape (.noMembers (shapeWord v)))

def citationKeys {σ : Type} (web : Web σ) (e : Endpoint) (itemKeys : List String) (library : Int) :
    Call σ (List (String × Json)) := do
  if itemKeys.isEmpty then return []
  let qualified := itemKeys.map fun key => Json.str (qualifiedKey library key)
  Call.ofResult (answeredKeys library itemKeys
    (← ask web e "item.citationkey" [.arr qualified]))

/-! ## Export -/

/-- The text of an exported answer: the text itself, the last of three parts, the only part. -/
def exportedText : Json → String
  | .str s => s
  | .arr (_ :: _ :: body :: _) => body.shown
  | .arr (first :: _) => if first.isFilled then first.shown else ""
  | v => if v.isFilled then v.shown else ""

def exportText {σ : Type} (web : Web σ) (e : Endpoint) (citationKeys : List String)
    (format : String) (library : Int) : Call σ String :=
  return exportedText (← ask web e "item.export"
    [.arr (citationKeys.map .str), .str format, .int library])

end CiteSync.KeyService
