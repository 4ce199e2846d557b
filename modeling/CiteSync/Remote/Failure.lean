import CiteSync.Library.Check
import CiteSync.Log.Record
import CiteSync.Text.Case
import CiteSync.Text.Quoted
import CiteSync.Text.Search

/-!
# Failures

What can go wrong in a call, as causes, and the words for each.  A call that is cancelled is not a
fault: nothing that handles faults sees it.
-/

namespace CiteSync.Remote

/-! ## Causes -/

inductive ServiceFault
  | general
  | connection
  | authentication
  | notFound
  | configuration
  | sessionClosed
  | rpc
  deriving DecidableEq, Repr

inductive TransportFault
  | connection
  | proxy
  | certificate
  /-- The time ran out before there was a connection. -/
  | connectTimeout
  | timeout
  /-- The time ran out before there was an answer. -/
  | readTimeout
  | badStatus
  | badBody
  | other (label : String)
  deriving DecidableEq, Repr

def TransportFault.isConnection : TransportFault → Bool
  | connection => true
  | proxy => true
  | certificate => true
  | connectTimeout => true
  | _ => false

def TransportFault.isTimeout : TransportFault → Bool
  | connectTimeout => true
  | timeout => true
  | readTimeout => true
  | _ => false

/-- A value has another shape than the one that is needed. -/
inductive ShapeFault
  | noMembers (found : String)
  | noElements (found : String)
  | notText (found : String)
  | notComparable (left right : String)
  | noIdentity (found : String)
  | noParts (found : String)
  | noNamedParts (found : String)
  deriving DecidableEq, Repr

inductive Fault
  | service (kind : ServiceFault) (message : String) (suggestion : Option String)
  | transport (kind : TransportFault) (message : String)
  | missingKey (key : String)
  | invalid (errors : List Library.FieldError)
  | shape (fault : ShapeFault)
  | noAttempts (task : String) (allowed : Int)
  /-- A fault raised elsewhere, under a label of its own. -/
  | foreign (label message : String)
  deriving DecidableEq, Repr

/-- How a call can end without a value. -/
inductive Failure
  | cancelled (note : String)
  | fault (cause : Fault)
  deriving DecidableEq, Repr

/-! ## Words -/

def shapeWord : Json → String
  | .null => "NoneType"
  | .bool _ => "bool"
  | .int _ => "int"
  | .float _ => "float"
  | .str _ => "str"
  | .arr _ => "list"
  | .obj _ => "dict"

def ShapeFault.message : ShapeFault → String
  | noMembers found => "'" ++ found ++ "' object has no attribute 'get'"
  | noElements found => "'" ++ found ++ "' object is not iterable"
  | notText found => "expected string or bytes-like object, got '" ++ found ++ "'"
  | notComparable left right =>
    "'>' not supported between instances of '" ++ left ++ "' and '" ++ right ++ "'"
  | noIdentity found => "unhashable type: '" ++ found ++ "'"
  | noParts found => "argument of type '" ++ found ++ "' is not iterable"
  | noNamedParts found => found ++ " indices must be integers"

/-- A fault in words; a suggestion follows what it is about. -/
def Fault.message : Fault → String
  | service _ message (some suggestion) =>
    if suggestion = "" then message else message ++ ". " ++ suggestion
  | service _ message none => message
  | transport _ message => message
  | missingKey key => Text.quoted key
  | invalid errors => toString errors.length ++ " invalid fields"
  | shape fault => fault.message
  | noAttempts task allowed => task ++ " failed after " ++ toString allowed ++ " retries"
  | foreign _ message => message

/-! ## Warnings for the reader of a document -/

def containsAny (s : String) (needles : List String) : Bool := needles.any (Text.contains s ·)

/-- The warning for a failed call, where the reader can do something about it. -/
def Fault.warning? (f : Fault) : Option String :=
  match f with
  | service .. => some f.message
  | _ =>
    let words := Text.lower f.message
    if containsAny words ["401", "unauthorized"] then
      some ("Zotero authentication failed. " ++
        "Please check that ZOTERO_API_KEY is correct and has library access.")
    else if containsAny words ["403", "forbidden"] then
      some ("Zotero denied access to the library. " ++
        "Please check the API key permissions.")
    else if containsAny words ["429", "rate limit"] then
      some "Zotero rate limit exceeded. Citations may be out of date."
    else if containsAny words ["connection", "timeout", "timed out"] then
      some ("Could not connect to Zotero. " ++
        "Please ensure Zotero is running and 'Allow other applications' is enabled.")
    else none

def Fault.record (f : Fault) (operation : String) : Log.Record :=
  ⟨.errors, Log.error, "Error in " ++ operation ++ ": " ++ f.message⟩

/-! ## Transient faults -/

def transientWords : List String :=
  ["timed out", "timeout", "503", "502", "504", "429", "connection", "temporary", "reset"]

/-- Whether another attempt may succeed. -/
def Fault.isTransient (f : Fault) : Bool := containsAny (Text.lower f.message) transientWords

end CiteSync.Remote
