/-!
# JSON values

The values a remote library, an RPC endpoint and a document exchange.  Objects keep the order of
their members, and whole numbers stay apart from the ones written with a fraction or an exponent.
-/

namespace CiteSync

inductive Json
  | null
  | bool (b : Bool)
  | int (n : Int)
  | float (x : Float)
  | str (s : String)
  | arr (elems : List Json)
  | obj (members : List (String × Json))
  deriving Inhabited

namespace Json

/-! ## Looking at a value -/

/-- The member of that name; the last one where a name repeats. -/
def lookup (members : List (String × Json)) (name : String) : Option Json :=
  (members.reverse.find? fun m => m.1 == name).map (·.2)

def member? : Json → String → Option Json
  | obj members, name => lookup members name
  | _, _ => none

def text? : Json → Option String
  | str s => some s
  | _ => none

/-- Whether a value says anything: null, false, zero and what is empty say nothing. -/
def isFilled : Json → Bool
  | null => false
  | bool b => b
  | int n => n != 0
  | float x => x != 0.0
  | str s => s != ""
  | arr elems => !elems.isEmpty
  | obj members => !members.isEmpty

def filled? (v : Json) : Option Json :=
  if v.isFilled then some v else none

end Json

end CiteSync
