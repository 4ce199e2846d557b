import CiteSync.Decimal.Shortest
import CiteSync.Json.Basic
import CiteSync.Text.Quoted
import CiteSync.Text.Search

/-!
# Values in messages

How a value is shown inside a message: a text on its own as it stands and inside a collection in
quotes.
-/

namespace CiteSync.Json

mutual

/-- A value inside a collection. -/
def shownInside : Json → String
  | null => "None"
  | bool b => if b then "True" else "False"
  | int n => toString n
  | float x => Decimal.plain.write x
  | str s => Text.quoted s
  | arr elems => "[" ++ Text.join ", " (shownElems elems) ++ "]"
  | obj members => "\x7b" ++ Text.join ", " (shownMembers members) ++ "\x7d"

def shownElems : List Json → List String
  | [] => []
  | v :: rest => shownInside v :: shownElems rest

def shownMembers : List (String × Json) → List String
  | [] => []
  | (k, v) :: rest => (Text.quoted k ++ ": " ++ shownInside v) :: shownMembers rest

end

def shown : Json → String
  | str s => s
  | v => shownInside v

end CiteSync.Json
