import CiteSync.Citation.Pinned
import CiteSync.Library.Check
import CiteSync.Remote.Failure
import CiteSync.Text.Word

/-!
# Records from the answers of the web service

The service sends collections and items as JSON objects whose data may sit one level deeper.  What
has not the shape that is needed is reported as a fault; nothing is made up.
-/

namespace CiteSync.Zotero

open Library Remote

/-! ## Looking into an answer -/

/-- The member of that name; only an object can be asked. -/
def ask (v : Json) (name : String) : Except Fault (Option Json) :=
  match v with
  | .obj members => .ok (Json.lookup members name)
  | _ => .error (.shape (.noMembers (shapeWord v)))

def askFilled (v : Json) (name : String) : Except Fault (Option Json) :=
  return (← ask v name).bind Json.filled?

/-- Where the data of a record is: in its own member, else in the record itself. -/
def dataOf (v : Json) : Except Fault Json :=
  return (← ask v "data").getD v

/-- The elements of a value; those of an object are its names, and those of a text its
characters. -/
def elements : Json → Except Fault (List Json)
  | .arr elems => .ok elems
  | .obj members => .ok (members.map fun m => .str m.1)
  | .str s => .ok (s.toList.map fun c => .str (String.singleton c))
  | v => .error (.shape (.noElements (shapeWord v)))

/-- A value that has to be a text; one that says nothing is the empty text. -/
def textOrEmpty (v : Option Json) : Except Fault String :=
  match v.bind Json.filled? with
  | none => .ok ""
  | some (.str s) => .ok s
  | some v => .error (.shape (.notText (shapeWord v)))

def checked {α : Type} : Check α → Except Fault α
  | .ok a => .ok a
  | .error es => .error (.invalid es)

def members (fields : List (String × Option Json)) : Json :=
  .obj (fields.filterMap fun f => f.2.map (f.1, ·))

/-! ## Collections -/

def collectionKey (outer data : Json) : Except Fault Json := do
  match ← askFilled data "key" with
  | some key => .ok key
  | none =>
    match ← ask outer "key" with
    | some key => .ok key
    | none => .error (.missingKey "key")

/-- The shape of a collection.  One at the top has false for its parent. -/
def readSpec (collection : Json) : Except Fault Spec := do
  let data ← dataOf collection
  let key ← collectionKey collection data
  let name ← ask data "name"
  let parent ← askFilled data "parentCollection"
  let version ← askFilled data "version"
  let outer ← if version.isSome then pure none else askFilled collection "version"
  checked (Spec.check (members [
    ("key", some key),
    ("name", some (name.getD (.str ""))),
    ("parent_key", some (parent.getD .null)),
    ("version", some ((version <|> outer).getD (.int 0)))]))

/-! ## Items -/

/-- The year of a date: its first word of four digits. -/
def year? (date : String) : Option String :=
  ((Text.splitOn (!Text.isWord ·) date.toList).find? fun word =>
    word.length == 4 && word.all Text.isDecimal).map String.ofList

/-- The fields that may hold what a work appeared in; the first that says something counts. -/
def containerFields : List String :=
  ["publicationTitle", "bookTitle", "proceedingsTitle", "encyclopediaTitle", "dictionaryTitle",
    "websiteTitle", "blogTitle"]

def readCreator (creator : Json) : Except Fault Creator := do
  let role ← ask creator "creatorType"
  let given ← ask creator "firstName"
  let family ← ask creator "lastName"
  let literal ← ask creator "name"
  checked (Creator.check (members [
    ("creator_type", some (role.getD (.str "author"))),
    ("given", given),
    ("family", family),
    ("literal", literal)]))

def container? (data : Json) : Except Fault (Option Json) := do
  let found ← containerFields.mapM (askFilled data)
  return found.findSome? id

/-- The citation key of an item: its own, else the one pinned in its notes. -/
def itemId? (data : Json) : Except Fault (Option Json) := do
  match ← askFilled data "citationKey" with
  | some key => .ok (some key)
  | none =>
    let notes ← textOrEmpty (← ask data "extra")
    return (Citation.pinnedKey? notes).map .str

def readSource (item : Json) (collectionKey : String) : Except Fault Source := do
  let data ← dataOf item
  -- The fields are asked for in this order, so the first fault in it is the one reported.
  let creators ← (← elements ((← ask data "creators").getD (.arr []))).mapM readCreator
  let year := year? (← textOrEmpty (← ask data "date"))
  let container ← container? data
  let id ← itemId? data
  let key ← askFilled data "key"
  let outer ← if key.isSome then pure none else ask item "key"
  let kind ← ask data "itemType"
  let title ← ask data "title"
  let doi ← askFilled data "DOI"
  let collections ← askFilled data "collections"
  let source ← checked (Source.check (members [
    ("id", id),
    ("key", key <|> outer),
    ("type", some (kind.getD (.str "document"))),
    ("title", title),
    ("doi", doi),
    ("container_title", container),
    ("collection_keys", some (collections.getD (.arr [.str collectionKey])))]))
  return { source with creators, year }

def uncitedKinds : List String := ["attachment", "note", "annotation"]

/-- Whether an item is citable, by the kind in its own data. -/
def isCitable (item : Json) : Except Fault Bool := do
  -- An item without data of its own is citable whatever it says beside them.
  let data := (← ask item "data").getD (.obj [])
  match ← ask data "itemType" with
  | some (.str kind) => .ok (!uncitedKinds.contains kind)
  | some (.arr _) => .error (.shape (.noIdentity "list"))
  | some (.obj _) => .error (.shape (.noIdentity "dict"))
  | _ => .ok true

end CiteSync.Zotero
