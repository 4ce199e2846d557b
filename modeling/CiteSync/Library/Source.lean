import CiteSync.Json.Basic

/-!
# Sources and collections

The records of a reference library: the people behind a work, the citable work, a collection's
shape, and a collection with its works.  Records carry the members they do not know along
unchanged.
-/

namespace CiteSync.Library

structure Creator where
  role : String := "author"
  given : Option String := none
  family : Option String := none
  /-- The whole name of an organisation or of someone with a single name. -/
  literal : Option String := none
  extra : List (String × Json) := []
  deriving Inhabited

structure Source where
  /-- The citation key. -/
  id : Option String := none
  /-- The key of the item in the library. -/
  key : Option String := none
  kind : String := "article"
  title : Option String := none
  creators : List Creator := []
  year : Option String := none
  doi : Option String := none
  /-- The journal, book or proceedings the work appeared in. -/
  container : Option String := none
  /-- The bibliography provider the work came from. -/
  provider : Option String := none
  /-- The keys of every collection the work belongs to. -/
  collectionKeys : List String := []
  extra : List (String × Json) := []
  deriving Inhabited

/-- The shape of a collection: identity, name, parent and version. -/
structure Spec where
  key : String
  name : String
  parentKey : Option String := none
  /-- Changes whenever the contents change. -/
  version : Int := 0
  /-- How many items the remote counted in the collection. -/
  itemCount : Option Int := none
  extra : List (String × Json) := []
  deriving Inhabited

/-- A collection with its works; without them when the remote sent only the shape. -/
structure Collection extends Spec where
  items : Option (List Source) := none
  deriving Inhabited

/-- A collection as it is listed to the reader of a document. -/
structure Listing where
  key : String
  name : String
  parentKey : Option String := none
  provider : String

/-! ## Views -/

def filled? (s : Option String) : Option String :=
  s.filter (· ≠ "")

/-- The works of a collection, none if only its shape is there. -/
def Collection.works (c : Collection) : List Source := c.items.getD []

def Collection.spec (c : Collection) : Spec where
  key := c.key
  name := c.name
  parentKey := c.parentKey
  version := c.version
  itemCount := c.itemCount

/-- The name a creator is known by: the family name, else the whole name, if not empty. -/
def Creator.shownName? (c : Creator) : Option String :=
  filled? c.family <|> filled? c.literal

/-- The creators of a work in a line: up to three names, the last after "and"; the first and
"et al." where there are more.  Nameless creators are left out. -/
def creatorLine (creators : List Creator) : String :=
  match creators.filterMap Creator.shownName? with
  | [] => ""
  | [a] => a
  | [a, b] => a ++ " and " ++ b
  | [a, b, c] => a ++ ", " ++ b ++ " and " ++ c
  | a :: _ => a ++ " et al."

end CiteSync.Library
