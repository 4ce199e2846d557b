import CiteSync.Library.Reply

/-!
# Records as JSON

Every declared field of a record under its own name, then the members it carried along.
-/

namespace CiteSync.Library

def ofText? : Option String → Json
  | some s => .str s
  | none => .null

def ofInt? : Option Int → Json
  | some n => .int n
  | none => .null

def ofTexts (ss : List String) : Json := .arr (ss.map .str)

def Creator.toJson (c : Creator) : Json :=
  .obj ([("creator_type", .str c.role), ("given", ofText? c.given), ("family", ofText? c.family),
    ("literal", ofText? c.literal)] ++ c.extra)

def Source.toJson (s : Source) : Json :=
  .obj ([("id", ofText? s.id), ("key", ofText? s.key), ("type", .str s.kind),
    ("title", ofText? s.title), ("creators", .arr (s.creators.map Creator.toJson)),
    ("year", ofText? s.year), ("doi", ofText? s.doi), ("container_title", ofText? s.container),
    ("provider_key", ofText? s.provider), ("collection_keys", ofTexts s.collectionKeys)] ++ s.extra)

/-- The declared fields of a collection shape. -/
def Spec.fields (s : Spec) : List (String × Json) :=
  [("key", .str s.key), ("name", .str s.name), ("parent_key", ofText? s.parentKey),
    ("version", .int s.version), ("item_count", ofInt? s.itemCount)]

def Spec.toJson (s : Spec) : Json := .obj (s.fields ++ s.extra)

def Collection.toJson (c : Collection) : Json :=
  let items := match c.items with
    | some sources => Json.arr (sources.map Source.toJson)
    | none => .null
  .obj (c.fields ++ ("items", items) :: c.extra)

def Listing.toJson (l : Listing) : Json :=
  .obj [("key", .str l.key), ("name", .str l.name), ("parent_key", ofText? l.parentKey),
    ("provider", .str l.provider)]

def Reply.toJson {α : Type} (write : α → Json) (r : Reply α) : Json :=
  .obj [("status", .str (statusWord r.ok)), ("message", (r.message.map write).getD .null),
    ("warning", ofText? r.warning), ("error", ofText? r.error)]

end CiteSync.Library
