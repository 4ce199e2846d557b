import CiteSync.Zotero.Client

/-!
# Holdings

A library as it lies behind the web service: collections, the items at the top of each, and the
version that grows with every change.  It answers the calls of the service and keeps a journal of
them, and faults can be laid down for calls to come.
-/

namespace CiteSync.Zotero

open Remote

inductive Method
  | collections
  | everything
  | items
  | itemVersions
  | libraryVersion
  deriving DecidableEq, Repr

structure Holdings where
  collections : Json := .arr []
  /-- The items at the top of each collection, by its key. -/
  items : List (String × Json) := []
  /-- Answers about item versions that differ from what the items say. -/
  itemVersions : List (String × Json) := []
  version : Json := .int 100
  /-- Faults of calls to come; each call uses one place up. -/
  faults : List (Method × List (Option Failure)) := []
  /-- The calls so far, and the collections they were about. -/
  journal : List (Method × Option String) := []
  opened : List Connection := []
  deriving Inhabited

namespace Holdings

/-- Puts what is given in place of what the library holds. -/
def replaced (h : Holdings) (given : Json) : Holdings :=
  let under (name : String) (before : List (String × Json)) : List (String × Json) :=
    match given.member? name with
    | some (.obj members) => members
    | some _ => []
    | none => before
  { h with
    collections := (given.member? "collections").getD h.collections
    items := under "items" h.items
    itemVersions := under "versions" h.itemVersions
    version := (given.member? "library_version").getD h.version }

def nextFault (h : Holdings) (m : Method) : Option Failure :=
  match h.faults.find? (·.1 == m) with
  | some (_, first :: _) => first
  | _ => none

/-- Uses up the place of the next call. -/
def spendFault (h : Holdings) (m : Method) : List (Method × List (Option Failure)) :=
  h.faults.map fun f => if f.1 == m then (f.1, f.2.drop 1) else f

/-- A call that the holdings answer. -/
def answer (m : Method) (about : Option String) (value : Holdings → Json) : Call Holdings Json :=
  do
  let h ← get
  -- A call is in the journal, and its place used up, also when it fails.
  set { h with faults := h.spendFault m, journal := h.journal ++ [(m, about)] }
  match h.nextFault m with
  | some failure => throw failure
  | none => return value h

def itemsOf (h : Holdings) (key : String) : Json := (Json.lookup h.items key).getD (.arr [])

/-- The versions that items say of themselves, by their keys. -/
def versionsOf : Json → Json
  | .arr items => .obj (items.filterMap fun item =>
      match item.member? "key", item.member? "version" with
      | some (.str key), some version => some (key, version)
      | _, _ => none)
  | _ => .obj []

/-- Members with the last value of each name in the place of the first. -/
def distinctMembers (members : List (String × Json)) : List (String × Json) :=
  (members.map (·.1)).eraseDups.filterMap fun name =>
    (Json.lookup members name).map (name, ·)

def itemVersionsOf (h : Holdings) (key : String) : Json :=
  match Json.lookup h.itemVersions key with
  | some answer => answer
  | none =>
    match versionsOf (h.itemsOf key) with
    | .obj members => .obj (distinctMembers members)
    | v => v

/-- The web service in front of holdings. -/
def service : Service Holdings where
  connect connection h := { h with opened := h.opened ++ [connection] }
  collections := answer .collections none (·.collections)
  items key := answer .items (some key) (·.itemsOf key)
  itemVersions key := answer .itemVersions (some key) (·.itemVersionsOf key)
  everything page := answer .everything none fun _ => page
  libraryVersion := answer .libraryVersion none (·.version)

def silentWeb : KeyService.Web Holdings where
  send _ := Call.fault (.transport .connection "Connection refused")

def services : Services Holdings where
  library := service
  web := silentWeb

end Holdings

end CiteSync.Zotero
