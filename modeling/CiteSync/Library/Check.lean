import CiteSync.Library.Source
import CiteSync.Decimal.Binary
import CiteSync.Text.WholeNumber

/-!
# Checked records

Reads records from JSON objects.  A field may go by its own name or by a second one, and its own
name wins where both are there.  Every field is read, so that a faulty record is reported with all
its faults in the order of the fields.
-/

namespace CiteSync.Library

/-! ## Faults -/

inductive FieldFault
  | missing
  | notText
  | notWhole
  | unreadableWhole
  | overlongWhole
  | fractional
  | notFinite
  | notList
  | notRecord
  | notChoice
  | unreadableFlag
  | tooSmall
  deriving DecidableEq, Repr

/-- A fault and the path of names and positions that leads to it. -/
structure FieldError where
  path : List String
  fault : FieldFault
  deriving DecidableEq, Repr

/-- A value read, or every fault that was met. -/
def Check (α : Type) := Except (List FieldError) α

namespace Check

def pass {α : Type} (a : α) : Check α := .ok a

def fail {α : Type} (path : List String) (fault : FieldFault) : Check α := .error [⟨path, fault⟩]

/-- Reads one more field; the faults of both sides are kept. -/
def also {α β : Type} (f : Check (α → β)) (x : Check α) : Check β :=
  match f, x with
  | .ok f, .ok a => .ok (f a)
  | .ok _, .error e => .error e
  | .error e, .ok _ => .error e
  | .error e, .error e' => .error (e ++ e')

/-- Puts a step in front of every path. -/
def within {α : Type} (step : String) : Check α → Check α
  | .ok a => .ok a
  | .error es => .error (es.map fun e => { e with path := step :: e.path })

def each {α : Type} (read : Json → Check α) (start : Nat) : List Json → Check (List α)
  | [] => pass []
  | v :: rest => (also (.ok List.cons) ((read v).within (toString start))).also
      (each read (start + 1) rest)

end Check

/-! ## Values -/

def checkText : Json → Check String
  | .str s => .pass s
  | _ => .fail [] .notText

def checkOptional {α : Type} (read : Json → Check α) : Json → Check (Option α)
  | .null => .pass none
  | v => match read v with
    | .ok a => .pass (some a)
    | .error es => .error es

def checkList {α : Type} (read : Json → Check α) : Json → Check (List α)
  | .arr vs => Check.each read 0 vs
  | _ => .fail [] .notList

def longestWhole : Nat := 4300

def checkWholeText (s : String) : Check Int :=
  match Text.looseInt? s with
  -- The blanks around the digits count towards the length.
  | some n => if longestWhole < s.length then .fail [] .overlongWhole else .pass n
  | none => .fail [] .unreadableWhole

/-- A whole number, a number without a fraction, a flag as one or zero, or a text that holds a
whole number. -/
def checkWhole : Json → Check Int
  | .int n => .pass n
  | .bool b => .pass (if b then 1 else 0)
  | .float x =>
    match Decimal.read x with
    | .finite negative units exponent _ =>
      let num := Decimal.numerator units exponent
      let den := Decimal.denominator exponent
      if num % den == 0 then
        let n : Int := Int.ofNat (num / den)
        .pass (if negative then -n else n)
      else .fail [] .fractional
    | _ => .fail [] .notFinite
  | .str s => checkWholeText s
  | _ => .fail [] .notWhole

def checkFlagText (s : String) : Check Bool :=
  let word := String.ofList (s.toList.map Char.toLower)
  if ["1", "on", "t", "true", "y", "yes"].contains word then .pass true
  else if ["0", "off", "f", "false", "n", "no"].contains word then .pass false
  else .fail [] .unreadableFlag

/-! ## Fields -/

abbrev Members := List (String × Json)

/-- A field's value and the name it was given under. -/
def given? (ms : Members) (name second : String) : Option (String × Json) :=
  match Json.lookup ms name with
  | some v => some (name, v)
  | none => (Json.lookup ms second).map (second, ·)

def field {α : Type} (ms : Members) (name second : String) (read : Json → Check α) (standard : α) :
    Check α :=
  match given? ms name second with
  | some (used, v) => (read v).within used
  | none => .pass standard

def required {α : Type} (ms : Members) (name : String) (read : Json → Check α) : Check α :=
  match Json.lookup ms name with
  | some v => (read v).within name
  | none => .fail [name] .missing

/-- The members under names the record does not know. -/
def others (ms : Members) (known : List String) : Members :=
  ms.filter fun m => !known.contains m.1

def record {α : Type} (read : Members → Check α) : Json → Check α
  | .obj ms => read ms
  | _ => .fail [] .notRecord

/-! ## Records -/

def Creator.check : Json → Check Creator :=
  record fun ms =>
    (Check.pass Creator.mk)
      |>.also (field ms "creator_type" "creatorType" checkText "author")
      |>.also (field ms "given" "given" (checkOptional checkText) none)
      |>.also (field ms "family" "family" (checkOptional checkText) none)
      |>.also (field ms "literal" "literal" (checkOptional checkText) none)
      |>.also (.pass (others ms ["creator_type", "creatorType", "given", "family", "literal"]))

def Source.check : Json → Check Source :=
  record fun ms =>
    let text? := checkOptional checkText
    (Check.pass Source.mk)
      |>.also (field ms "id" "id" text? none)
      |>.also (field ms "key" "key" text? none)
      |>.also (field ms "type" "type" checkText "article")
      |>.also (field ms "title" "title" text? none)
      |>.also (field ms "creators" "creators" (checkList Creator.check) [])
      |>.also (field ms "year" "year" text? none)
      |>.also (field ms "doi" "DOI" text? none)
      |>.also (field ms "container_title" "containerTitle" text? none)
      |>.also (field ms "provider_key" "providerKey" text? none)
      |>.also (field ms "collection_keys" "collectionKeys" (checkList checkText) [])
      |>.also (.pass (others ms ["id", "key", "type", "title", "creators", "year", "doi", "DOI",
        "container_title", "containerTitle", "provider_key", "providerKey", "collection_keys",
        "collectionKeys"]))

def specNames : List String :=
  ["key", "name", "parent_key", "parentKey", "version", "item_count", "itemCount"]

/-- The declared fields of a collection shape, with the members given as unknown. -/
def Spec.checkWith (ms : Members) (extra : Members) : Check Spec :=
  (Check.pass Spec.mk)
    |>.also (required ms "key" checkText)
    |>.also (required ms "name" checkText)
    |>.also (field ms "parent_key" "parentKey" (checkOptional checkText) none)
    |>.also (field ms "version" "version" checkWhole 0)
    |>.also (field ms "item_count" "itemCount" (checkOptional checkWhole) none)
    |>.also (.pass extra)

def Spec.check : Json → Check Spec :=
  record fun ms => Spec.checkWith ms (others ms specNames)

def Collection.check : Json → Check Collection :=
  record fun ms =>
    (Check.pass Collection.mk)
      |>.also (Spec.checkWith ms (others ms ("items" :: specNames)))
      |>.also (field ms "items" "items" (checkOptional (checkList Source.check)) none)

def Listing.check : Json → Check Listing :=
  record fun ms =>
    (Check.pass Listing.mk)
      |>.also (required ms "key" checkText)
      |>.also (required ms "name" checkText)
      |>.also (field ms "parent_key" "parent_key" (checkOptional checkText) none)
      |>.also (required ms "provider" checkText)

end CiteSync.Library
