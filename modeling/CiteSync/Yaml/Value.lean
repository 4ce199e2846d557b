import CiteSync.Decimal.Shortest
import CiteSync.Text.Quoted
import CiteSync.Text.Search

/-!
# YAML values

What a document says once its tags are applied, and how a value is shown in one line of text.
-/

namespace CiteSync.Yaml

structure Date where
  year : Nat
  month : Nat
  day : Nat
  deriving DecidableEq, Repr

/-- A time of a day, down to millionths of a second, with its distance from universal time in
seconds if that is known. -/
structure Moment where
  date : Date
  hour : Nat
  minute : Nat
  second : Nat
  micro : Nat
  offset : Option Int
  deriving DecidableEq, Repr

inductive Value
  | null
  | bool (b : Bool)
  | int (n : Int)
  | float (x : Float)
  | str (s : String)
  | bytes (bs : List UInt8)
  | date (d : Date)
  | moment (m : Moment)
  | list (vs : List Value)
  | pair (k v : Value)
  | map (entries : List (Value × Value))
  | set (vs : List Value)
  /-- The collection that many levels around this place, zero for the one it is in. -/
  | loop (levels : Nat)
  deriving Inhabited

/-! ## Dates in words -/

def twoDigits (n : Nat) : String := Decimal.padLeft 2 (toString n)

def Date.text (d : Date) : String :=
  Decimal.padLeft 4 (toString d.year) ++ "-" ++ twoDigits d.month ++ "-" ++ twoDigits d.day

def offsetText (seconds : Int) : String :=
  let minutes := seconds.natAbs / 60
  (if seconds < 0 then "-" else "+") ++ twoDigits (minutes / 60) ++ ":" ++ twoDigits (minutes % 60)

def Moment.text (m : Moment) : String :=
  m.date.text ++ " " ++ twoDigits m.hour ++ ":" ++ twoDigits m.minute ++ ":" ++
    twoDigits m.second ++
    (if m.micro == 0 then "" else "." ++ Decimal.padLeft 6 (toString m.micro)) ++
    (m.offset.map offsetText).getD ""

def callText (name : String) (parts : List String) : String :=
  name ++ "(" ++ Text.join ", " parts ++ ")"

def spanText (seconds : Int) : String :=
  let days := Int.fdiv seconds 86400
  let rest := Int.fmod seconds 86400
  let parts := (if days == 0 then [] else ["days=" ++ toString days]) ++
    (if rest == 0 then [] else ["seconds=" ++ toString rest])
  callText "datetime.timedelta" (if parts.isEmpty then ["0"] else parts)

def Date.parts (d : Date) : List String := [d.year, d.month, d.day].map toString

def Moment.parts (m : Moment) : List String :=
  m.date.parts ++ [m.hour, m.minute].map toString ++
    (if m.second == 0 && m.micro == 0 then [] else [toString m.second]) ++
    (if m.micro == 0 then [] else [toString m.micro]) ++
    match m.offset with
    | none => []
    | some 0 => ["tzinfo=datetime.timezone.utc"]
    | some seconds => ["tzinfo=" ++ callText "datetime.timezone" [spanText seconds]]

/-! ## Values in words -/

def quoteByte (mark : Char) (b : UInt8) : List Char :=
  let c := Char.ofNat b.toNat
  if c == mark || c == '\\' then ['\\', c]
  else if c == '\n' then ['\\', 'n']
  else if c == '\r' then ['\\', 'r']
  else if c == '\t' then ['\\', 't']
  else if 32 ≤ b.toNat && b.toNat < 127 then [c]
  else '\\' :: 'x' :: Text.hexDigits 2 b.toNat

def bytesText (bs : List UInt8) : String :=
  let mark := Text.quoteMark (bs.map fun b => Char.ofNat b.toNat)
  String.ofList ('b' :: mark :: bs.flatMap (quoteByte mark) ++ [mark])

def boolText (b : Bool) : String := if b then "True" else "False"

/-- What stands for a collection inside itself. -/
def loopText : Value → String
  | .map _ => "\x7b...\x7d"
  | _ => "[...]"

mutual

/-- A value inside another one; `around` are the collections it is in, innermost first. -/
def Value.inner (around : List Value) : Value → String
  | .null => "None"
  | .bool b => boolText b
  | .int n => toString n
  | .float x => Decimal.plain.write x
  | .str s => Text.quoted s
  | .bytes bs => bytesText bs
  | .date d => callText "datetime.date" d.parts
  | .moment m => callText "datetime.datetime" m.parts
  | .list vs => "[" ++ Text.join ", " (innerEach (.list vs :: around) vs) ++ "]"
  | .pair k v => "(" ++ k.inner around ++ ", " ++ v.inner around ++ ")"
  | .map entries =>
    "\x7b" ++ Text.join ", " (innerEntries (.map entries :: around) entries) ++ "\x7d"
  | .set [] => "set()"
  | .set vs => "\x7b" ++ Text.join ", " (innerEach around vs) ++ "\x7d"
  | .loop levels => loopText ((around[levels]?).getD (.list []))

def innerEach (around : List Value) : List Value → List String
  | [] => []
  | v :: rest => v.inner around :: innerEach around rest

def innerEntries (around : List Value) : List (Value × Value) → List String
  | [] => []
  | (k, v) :: rest => (k.inner around ++ ": " ++ v.inner around) :: innerEntries around rest

end

/-- A value on its own: a text as it stands, a date in figures, everything else as inside another
value. -/
def Value.text : Value → String
  | .str s => s
  | .date d => d.text
  | .moment m => m.text
  | v => v.inner []

/-- An element of a list, on its own.  An element that is the list itself shows it once more. -/
def elementText (vs : List Value) : Value → String
  | .loop 0 => (Value.list vs).inner []
  | v => v.text

def elementTexts (vs : List Value) : List String := vs.map (elementText vs)

def Value.present? : Value → Option Value
  | .null => none
  | v => some v

/-! ## Keys -/

/-- A whole value of a number or flag, if it has one. -/
def Value.whole? : Value → Option Int
  | .bool b => some (if b then 1 else 0)
  | .int n => some n
  | .float x =>
    match Decimal.read x with
    | .finite negative units exponent _ =>
      let num := Decimal.numerator units exponent
      let den := Decimal.denominator exponent
      if num % den == 0 then
        let n : Int := Int.ofNat (num / den)
        some (if negative then -n else n)
      else none
    | _ => none
  | _ => none

/-- Seconds since the start of the calendar, in universal time where the distance is known. -/
def Moment.instant (m : Moment) : Int :=
  let y := m.date.year - 1
  let cumulative := [0, 31, 59, 90, 120, 151, 181, 212, 243, 273, 304, 334]
  let leap := m.date.year % 4 == 0 && (m.date.year % 100 != 0 || m.date.year % 400 == 0)
  let days := y * 365 + y / 4 - y / 100 + y / 400 + cumulative.getD (m.date.month - 1) 0 +
    (if leap && 2 < m.date.month then 1 else 0) + m.date.day
  let clock := (days * 24 + m.hour) * 3600 + m.minute * 60 + m.second
  (clock : Int) - m.offset.getD 0

/-- Whether two values are one key.  Numbers and flags of one value are, however they are
written. -/
def Value.sameKey (a b : Value) : Bool :=
  match a.whole?, b.whole? with
  | some m, some n => m == n
  | none, none =>
    match a, b with
    | .null, .null => true
    | .float x, .float y => x == y || (x != x && y != y)
    | .str s, .str t => s == t
    | .bytes s, .bytes t => s == t
    | .date d, .date e => d == e
    | .moment m, .moment n =>
      m.offset.isSome == n.offset.isSome && m.instant == n.instant && m.micro == n.micro
    | _, _ => false
  | _, _ => false

def Value.lookup? (entries : List (Value × Value)) (key : Value) : Option Value :=
  (entries.find? fun e => e.1.sameKey key).map (·.2)

/-- The value under a name, if this is a mapping that has one; null counts as none. -/
def Value.entry? : Value → String → Option Value
  | .map entries, name => (lookup? entries (.str name)).bind present?
  | _, _ => none

/-- Puts a value under a key.  A key that is there already keeps its place and takes the value. -/
def Value.insert : List (Value × Value) → Value → Value → List (Value × Value)
  | [], key, v => [(key, v)]
  | (k, old) :: rest, key, v =>
    if k.sameKey key then (k, v) :: rest else (k, old) :: Value.insert rest key v

end CiteSync.Yaml
