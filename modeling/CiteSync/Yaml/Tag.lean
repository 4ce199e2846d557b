import CiteSync.Yaml.Token

/-!
# Tags and the texts that imply them

What kind of value a node stands for.  A plain text without a tag of its own implies one: the words
for true, false and nothing, the forms of whole numbers and fractions (times of day to the base
sixty among them), dates, and the two marks for merging and defaults; every other text is itself.
-/

namespace CiteSync.Yaml

inductive Tag
  | null
  | bool
  | int
  | float
  | binary
  | timestamp
  | omap
  | pairs
  | set
  | str
  | seq
  | map
  | merge
  | value
  | unknown
  deriving DecidableEq, Repr

def tagBase : String := "tag:yaml.org,2002:"

def namedTags : List (String × Tag) :=
  [("null", .null), ("bool", .bool), ("int", .int), ("float", .float), ("binary", .binary),
    ("timestamp", .timestamp), ("omap", .omap), ("pairs", .pairs), ("set", .set), ("str", .str),
    ("seq", .seq), ("map", .map), ("merge", .merge), ("value", .value)]

def Tag.ofName (name : String) : Tag :=
  ((namedTags.find? fun t => tagBase ++ t.1 == name).map (·.2)).getD .unknown

/-! ## Forms of plain texts -/

def boolWords : List String :=
  ["yes", "Yes", "YES", "no", "No", "NO", "true", "True", "TRUE", "false", "False", "FALSE",
    "on", "On", "ON", "off", "Off", "OFF"]

def nullWords : List String := ["~", "null", "Null", "NULL", ""]

def isDigitOrUnderscore (c : Char) : Bool := c.isDigit || c == '_'

def isOctalOrUnderscore (c : Char) : Bool := ('0' ≤ c && c ≤ '7') || c == '_'

def isHexOrUnderscore (c : Char) : Bool :=
  c.isDigit || ('a' ≤ c && c ≤ 'f') || ('A' ≤ c && c ≤ 'F') || c == '_'

def unsigned : List Char → List Char
  | '+' :: rest => rest
  | '-' :: rest => rest
  | cs => cs

/-- One or two digits below sixty, and what follows them. -/
def sexagesimal? : List Char → Option (List Char)
  | a :: b :: rest =>
    if a.isDigit then
      if b.isDigit then if a ≤ '5' then some rest else none else some (b :: rest)
    else none
  | [a] => if a.isDigit then some [] else none
  | [] => none

/-- One or more parts below sixty, each behind a colon, then `tail`. -/
def sexagesimalTail (tail : List Char → Bool) : Nat → List Char → Bool
  | 0, _ => false
  | fuel + 1, ':' :: rest =>
    match sexagesimal? rest with
    | some rest => tail rest || sexagesimalTail tail fuel rest
    | none => false
  | _, _ => false

/-- Binary, octal, decimal, hexadecimal or to the base sixty. -/
def isIntForm (cs : List Char) : Bool :=
  match unsigned cs with
  | ['0'] => true
  | '0' :: 'b' :: rest => rest != [] && rest.all fun c => c == '0' || c == '1' || c == '_'
  | '0' :: 'x' :: rest => rest != [] && rest.all isHexOrUnderscore
  | '0' :: rest => rest.all isOctalOrUnderscore
  | c :: rest =>
    c.isDigit &&
      (rest.all isDigitOrUnderscore ||
        sexagesimalTail List.isEmpty rest.length (rest.dropWhile isDigitOrUnderscore))
  | [] => false

/-- Nothing, or an exponent with its sign. -/
def isExponent : List Char → Bool
  | [] => true
  | e :: sign :: digits =>
    (e == 'e' || e == 'E') && (sign == '+' || sign == '-') && digits != [] &&
      digits.all Char.isDigit
  | _ => false

def isFraction : List Char → Bool
  | '.' :: rest => isExponent (rest.dropWhile isDigitOrUnderscore)
  | _ => false

def isBareFraction : List Char → Bool
  | '.' :: rest => rest.all isDigitOrUnderscore
  | _ => false

def infinityWords : List String := [".inf", ".Inf", ".INF"]

def nanWords : List String := [".nan", ".NaN", ".NAN"]

/-- With a point, to the base sixty with a point, infinite, or not a number. -/
def isFloatForm (cs : List Char) : Bool :=
  let word := String.ofList (unsigned cs)
  let whole (c : Char) (rest : List Char) : Bool :=
    let rest := rest.dropWhile isDigitOrUnderscore
    c.isDigit && (isFraction rest || sexagesimalTail isBareFraction (rest.length + 1) rest)
  infinityWords.contains word || nanWords.contains (String.ofList cs) ||
    (match cs with
      | '.' :: c :: rest => c.isDigit && isExponent (rest.dropWhile isDigitOrUnderscore)
      | _ => false) ||
    (match unsigned cs with
      | c :: rest => whole c rest
      | [] => false)

/-! ## Forms of dates -/

/-- Between `least` and `most` digits and what follows them. -/
def takeDigits (least most : Nat) (cs : List Char) : Option (List Char × List Char) :=
  let digits := (cs.take most).takeWhile Char.isDigit
  if digits.length < least then none else some (digits, cs.drop digits.length)

def afterChar (c : Char) : List Char → Option (List Char)
  | d :: rest => if c == d then some rest else none
  | [] => none

/-- A distance from universal time: its sign, hours and minutes. -/
inductive Zone
  | utc
  | offset (west : Bool) (hours minutes : List Char)

/-- A date as it is written, with the time of day if it has one. -/
structure DateText where
  year : List Char
  month : List Char
  day : List Char
  time : Option (List Char × List Char × List Char × List Char × Option Zone)

def readZone (cs : List Char) : Option (Option Zone) :=
  let rest := cs.dropWhile fun c => c == ' ' || c == '\t'
  match rest with
  | [] => if cs.isEmpty then some none else none
  | ['Z'] => some (some .utc)
  | sign :: rest => do
    if sign != '+' && sign != '-' then none
    else
      let (hours, rest) ← takeDigits 1 2 rest
      match rest with
      | [] => some (some (.offset (sign == '-') hours []))
      | ':' :: rest =>
        let (minutes, rest) ← takeDigits 2 2 rest
        if rest.isEmpty then some (some (.offset (sign == '-') hours minutes)) else none
      | _ => none

def readDate (cs : List Char) : Option DateText := do
  let (year, rest) ← takeDigits 4 4 cs
  let (month, rest) ← takeDigits 1 2 (← afterChar '-' rest)
  let (day, rest) ← takeDigits 1 2 (← afterChar '-' rest)
  if rest.isEmpty then some ⟨year, month, day, none⟩
  else
    let isGap (c : Char) := c == ' ' || c == '\t'
    let rest ← match rest with
      | 'T' :: rest => some rest
      | 't' :: rest => some rest
      | c :: rest => if isGap c then some (rest.dropWhile isGap) else none
      | [] => none
    let (hour, rest) ← takeDigits 1 2 rest
    let (minute, rest) ← takeDigits 2 2 (← afterChar ':' rest)
    let (second, rest) ← takeDigits 2 2 (← afterChar ':' rest)
    let (fraction, rest) := match rest with
      | '.' :: rest => (rest.takeWhile Char.isDigit, rest.dropWhile Char.isDigit)
      | _ => ([], rest)
    let zone ← readZone rest
    some ⟨year, month, day, some (hour, minute, second, fraction, zone)⟩

/-- A date with two digits for month and day, or any date with a time of day. -/
def isTimestampForm (cs : List Char) : Bool :=
  match readDate cs with
  | some ⟨_, month, day, none⟩ => month.length == 2 && day.length == 2
  | some _ => true
  | none => false

/-! ## The tag of a text -/

/-- The tag a plain text implies. -/
def implicitTag (s : String) : Tag :=
  let cs := s.toList
  if boolWords.contains s then .bool
  else if isFloatForm cs then .float
  else if isIntForm cs then .int
  else if s == "<<" then .merge
  else if nullWords.contains s then .null
  else if isTimestampForm cs then .timestamp
  else if s == "=" then .value
  else if s == "!" || s == "&" || s == "*" then .unknown
  else .str

end CiteSync.Yaml
