import CiteSync.Text.Blank
import CiteSync.Text.Case
import CiteSync.Text.WholeNumber
import CiteSync.Yaml.Tag
import CiteSync.Yaml.Value

/-!
# Texts read by their tags

The value of a text under each tag that a text can have: flags, whole numbers to four bases and to
the base sixty, fractions, bytes and dates.
-/

namespace CiteSync.Yaml

def withoutUnderscores (s : List Char) : List Char := s.filter (· != '_')

def readSign (cs : List Char) : Except Fault (Bool × List Char) :=
  match cs with
  | [] => .error .emptyNumber
  | '-' :: rest => .ok (true, rest)
  | '+' :: rest => .ok (false, rest)
  | _ => .ok (false, cs)

/-! ## Whole numbers -/

/-- The value of a digit to a base up to sixteen; decimal digits of any script count. -/
def digitIn? (base : Nat) (c : Char) : Option Nat :=
  (Text.digitValue? c <|> hexLetter? c).filter (· < base)
where
  hexLetter? (c : Char) : Option Nat :=
    if 'a' ≤ c && c ≤ 'f' then some (c.toNat - 87)
    else if 'A' ≤ c && c ≤ 'F' then some (c.toNat - 55)
    else none

def baseMark? (base : Nat) (c : Char) : Bool :=
  (base == 16 && (c == 'x' || c == 'X')) || (base == 8 && (c == 'o' || c == 'O')) ||
    (base == 2 && (c == 'b' || c == 'B'))

def longestDecimal : Nat := 4300

/-- A whole number to a base, with a sign and the mark of the base if it is there. -/
def readInt (base : Nat) (text : List Char) : Except Fault Int :=
  let fault := Fault.badInt base (String.ofList text)
  let cs := Text.trim text
  let (negative, cs) := match cs with
    | '-' :: rest => (true, rest)
    | '+' :: rest => (false, rest)
    | _ => (false, cs)
  let cs := match cs with
    | '0' :: m :: rest => if baseMark? base m then rest else cs
    | _ => cs
  match cs.mapM (digitIn? base) with
  | none => .error fault
  | some [] => .error fault
  | some ds =>
    if base == 10 && longestDecimal < ds.length then .error (.overlongInt ds.length)
    else
      let n : Int := Int.ofNat (ds.foldl (fun n d => n * base + d) 0)
      .ok (if negative then -n else n)

/-- Numbers with a colon between them, each worth sixty of the next. -/
def splitColons (cs : List Char) : List (List Char) := Text.splitOn (· == ':') cs

def readIntText (text : List Char) : Except Fault Int := do
  let (negative, cs) ← readSign (withoutUnderscores text)
  let n ← match cs with
    | ['0'] => pure 0
    | '0' :: 'b' :: rest => readInt 2 rest
    | '0' :: 'x' :: rest => readInt 16 rest
    | '0' :: _ => readInt 8 cs
    | [] => throw .emptyNumber
    | _ =>
      if cs.contains ':' then do
        let parts ← (splitColons cs).mapM (readInt 10)
        pure (parts.foldl (fun n d => n * 60 + d) 0)
      else readInt 10 cs
  pure (if negative then -n else n)

/-! ## Fractions -/

/-- The number `mantissa * 10 ^ power`. -/
def scientific (mantissa : Nat) (power : Int) : Float :=
  let top := power + Decimal.width mantissa
  if mantissa == 0 || top < -400 then 0.0
  else if 400 < top then 1.0 / 0.0
  else Float.ofScientific mantissa (power < 0) power.natAbs

def readDigits (cs : List Char) : Nat × Nat × List Char :=
  let ds := (cs.takeWhile Text.isDecimal).filterMap Text.digitValue?
  (ds.foldl (fun n d => n * 10 + d) 0, ds.length, cs.drop ds.length)

/-- A decimal fraction with a sign and an exponent, each if it is there. -/
def readDecimal? (cs : List Char) : Option Float := do
  let (negative, cs) := match cs with
    | '-' :: rest => (true, rest)
    | '+' :: rest => (false, rest)
    | _ => (false, cs)
  let word := String.ofList cs
  let x ←
    if word == "inf" || word == "infinity" then some (1.0 / 0.0)
    else if word == "nan" then some (0.0 / 0.0)
    else
      let (whole, wholeCount, cs) := readDigits cs
      let (part, partCount, cs) := match cs with
        | '.' :: rest => readDigits rest
        | _ => (0, 0, cs)
      if wholeCount + partCount == 0 then none
      else
        let power ← match cs with
          | [] => some (0 : Int)
          | 'e' :: rest =>
            let (west, rest) := match rest with
              | '-' :: rest => (true, rest)
              | '+' :: rest => (false, rest)
              | _ => (false, rest)
            let (n, count, rest) := readDigits rest
            if count == 0 || !rest.isEmpty then none
            else some (if west then -(n : Int) else n)
          | _ => none
        some (scientific (whole * Decimal.tenTo partCount + part) (power - partCount))
  some (if negative then -x else x)

def readFloat (text : List Char) : Except Fault Float :=
  match readDecimal? (Text.trim text) with
  | some x => .ok x
  | none => .error (.badFloat (String.ofList text))

def readFloatText (text : List Char) : Except Fault Float := do
  let (negative, cs) ← readSign (Text.lowerChars (withoutUnderscores text))
  let x ←
    if cs == ".inf".toList then pure (1.0 / 0.0)
    else if cs == ".nan".toList then return 0.0 / 0.0
    else if cs.contains ':' then do
      let parts ← (splitColons cs).mapM readFloat
      let (x, _) := parts.reverse.foldl (fun (x, unit) d => (x + d * unit, unit * 60.0)) (0.0, 1.0)
      pure x
    else readFloat cs
  pure (if negative then -x else x)

/-! ## Flags and bytes -/

def readBoolText (text : String) : Except Fault Bool :=
  let word := Text.lower text
  if ["yes", "true", "on"].contains word then .ok true
  else if ["no", "false", "off"].contains word then .ok false
  else .error (.badBool word)

def sixBits? (c : Char) : Option Nat :=
  if 'A' ≤ c && c ≤ 'Z' then some (c.toNat - 65)
  else if 'a' ≤ c && c ≤ 'z' then some (c.toNat - 71)
  else if c.isDigit then some (c.toNat + 4)
  else if c == '+' then some 62
  else if c == '/' then some 63
  else none

/-- The bytes of characters that stand for six bits each; other characters are passed over.
`place` counts the characters of a group of four, `pending` holds bits not yet written, and `pads`
the padding marks met in a row. -/
def readSixes : List Char → (place pending pads : Nat) → Option (List UInt8)
  | [], place, _, _ => if place == 0 then some [] else none
  | c :: rest, place, pending, pads =>
    if c == '=' then
      if 2 ≤ place && 4 ≤ place + pads + 1 then some []
      else readSixes rest place pending (if 2 ≤ place then pads + 1 else pads)
    else
      match sixBits? c with
      | none => readSixes rest place pending pads
      | some bits =>
        if place == 0 then readSixes rest 1 bits 0
        else if place == 1 then
          (readSixes rest 2 (bits % 16) 0).map (UInt8.ofNat (pending * 4 + bits / 16) :: ·)
        else if place == 2 then
          (readSixes rest 3 (bits % 4) 0).map (UInt8.ofNat (pending * 16 + bits / 4) :: ·)
        else (readSixes rest 0 0 0).map (UInt8.ofNat (pending * 64 + bits) :: ·)

def readBytesText (text : List Char) : Except Fault (List UInt8) :=
  if text.any (128 ≤ ·.toNat) then .error .malformed
  else
    match readSixes text 0 0 0 with
    | some bytes => .ok bytes
    | none => .error .malformed

/-! ## Dates -/

def isLeapYear (year : Nat) : Bool :=
  year % 4 == 0 && (year % 100 != 0 || year % 400 == 0)

def daysIn (year month : Nat) : Nat :=
  if month == 2 then (if isLeapYear year then 29 else 28)
  else if [4, 6, 9, 11].contains month then 30
  else 31

def checkDate (year month day : Nat) : Except Fault Date :=
  if year == 0 then .error (.badYear year)
  else if month < 1 || 12 < month then .error .badMonth
  else if day < 1 || daysIn year month < day then .error .badDay
  else .ok ⟨year, month, day⟩

/-- The distance of a zone in seconds, less than a day either way. -/
def Zone.seconds : Zone → Except Fault Int
  | .utc => .ok 0
  | .offset west hours minutes =>
    let span : Int := Text.decimalNat hours * 3600 + Text.decimalNat minutes * 60
    let span := if west then -span else span
    if span ≤ -86400 || 86400 ≤ span then .error (.badOffset span) else .ok span

def readTimestampText (text : List Char) : Except Fault Value :=
  match readDate text with
  | none => .error .badTimestamp
  | some ⟨year, month, day, time⟩ => do
    let num := Text.decimalNat
    match time with
    | none => .date <$> checkDate (num year) (num month) (num day)
    | some (hour, minute, second, fraction, zone) =>
      let offset ← zone.mapM Zone.seconds
      let date ← checkDate (num year) (num month) (num day)
      let (h, m, s) := (num hour, num minute, num second)
      if 24 ≤ h then .error .badHour
      else if 60 ≤ m then .error .badMinute
      else if 60 ≤ s then .error .badSecond
      else
        let micro := num (fraction.take 6 ++ List.replicate (6 - fraction.length) '0')
        .ok (.moment ⟨date, h, m, s, micro, offset⟩)

/-! ## Any tag -/

def readText (tag : Tag) (text : String) : Except Fault Value :=
  let cs := text.toList
  match tag with
  | .null => .ok .null
  | .bool => .bool <$> readBoolText text
  | .int => .int <$> readIntText cs
  | .float => .float <$> readFloatText cs
  | .binary => .bytes <$> readBytesText cs
  | .timestamp => readTimestampText cs
  | .str => .ok (.str text)
  | _ => .error .malformed

end CiteSync.Yaml
