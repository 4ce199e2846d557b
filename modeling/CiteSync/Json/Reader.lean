import CiteSync.Json.Basic

/-!
# Reading JSON

A reader for JSON text.  Each step takes what it reads off the front of the text and hands back the
rest; a bound on the number of steps, taken from the length of the text, keeps it total.
-/

namespace CiteSync.Json

/-! ## Tokens -/

def skipBlanks (cs : List Char) : List Char :=
  cs.dropWhile fun c => c == ' ' || c == '\n' || c == '\t' || c == '\r'

def hexValue? (c : Char) : Option Nat :=
  if c.isDigit then some (c.toNat - 48)
  else if 'a' ≤ c && c ≤ 'f' then some (c.toNat - 87)
  else if 'A' ≤ c && c ≤ 'F' then some (c.toNat - 55)
  else none

def readHex4 : List Char → Option (Nat × List Char)
  | a :: b :: c :: d :: rest => do
    let n := ((← hexValue? a) * 16 + (← hexValue? b)) * 16 + (← hexValue? c)
    some (n * 16 + (← hexValue? d), rest)
  | _ => none

/-- The text up to the closing quote, and what is behind it.  A pair of surrogates is one
character. -/
def readText : Nat → List Char → List Char → Option (String × List Char)
  | 0, _, _ => none
  | fuel + 1, done, cs =>
    match cs with
    | '"' :: rest => some (String.ofList done.reverse, rest)
    | '\\' :: 'u' :: rest => do
      let (unit, rest) ← readHex4 rest
      match rest with
      | '\\' :: 'u' :: more =>
        -- Two units of four digits make one character where the first is the high half of a pair.
        if 0xD800 ≤ unit && unit < 0xDC00 then
          let (low, more) ← readHex4 more
          let code := 0x10000 + (unit - 0xD800) * 0x400 + (low - 0xDC00)
          readText fuel (Char.ofNat code :: done) more
        else readText fuel (Char.ofNat unit :: done) rest
      | _ => readText fuel (Char.ofNat unit :: done) rest
    | '\\' :: c :: rest => do
      let meant ← match c with
        | '"' => some '"'
        | '\\' => some '\\'
        | '/' => some '/'
        | 'b' => some '\x08'
        | 'f' => some '\x0c'
        | 'n' => some '\n'
        | 'r' => some '\r'
        | 't' => some '\t'
        | _ => none
      readText fuel (meant :: done) rest
    | c :: rest => readText fuel (c :: done) rest
    | [] => none

/-- A number: whole unless it has a fraction or an exponent. -/
def readNumber (cs : List Char) : Option (Json × List Char) :=
  let isNumeric (c : Char) := c.isDigit || c == '-' || c == '+' || c == '.' || c == 'e' || c == 'E'
  let body := cs.takeWhile isNumeric
  let rest := cs.dropWhile isNumeric
  let negative := body.head? == some '-'
  let body := if negative then body.drop 1 else body
  let whole := body.takeWhile Char.isDigit
  let body := body.dropWhile Char.isDigit
  let number (ds : List Char) : Nat := ds.foldl (fun n d => n * 10 + (d.toNat - 48)) 0
  if whole.isEmpty then none
  else if body.isEmpty then
    let n : Int := number whole
    some (.int (if negative then -n else n), rest)
  else
    let fraction := if body.head? == some '.' then (body.drop 1).takeWhile Char.isDigit else []
    let body := if body.head? == some '.' then (body.drop 1).dropWhile Char.isDigit else body
    let power : Int :=
      match body with
      | _ :: '-' :: ds => -(number ds : Int)
      | _ :: '+' :: ds => number ds
      | _ :: ds => number ds
      | [] => 0
    let power := power - fraction.length
    let x := Float.ofScientific (number (whole ++ fraction)) (power < 0) power.natAbs
    some (.float (if negative then -x else x), rest)

/-! ## Values -/

mutual

def readValue : Nat → List Char → Option (Json × List Char)
  | 0, _ => none
  | fuel + 1, cs =>
    match skipBlanks cs with
    | 'n' :: 'u' :: 'l' :: 'l' :: rest => some (.null, rest)
    | 't' :: 'r' :: 'u' :: 'e' :: rest => some (.bool true, rest)
    | 'f' :: 'a' :: 'l' :: 's' :: 'e' :: rest => some (.bool false, rest)
    | '"' :: rest => (readText (rest.length + 1) [] rest).map fun (s, rest) => (.str s, rest)
    | '[' :: rest =>
      match skipBlanks rest with
      | ']' :: rest => some (.arr [], rest)
      | _ => (readElems fuel rest).map fun (vs, rest) => (.arr vs, rest)
    | '\x7b' :: rest =>
      match skipBlanks rest with
      | '\x7d' :: rest => some (.obj [], rest)
      | _ => (readMembers fuel rest).map fun (ms, rest) => (.obj ms, rest)
    | cs => readNumber cs

def readElems : Nat → List Char → Option (List Json × List Char)
  | 0, _ => none
  | fuel + 1, cs => do
    let (v, rest) ← readValue fuel cs
    match skipBlanks rest with
    | ',' :: rest => (readElems fuel rest).map fun (vs, rest) => (v :: vs, rest)
    | ']' :: rest => some ([v], rest)
    | _ => none

def readMembers : Nat → List Char → Option (List (String × Json) × List Char)
  | 0, _ => none
  | fuel + 1, cs =>
    match skipBlanks cs with
    | '"' :: rest => do
      let (k, rest) ← readText (rest.length + 1) [] rest
      match skipBlanks rest with
      | ':' :: rest =>
        let (v, rest) ← readValue fuel rest
        match skipBlanks rest with
        | ',' :: rest => (readMembers fuel rest).map fun (ms, rest) => ((k, v) :: ms, rest)
        | '\x7d' :: rest => some ([(k, v)], rest)
        | _ => none
      | _ => none
    | _ => none

end

def parse (s : String) : Option Json :=
  let cs := s.toList
  match readValue (cs.length + 2) cs with
  | some (v, rest) => if (skipBlanks rest).isEmpty then some v else none
  | none => none

end CiteSync.Json
