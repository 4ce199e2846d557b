import CiteSync.Text.Blank
import CiteSync.Text.Digit

/-!
# Whole numbers in text

Two readings of a whole number.  A settings value may carry a sign, leading zeros, single
underscores between digits and a fraction of zeros; a command-line value may use the decimal digits
of any script.
-/

namespace CiteSync.Text

def decimalNat (cs : List Char) : Nat :=
  cs.foldl (fun n c => n * 10 + (c.toNat - 48)) 0

/-! ## Settings and record fields -/

/-- White space other than the information separators. -/
def isOuterBlank (c : Char) : Bool :=
  isBlank c && !(28 ≤ c.toNat && c.toNat ≤ 31)

/-- What follows zeros and underscores; the last of them stays where no digit follows. -/
def afterZeros (last : Char) : List Char → Option (List Char)
  | [] => some [last]
  | '.' :: rest => some (last :: '.' :: rest)
  | c :: rest =>
    if c == '0' || c == '_' then afterZeros c rest
    else if c.isDigit then some (c :: rest)
    else none

/-- A number without the zeros in front of it; `none` if neither a digit nor a minus comes first. -/
def dropZeros : List Char → Option (List Char)
  | '0' :: rest => afterZeros '0' rest
  | c :: rest => if c.isDigit || c == '-' then some (c :: rest) else none
  | [] => none

/-- The text before a point that only zeros follow. -/
def dropFraction (cs : List Char) : List Char :=
  if ((cs.dropWhile (· != '.')).drop 1).all (· == '0') then cs.takeWhile (· != '.') else cs

/-- The text without underscores, if each stands alone between two other characters. -/
def dropUnderscores (cs : List Char) : Option (List Char) :=
  if cs.head? == some '_' || cs.getLast? == some '_' then none
  else if (cs.zip (cs.drop 1)).any fun p => p.1 == '_' && p.2 == '_' then none
  else some (cs.filter (· != '_'))

/-- A whole number as it may stand in a settings value or a record field. -/
def looseInt? (s : String) : Option Int := do
  let cs := trimBy isOuterBlank s.toList
  let cs ← match cs with
    | '+' :: '-' :: _ => none
    | '+' :: rest => some rest
    | _ => some cs
  let cs ← dropUnderscores (dropFraction (← dropZeros cs))
  match cs with
  | '-' :: ds =>
    if ds.isEmpty || !ds.all Char.isDigit || (ds.head? == some '0' && ds.length > 1) then none
    else some (-(decimalNat ds : Int))
  | ds =>
    if ds.isEmpty || !ds.all Char.isDigit then none else some (decimalNat ds)

/-! ## Command-line values -/

/-- The number that digits of any script stand for, an underscore allowed between two of them. -/
def scriptNat? : List Char → Option Nat
  | cs => do
    let ds ← dropUnderscores cs
    if ds.isEmpty then none
    else ds.foldlM (fun n c => (digitValue? c).map (n * 10 + ·)) 0

def scriptInt? (s : String) : Option Int :=
  match trim s.toList with
  | '-' :: cs => (scriptNat? cs).map fun n => -(n : Int)
  | '+' :: cs => (scriptNat? cs).map fun n => (n : Int)
  | cs => (scriptNat? cs).map fun n => (n : Int)

end CiteSync.Text
