import CiteSync.Decimal.Binary

/-!
# Shortest decimal text

The fewest digits that read back as the same floating-point number and, among those, the digits
nearest to it.  A decimal reads back when it lies between the midpoints to the two neighbours, the
midpoints included when the number's last bit is zero.
-/

namespace CiteSync.Decimal

/-- Digits `d₁d₂…` with the point after the first `point` of them. -/
structure Digits where
  digits : Nat
  point : Int
  deriving Repr

def width (n : Nat) : Nat := (Nat.toDigits 10 n).length

/-- The position of the decimal point of `num / den`: the power of ten above it. -/
def pointOf (num den : Nat) : Int :=
  if den ≤ num then width (num / den)
  else
    let q := den / num
    if q * num == den && tenTo (width q - 1) == q then 2 - width q else 1 - width q

def scaled (num den : Nat) (power : Int) : Nat × Nat :=
  (num * tenTo (-power).toNat, den * tenTo power.toNat)

/-- The decimals of `count` digits next to a number, if one of them reads back; the nearer one, and
of two equally near ones the even one. -/
def atWidth? (units : Nat) (exponent : Int) (lowest : Bool) (count : Nat) : Option Digits :=
  -- Quarter units make every midpoint whole.
  let quarter := exponent - 2
  let value := 4 * units
  let low := value - (if lowest then 1 else 2)
  let high := value + 2
  let num := numerator value quarter
  let den := denominator quarter
  let point := pointOf num den
  let power := point - count
  let readsBack (candidate : Nat) : Bool :=
    let (n, d) := (candidate * tenTo power.toNat * den, tenTo (-power).toNat)
    let lowNum := numerator low quarter * d
    let highNum := numerator high quarter * d
    if units % 2 == 0 then lowNum ≤ n && n ≤ highNum else lowNum < n && n < highNum
  let (sn, sd) := scaled num den power
  let below := sn / sd
  let rest := sn % sd
  match readsBack below, readsBack (below + 1) with
  | true, true =>
    let up := 2 * rest > sd || (2 * rest == sd && below % 2 == 1)
    some ⟨if up then below + 1 else below, point - count⟩
  | true, false => some ⟨below, point - count⟩
  | false, true => some ⟨below + 1, point - count⟩
  | false, false => none

/-- The shortest digits of a positive number, without zeros at the end. -/
def shortest (units : Nat) (exponent : Int) (lowest : Bool) : Digits :=
  match (List.range 17).findSome? fun k => atWidth? units exponent lowest (k + 1) with
  | some found =>
    let n := found.digits
    let zeros := ((Nat.toDigits 10 n).reverse.takeWhile (· == '0')).length
    let kept := n / tenTo zeros
    ⟨kept, found.point + zeros + width kept⟩
  | none => ⟨units, width units⟩

/-! ## Notation -/

/-- How a number is written: the powers of ten between which it is written out, whether a whole
number keeps its `.0`, the least number of digits in an exponent, and the words for what is not a
number. -/
structure Style where
  smallest : Int
  largest : Int
  wholeMark : String
  exponentWidth : Nat
  infinity : String
  nan : String

/-- Numbers are written out from `0.0001` up to below `10^16`, always with a point; others have an
exponent with a sign and at least two digits. -/
def plain : Style where
  smallest := -3
  largest := 16
  wholeMark := ".0"
  exponentWidth := 2
  infinity := "inf"
  nan := "nan"

def padLeft (count : Nat) (s : String) : String :=
  String.ofList (List.replicate (count - s.length) '0') ++ s

def Style.writeDigits (f : Style) (d : Digits) : String :=
  let text := toString d.digits
  if f.smallest ≤ d.point && d.point ≤ f.largest then
    if d.point ≤ 0 then
      "0." ++ String.ofList (List.replicate (-d.point).toNat '0') ++ text
    else
      let whole := d.point.toNat
      if text.length ≤ whole then
        text ++ String.ofList (List.replicate (whole - text.length) '0') ++ f.wholeMark
      else
        String.ofList (text.toList.take whole) ++ "." ++ String.ofList (text.toList.drop whole)
  else
    let power := d.point - 1
    let rest := String.ofList (text.toList.drop 1)
    String.ofList (text.toList.take 1) ++ (if rest == "" then "" else "." ++ rest) ++ "e" ++
      (if power < 0 then "-" else "+") ++ padLeft f.exponentWidth (toString power.natAbs)

def Style.write (f : Style) (x : Float) : String :=
  let sign (negative : Bool) := if negative then "-" else ""
  match read x with
  | .nan => f.nan
  | .infinite negative => sign negative ++ f.infinity
  | .finite negative 0 _ _ => sign negative ++ "0" ++ f.wholeMark
  | .finite negative units exponent lowest =>
    sign negative ++ f.writeDigits (shortest units exponent lowest)

end CiteSync.Decimal
