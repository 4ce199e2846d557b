import CiteSync.Decimal.Shortest

/-!
# Decimals with fixed places

A number rounded to a given count of places after the point.  The exact value is rounded, and a
value halfway between two decimals goes to the even one.
-/

namespace CiteSync.Decimal

/-- `num / den` rounded to a whole number, halves to even. -/
def roundQuotient (num den : Nat) : Nat :=
  let below := num / den
  let rest := num % den
  if 2 * rest > den || (2 * rest == den && below % 2 == 1) then below + 1 else below

def fixed (places : Nat) (x : Float) : String :=
  match read x with
  | .nan => "nan"
  | .infinite negative => if negative then "-inf" else "inf"
  | .finite negative units exponent _ =>
    let n := roundQuotient (numerator units exponent * tenTo places) (denominator exponent)
    let whole := toString (n / tenTo places)
    let part := if places == 0 then "" else "." ++ padLeft places (toString (n % tenTo places))
    (if negative then "-" else "") ++ whole ++ part

end CiteSync.Decimal
