/-!
# Binary fractions

The exact value of a finite floating-point number: a sign and a whole number of units, each unit a
power of two.  Everything that prints a number works on this form with natural numbers.
-/

namespace CiteSync.Decimal

def twoTo (n : Nat) : Nat := Nat.pow 2 n

def tenTo (n : Nat) : Nat := Nat.pow 10 n

inductive Reading
  | nan
  | infinite (negative : Bool)
  /-- The value is `units * 2 ^ exponent`; `lowest` marks the first number of a binade above the
  smallest, whose lower neighbour is half a step away. -/
  | finite (negative : Bool) (units : Nat) (exponent : Int) (lowest : Bool)
  deriving Repr

/-- The exact value of a floating-point number, from its sign, exponent and fraction bits. -/
def read (x : Float) : Reading :=
  let bits : Nat := x.toBits.toNat
  let negative := bits / twoTo 63 == 1
  let biased : Nat := bits / twoTo 52 % twoTo 11
  let fraction : Nat := bits % twoTo 52
  if biased == 2047 then
    if fraction == 0 then .infinite negative else .nan
  else if biased == 0 then .finite negative fraction (-1074) false
  else
    .finite negative (twoTo 52 + fraction) (Int.ofNat biased - 1075) (fraction == 0 && biased > 1)

def numerator (units : Nat) (exponent : Int) : Nat := units * twoTo exponent.toNat

def denominator (exponent : Int) : Nat := twoTo (-exponent).toNat

end CiteSync.Decimal
