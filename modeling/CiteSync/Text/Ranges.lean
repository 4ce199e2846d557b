/-!
# Character ranges

Properties of characters that a standard lists as ranges of code points.  A property is a list of
closed ranges; membership is decided by looking through the list.
-/

namespace CiteSync.Text

/-- Closed ranges of code points, in ascending order. -/
abbrev Ranges := List (Nat × Nat)

def Ranges.has (rs : Ranges) (code : Nat) : Bool :=
  rs.any fun r => r.1 ≤ code && code ≤ r.2

end CiteSync.Text
