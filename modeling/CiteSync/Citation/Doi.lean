import CiteSync.Text.Case
import CiteSync.Text.Digit

/-!
# Digital object identifiers

`10.`, four to nine digits, a slash and at least one character of a suffix, anywhere in a text.
-/

namespace CiteSync.Citation

/-- The characters of a suffix: Latin letters in either case, digits and a few marks. -/
def isDoiChar (c : Char) : Bool :=
  (Text.foldChar c).isLower || c.isDigit || "-._;()/:".toList.contains c

/-- Whether an identifier starts here. -/
def doiHere : List Char → Bool
  | '1' :: '0' :: '.' :: rest =>
    let registrant := rest.takeWhile Text.isDecimal
    4 ≤ registrant.length && registrant.length ≤ 9 &&
      match rest.drop registrant.length with
      | '/' :: c :: _ => isDoiChar c
      | _ => false
  | _ => false

def doiWithin : List Char → Bool
  | [] => false
  | c :: rest => doiHere (c :: rest) || doiWithin rest

def hasDoi (s : String) : Bool := doiWithin s.toList

end CiteSync.Citation
