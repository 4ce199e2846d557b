import CiteSync.Text.Blank
import CiteSync.Text.Case

/-!
# Pinned citation keys

A work's notes can pin its key: the label "Citation Key" in any case, a colon and one word, from
the start of a line to the end of one, with blanks of any kind between the parts.
-/

namespace CiteSync.Citation

def pinLabel : List Char := "citation key".toList

/-- What follows a label, compared without regard to case. -/
def afterLabel? : (label cs : List Char) → Option (List Char)
  | [], cs => some cs
  | _ :: _, [] => none
  | l :: label, c :: cs => if Text.foldChar c = l then afterLabel? label cs else none

def skipBlanks (cs : List Char) : List Char := cs.dropWhile Text.isBlank

/-- Whether a line or the text ends before the next word. -/
def endsLine (cs : List Char) : Bool :=
  let blanks := cs.takeWhile Text.isBlank
  blanks.contains '\n' || blanks.length == cs.length

def pinnedHere? (cs : List Char) : Option (List Char) := do
  -- Blanks include line ends, so the word may stand some lines below the label.
  let rest ← afterLabel? pinLabel (skipBlanks cs)
  match skipBlanks rest with
  | ':' :: rest =>
    let rest := skipBlanks rest
    let word := rest.takeWhile (!Text.isBlank ·)
    if word ≠ [] && endsLine (rest.drop word.length) then some word else none
  | _ => none

/-- The starts of the lines of a text, each with everything behind it. -/
def lineStarts : List Char → List (List Char)
  | [] => []
  | '\n' :: rest => rest :: lineStarts rest
  | _ :: rest => lineStarts rest

def pinnedKey? (notes : String) : Option String :=
  let cs := notes.toList
  ((cs :: lineStarts cs).findSome? pinnedHere?).map String.ofList

end CiteSync.Citation
