import CiteSync.Text.Blank

/-!
# Fences

The lines that mark where a block of metadata starts and ends.  An editor may pass them along with
the block or leave them out.
-/

namespace CiteSync.FrontMatter

def openingFence : List Char := "---".toList

def closingFences : List (List Char) := ["---".toList, "...".toList]

def isOpeningFence (line : List Char) : Bool := Text.trim line == openingFence

def isClosingFence (line : List Char) : Bool := closingFences.contains (Text.trim line)

def dropOpening : List (List Char) → List (List Char)
  | line :: rest => if isOpeningFence line then rest else line :: rest
  | [] => []

def dropClosing (lines : List (List Char)) : List (List Char) :=
  match lines.getLast? with
  | some line => if isClosingFence line then lines.dropLast else lines
  | none => []

def unlines : List (List Char) → List Char
  | [] => []
  | [line] => line
  | line :: rest => line ++ '\n' :: unlines rest

/-- The block between its fences, if it has any. -/
def withoutFences (block : List Char) : List Char :=
  unlines (dropClosing (dropOpening (Text.lines (Text.trim block))))

end CiteSync.FrontMatter
