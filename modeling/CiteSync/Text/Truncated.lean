/-!
# Truncated text

A text cut down to a number of characters.  A cut text ends in a mark and, where it has a blank
before the limit, is cut at the last one, so that no word is broken.
-/

namespace CiteSync.Text

/-- Position of the last blank other than one at the very start. -/
def lastSpace? (cs : List Char) : Option Nat :=
  ((List.range cs.length).reverse.find? fun i => cs[i]? == some ' ').filter (0 < ·)

/-- What is kept of a text that has room for `room` characters. -/
def keptChars (cs : List Char) (room : Nat) : List Char :=
  match lastSpace? (cs.take room) with
  | some i => cs.take i
  | none => cs.take room

/-- A text in at most `limit` characters, `mark` included where the text is cut. -/
def truncateChars (cs : List Char) (limit : Int) (mark : List Char) : List Char :=
  if (cs.length : Int) ≤ limit then cs
  else if limit ≤ mark.length then mark.take limit.toNat
  else keptChars cs (limit.toNat - mark.length) ++ mark

def defaultLimit : Int := 500

def defaultMark : String := "..."

def truncate (s : String) (limit : Int) (mark : String) : String :=
  String.ofList (truncateChars s.toList limit mark.toList)

end CiteSync.Text
