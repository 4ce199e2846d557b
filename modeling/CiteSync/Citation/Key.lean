import CiteSync.Library.Source
import CiteSync.Text.Blank
import CiteSync.Text.Latin

/-!
# Citation keys for works without one

A key is made from the first name that has Latin letters, or else the first such word of the title,
and the year.  A key that is taken gets a letter behind it, the first in the row that makes it free.
With nothing taken the key depends on the work alone.
-/

namespace CiteSync.Citation

open Library

/-- The part of a key that a text gives: its Latin letters and digits, in lower case. -/
def keyPart (cs : List Char) : List Char := cs.flatMap Text.plainLetters

def firstPart (texts : List (List Char)) : List Char :=
  ((texts.map keyPart).find? (· ≠ [])).getD []

/-- What a key is made from where neither a name nor a title has Latin letters. -/
def nameless : List Char := ['r', 'e', 'f']

def stem (s : Source) : List Char :=
  let names := firstPart (s.creators.map fun c => (c.shownName?.getD "").toList)
  let named := if names ≠ [] then names else firstPart (Text.words (s.title.getD "").toList)
  if named ≠ [] then named else nameless

/-- The key of a work when none is taken. -/
def baseKey (s : Source) : String :=
  String.ofList (stem s ++ (s.year.getD "").toList)

/-- A key with the letter of that number behind it, `a` being the first. -/
def lettered (base : String) (number : Nat) : String := base.push (Char.ofNat (97 + number))

/-- The key itself if it is free, else with the first letter that makes it so. -/
def freeKey (base : String) (taken : List String) : String :=
  if taken.contains base then
    match (List.range (taken.length + 1)).find? fun n => !taken.contains (lettered base n) with
    | some n => lettered base n
    | none => base
  else base

def suggestKey (s : Source) (taken : List String) : String := freeKey (baseKey s) taken

theorem keyPart_isKeyChar {cs : List Char} {c : Char} (h : c ∈ keyPart cs) :
    Text.isKeyChar c = true := by
  obtain ⟨d, -, hd⟩ := List.mem_flatMap.1 h
  exact Text.plainLetters_isKeyChar hd

end CiteSync.Citation
