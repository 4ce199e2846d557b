import CiteSync.Text.Blank
import CiteSync.Text.Pattern
import CiteSync.Text.Word

/-!
# The citation at the cursor

A citation being typed is an at sign and the key characters from there to the cursor.  The sign, or
a minus right before it, stands at the start of the text or after a blank, an opening bracket or
parenthesis, or a semicolon.  It is searched for in the line of the cursor; the end of the line
before goes with it, as the blank that a citation at the start of a line follows.
-/

namespace CiteSync.Citation

open Text

structure EditorState where
  text : String
  cursor : Int

/-- A citation key being typed. -/
structure Context where
  token : String
  /-- Where the key starts, right behind the at sign. -/
  pos : Nat
  deriving DecidableEq, Repr

def Context.stop (c : Context) : Nat := c.pos + c.token.length

def isTokenChar (c : Char) : Bool :=
  Text.isWord c || ":.#$%&+?<>~/-".toList.contains c

/-- A character that a citation can follow. -/
def isOpening (c : Char) : Bool :=
  Text.isBlank c || c == '[' || c == ';' || c == '('

/-- A citation that ends where the text does. -/
def citation : Pattern :=
  .both (.either .start (.one isOpening)) <| .both (.optional (.one (· == '-'))) <|
    .both (.one (· == '@')) <| .both (.group (.many isTokenChar)) .stop

/-- Where the last line of a text starts, the line feed before it included. -/
def lineStart (cs : List Char) : Nat :=
  match cs.reverse.idxOf? '\n' with
  | some behind => cs.length - 1 - behind
  | none => 0

def contextAtEnd? (cs : List Char) : Option Context :=
  ((citation.search cs (lineStart cs)).bind (·.group)).map fun (pos, token) =>
    ⟨String.ofList token, pos⟩

/-- The citation at the cursor, if the cursor is inside the text. -/
def context? (state : EditorState) : Option Context :=
  let cs := state.text.toList
  if state.cursor < 0 || (cs.length : Int) < state.cursor then none
  else contextAtEnd? (cs.take state.cursor.toNat)

end CiteSync.Citation
