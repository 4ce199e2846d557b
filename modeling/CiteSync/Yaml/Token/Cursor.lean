import CiteSync.Yaml.Token

/-!
# A place in a YAML text

The text from a place on, with the line and column of the place.  Lines end with a line feed and
nothing else.  Past the end every character reads as NUL, which no text holds.
-/

namespace CiteSync.Yaml

structure Cursor where
  rest : List Char
  index : Nat := 0
  line : Nat := 0
  column : Nat := 0

/-- What stands in for a character past the end. -/
def pastEnd : Char := '\x00'

/-- The byte order mark, which takes no column. -/
def byteOrderMark : Char := Char.ofNat 0xFEFF

def isEnd (c : Char) : Bool := c == pastEnd
def isBreak (c : Char) : Bool := c == '\n'
def isBreakOrEnd (c : Char) : Bool := isBreak c || isEnd c
def isSpaceOrEnd (c : Char) : Bool := c == ' ' || isBreakOrEnd c
def isBlankOrEnd (c : Char) : Bool := c == '\t' || isSpaceOrEnd c

def isNameChar (c : Char) : Bool := c.isAlphanum || c == '-' || c == '_'

def hexDigit? (c : Char) : Option Nat :=
  if c.isDigit then some (c.toNat - 48)
  else if 'a' ≤ c && c ≤ 'f' then some (c.toNat - 87)
  else if 'A' ≤ c && c ≤ 'F' then some (c.toNat - 55)
  else none

namespace Cursor

def peek (c : Cursor) (k : Nat) : Char := c.rest.getD k pastEnd

def step (c : Cursor) : Cursor :=
  match c.rest with
  | [] => c
  | '\n' :: rest => { rest, index := c.index + 1, line := c.line + 1, column := 0 }
  | d :: rest =>
    { c with rest, index := c.index + 1,
             column := if d == byteOrderMark then c.column else c.column + 1 }

def skip (c : Cursor) : Nat → Cursor
  | 0 => c
  | n + 1 => c.step.skip n

/-- The characters of a class from here on. -/
def run (c : Cursor) (p : Char → Bool) : List Char := c.rest.takeWhile fun d => p d && !isEnd d

def skipRun (c : Cursor) (p : Char → Bool) : Cursor := c.skip (c.run p).length

def skipSpaces (c : Cursor) : Cursor := c.skipRun (· == ' ')

/-- The place behind a comment, if one starts here. -/
def skipComment (c : Cursor) : Cursor :=
  if c.peek 0 == '#' then c.skipRun (!isBreakOrEnd ·) else c

/-- Whether a document marker of three of these characters stands here, alone. -/
def atMarker (c : Cursor) (mark : Char) : Bool :=
  c.peek 0 == mark && c.peek 1 == mark && c.peek 2 == mark && isBlankOrEnd (c.peek 3)

def atSeparator (c : Cursor) : Bool := c.atMarker '-' || c.atMarker '.'

/-- Only blanks and a comment may be left on the line; the place at its end. -/
def endOfLine (c : Cursor) : Except Fault Cursor :=
  let c := c.skipSpaces.skipComment
  if isBreakOrEnd (c.peek 0) then .ok (if isBreak (c.peek 0) then c.step else c)
  else .error .malformed

end Cursor

end CiteSync.Yaml
