import CiteSync.Yaml.Token.Mark
import CiteSync.Yaml.Token.Scalar

/-!
# From text to tokens

Reads the tokens of a text from left to right.  A value turns out to be a key only when a colon
follows it, so the lexer remembers for each level of brackets where the last possible key began and
puts the key token in front of it afterwards.
-/

namespace CiteSync.Yaml

/-- A value that a colon can make a key. -/
structure KeyCandidate where
  /-- How many tokens come before it. -/
  position : Nat
  /-- Nothing but a key fits here. -/
  required : Bool
  index : Nat
  line : Nat
  column : Nat

structure Lexer where
  cursor : Cursor
  /-- The depth of flow brackets. -/
  flow : Nat := 0
  indent : Int := -1
  /-- The indentations around the current one, innermost first. -/
  outer : List Int := []
  keyAllowed : Bool := true
  /-- The possible key at each depth of brackets. -/
  candidates : List (Nat × KeyCandidate) := []
  tokens : Array Token := #[]

namespace Lexer

def emit (s : Lexer) (t : Token) : Lexer := { s with tokens := s.tokens.push t }

/-! ## Possible keys -/

def longestKey : Nat := 1024

/-- Forgets keys that the line or the distance rules out. -/
def dropStale (s : Lexer) : Except Fault Lexer :=
  let stale (k : KeyCandidate) : Bool :=
    k.line != s.cursor.line || longestKey < s.cursor.index - k.index
  if s.candidates.any fun c => stale c.2 && c.2.required then .error .malformed
  else .ok { s with candidates := s.candidates.filter fun c => !stale c.2 }

def candidate? (s : Lexer) : Option KeyCandidate :=
  (s.candidates.find? (·.1 == s.flow)).map (·.2)

def forget (s : Lexer) : Lexer :=
  { s with candidates := s.candidates.filter (·.1 != s.flow) }

/-- Forgets the possible key at this depth; a required one must not be lost. -/
def dropCandidate (s : Lexer) : Except Fault Lexer :=
  match s.candidate? with
  | some k => if k.required then .error .malformed else .ok s.forget
  | none => .ok s

def saveCandidate (s : Lexer) : Except Fault Lexer := do
  if s.keyAllowed then
    -- At the indentation of the block that is open nothing but a key fits.
    let required := s.flow == 0 && s.indent == s.cursor.column
    let s ← s.dropCandidate
    let k : KeyCandidate :=
      ⟨s.tokens.size, required, s.cursor.index, s.cursor.line, s.cursor.column⟩
    .ok { s with candidates := (s.flow, k) :: s.candidates }
  else .ok s

/-! ## Indentation -/

def unwindTo (column : Int) : List Int → Lexer → Lexer
  | [], s => if s.indent > column then { s.emit .blockEnd with indent := -1 } else s
  | i :: outer, s =>
    if s.indent > column then
      unwindTo column outer { s.emit .blockEnd with indent := i, outer }
    else s

/-- Closes the blocks indented further than `column`; brackets suspend indentation. -/
def unwind (s : Lexer) (column : Int) : Lexer :=
  if s.flow == 0 then unwindTo column s.outer s else s

/-- Opens a block at `column` if that is further in; whether it did. -/
def indentTo (s : Lexer) (column : Nat) : Bool × Lexer :=
  if s.indent < column then
    (true, { s with outer := s.indent :: s.outer, indent := column })
  else (false, s)

/-! ## One token -/

def insertAt (tokens : Array Token) (position : Nat) (t : Token) : Array Token :=
  (tokens.toList.take position ++ t :: tokens.toList.drop position).toArray

/-- Skips blanks, comments and line ends; outside brackets a key may start on a new line. -/
def skipToToken : Nat → Lexer → Lexer
  | 0, s => s
  | fuel + 1, s =>
    let c := s.cursor.skipSpaces.skipComment
    if isBreak (c.peek 0) then
      skipToToken fuel { s with cursor := c.step, keyAllowed := s.keyAllowed || s.flow == 0 }
    else { s with cursor := c }

def openFlow (s : Lexer) (t : Token) : Except Fault Lexer := do
  let s ← s.saveCandidate
  .ok { s.emit t with cursor := s.cursor.step, flow := s.flow + 1, keyAllowed := true }

def closeFlow (s : Lexer) (t : Token) : Except Fault Lexer := do
  let s ← s.dropCandidate
  if s.flow == 0 then .error .malformed
  else .ok { s.emit t with cursor := s.cursor.step, flow := s.flow - 1, keyAllowed := false }

def readMarker (s : Lexer) (t : Token) : Except Fault Lexer := do
  let s ← (s.unwind (-1)).dropCandidate
  .ok { s.emit t with cursor := s.cursor.skip 3, keyAllowed := false }

/-- Opens a block for an entry or key that starts here. -/
def openBlock (s : Lexer) (t : Token) : Except Fault Lexer :=
  if s.flow != 0 then .ok s
  else if !s.keyAllowed then .error .malformed
  else
    let (opened, s) := s.indentTo s.cursor.column
    .ok (if opened then s.emit t else s)

def readBlockEntry (s : Lexer) : Except Fault Lexer := do
  let s ← s.openBlock .blockSequenceStart
  let s ← { s with keyAllowed := true }.dropCandidate
  .ok { s.emit .blockEntry with cursor := s.cursor.step }

def readKey (s : Lexer) : Except Fault Lexer := do
  let s ← s.openBlock .blockMappingStart
  let s ← { s with keyAllowed := s.flow == 0 }.dropCandidate
  .ok { s.emit .key with cursor := s.cursor.step }

/-- A colon: what could be a key in front of it is one. -/
def readValueMark (s : Lexer) : Except Fault Lexer := do
  let s ← match s.candidate? with
    | some k =>
      -- The block, if the key opens one, starts in front of the key that was just put in.
      let s := { s.forget with tokens := insertAt s.tokens k.position .key }
      let (opened, s) := if s.flow == 0 then s.indentTo k.column else (false, s)
      let tokens := if opened then insertAt s.tokens k.position .blockMappingStart else s.tokens
      .ok { s with tokens, keyAllowed := false }
    | none => do
      let s ← s.openBlock .blockMappingStart
      { s with keyAllowed := s.flow == 0 }.dropCandidate
  .ok { s.emit .value with cursor := s.cursor.step }

/-- A mark or text that can be a key or stand in front of one. -/
def readInline {α : Type} (s : Lexer) (read : Cursor → Except Fault (α × Cursor))
    (token : α → Token) : Except Fault Lexer := do
  let s ← s.saveCandidate
  let (a, cursor) ← read s.cursor
  .ok { s.emit (token a) with cursor, keyAllowed := false }

def readPlainToken (s : Lexer) : Except Fault Lexer := do
  let s ← s.saveCandidate
  let (text, broken, cursor) :=
    readPlain (s.flow != 0) (s.indent + 1) (s.cursor.rest.length + 1) [] false s.cursor
  .ok { s.emit (.scalar (String.ofList text) true) with cursor, keyAllowed := broken }

def readBlockToken (s : Lexer) (folded : Bool) : Except Fault Lexer := do
  let s ← { s with keyAllowed := true }.dropCandidate
  let (text, cursor) ← readBlock folded s.indent s.cursor.step
  .ok { s.emit (.scalar (String.ofList text) false) with cursor }

def startsPlain (flow : Bool) (d next : Char) : Bool :=
  !(isBlankOrEnd d || "-?:,[]\x7b\x7d#&*!|>'\"%@\x60".toList.contains d) ||
    (!isBlankOrEnd next && (d == '-' || (!flow && (d == '?' || d == ':'))))

/-- Reads the token that starts here; `none` at the end of the text. -/
def readToken (s : Lexer) : Except Fault (Option Lexer) := do
  let c := s.cursor
  let d := c.peek 0
  let inFlow := s.flow != 0
  let markEnds := inFlow || isBlankOrEnd (c.peek 1)
  if isEnd d then return none
  let next ←
    if d == '%' && c.column == 0 then do
      let s ← (s.unwind (-1)).dropCandidate
      let (line, cursor) ← readPreamble s.cursor
      pure { s.emit (.preamble line) with cursor, keyAllowed := false }
    else if c.column == 0 && c.atMarker '-' then s.readMarker .documentStart
    else if c.column == 0 && c.atMarker '.' then s.readMarker .documentEnd
    else if d == '[' then s.openFlow .flowSequenceStart
    else if d == '\x7b' then s.openFlow .flowMappingStart
    else if d == ']' then s.closeFlow .flowSequenceEnd
    else if d == '\x7d' then s.closeFlow .flowMappingEnd
    else if d == ',' then do
      let s ← { s with keyAllowed := true }.dropCandidate
      pure { s.emit .flowEntry with cursor := c.step }
    else if d == '-' && isBlankOrEnd (c.peek 1) then s.readBlockEntry
    else if d == '?' && markEnds then s.readKey
    else if d == ':' && markEnds then s.readValueMark
    else if d == '*' then s.readInline (fun c => readName followsAnchor c.step) .aliasOf
    else if d == '&' then s.readInline (fun c => readName followsAnchor c.step) .anchor
    else if d == '!' then s.readInline readTag .tag
    else if d == '|' && !inFlow then s.readBlockToken false
    else if d == '>' && !inFlow then s.readBlockToken true
    else if d == '\'' || d == '"' then
      s.readInline (fun c => readQuoted (d == '"') (c.rest.length + 1) c.step)
        fun text => .scalar (String.ofList text) false
    else if startsPlain inFlow d (c.peek 1) then s.readPlainToken
    else .error .malformed
  return some next

/-- Reads tokens to the end of the text.  On a fault the tokens in front of it are kept. -/
def readAll : Nat → Lexer → Array Token × Option Fault
  | 0, s => (s.tokens, some .malformed)
  | fuel + 1, s =>
    let s := skipToToken (s.cursor.rest.length + 1) s
    match s.dropStale with
    | .error e => (s.tokens, some e)
    | .ok s =>
      let s := s.unwind s.cursor.column
      match s.readToken with
      | .error e => (s.tokens, some e)
      | .ok (some s) => readAll fuel s
      | .ok none =>
        match (s.unwind (-1)).dropCandidate with
        | .error e => (s.tokens, some e)
        | .ok s => ((s.emit .streamEnd).tokens, none)

end Lexer

def tokens (cs : List Char) : Array Token × Option Fault :=
  let cs := if cs.head? == some byteOrderMark then cs.drop 1 else cs
  Lexer.readAll (cs.length + 2) { cursor := { rest := cs } }

end CiteSync.Yaml
