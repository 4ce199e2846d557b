import CiteSync.Yaml.Token.Cursor

/-!
# Scalar texts

The four ways a text is written: plain, in single or double quotes, and as an indented block kept
line by line or folded.  A line end inside a text becomes a space, and each further one a line feed.
-/

namespace CiteSync.Yaml

abbrev Scanned := Except Fault (List Char × Cursor)

/-- A text folded at a line end with `breaks` empty lines behind it. -/
def foldBreaks (breaks : Nat) : List Char :=
  if breaks == 0 then [' '] else List.replicate breaks '\n'

/-! ## Quoted -/

def namedEscape? : Char → Option Char
  | '0' => some '\x00'
  | 'a' => some '\x07'
  | 'b' => some '\x08'
  | 't' => some '\t'
  | '\t' => some '\t'
  | 'n' => some '\n'
  | 'v' => some '\x0b'
  | 'f' => some '\x0c'
  | 'r' => some '\r'
  | 'e' => some '\x1b'
  | ' ' => some ' '
  | '"' => some '"'
  | '\\' => some '\\'
  | '/' => some '/'
  | 'N' => some (Char.ofNat 0x85)
  | '_' => some (Char.ofNat 0xA0)
  | 'L' => some (Char.ofNat 0x2028)
  | 'P' => some (Char.ofNat 0x2029)
  | _ => none

/-- How many digits follow the letter of an escape by code point. -/
def escapeWidth? : Char → Option Nat
  | 'x' => some 2
  | 'u' => some 4
  | 'U' => some 8
  | _ => none

/-- Counts the line ends of empty lines; a document marker must not stand in the way. -/
def quotedBreaks : Nat → Cursor → Except Fault (Nat × Cursor)
  | 0, _ => .error .malformed
  | fuel + 1, c =>
    if c.atSeparator then .error .malformed
    else
      let c := c.skipRun fun d => d == ' ' || d == '\t'
      if isBreak (c.peek 0) then do
        let (n, c) ← quotedBreaks fuel c.step
        .ok (n + 1, c)
      else .ok (0, c)

/-- The character an escape stands for, or the line ends it hides. -/
def readEscape (c : Cursor) : Scanned :=
  let letter := c.peek 0
  match namedEscape? letter, escapeWidth? letter with
  | some d, _ => .ok ([d], c.step)
  | none, some width =>
    match ((c.rest.drop 1).take width).mapM hexDigit? with
    | some digits =>
      if digits.length < width then .error .malformed
      else
        let code := digits.foldl (fun n d => n * 16 + d) 0
        if 0x10FFFF < code then .error .badCodePoint
        else .ok ([Char.ofNat code], c.skip (width + 1))
    | none => .error .malformed
  | none, none =>
    if isBreak letter then do
      let c := c.step
      let (n, c) ← quotedBreaks (c.rest.length + 1) c
      .ok (List.replicate n '\n', c)
    else .error .malformed

def readQuoted (double : Bool) : Nat → Cursor → Scanned
  | 0, _ => .error .malformed
  | fuel + 1, c => do
    let quote := if double then '"' else '\''
    let d := c.peek 0
    if isEnd d then .error .malformed
    else if d == quote then
      if !double && c.peek 1 == '\'' then
        let (text, c) ← readQuoted double fuel (c.skip 2)
        .ok ('\'' :: text, c)
      else .ok ([], c.step)
    else if double && d == '\\' then
      let (here, c) ← readEscape c.step
      let (text, c) ← readQuoted double fuel c
      .ok (here ++ text, c)
    else if d == ' ' || d == '\t' || isBreak d then
      let blanks := c.run fun e => e == ' ' || e == '\t'
      let c := c.skip blanks.length
      if isBreak (c.peek 0) then
        let c := c.step
        let (n, c) ← quotedBreaks (c.rest.length + 1) c
        let (text, c) ← readQuoted double fuel c
        .ok (foldBreaks n ++ text, c)
      else
        let (text, c) ← readQuoted double fuel c
        .ok (blanks ++ text, c)
    else
      let (text, c) ← readQuoted double fuel c.step
      .ok (d :: text, c)

/-! ## Plain -/

/-- Whether a plain text stops before the character `d` with `next` behind it. -/
def endsPlain (flow : Bool) (d next : Char) : Bool :=
  isBlankOrEnd d ||
    (d == ':' && (isBlankOrEnd next || (flow && ",[]\x7b\x7d".toList.contains next))) ||
    (flow && ",?[]\x7b\x7d".toList.contains d)

def plainRun (flow : Bool) : List Char → List Char
  | [] => []
  | d :: rest =>
    if endsPlain flow d (rest.head?.getD pastEnd) then [] else d :: plainRun flow rest

/-- The empty lines behind a line of a plain text; `none` at a document marker. -/
def plainBreaks : Nat → Cursor → Option Nat × Cursor
  | 0, c => (none, c)
  | fuel + 1, c =>
    if c.peek 0 == ' ' then plainBreaks fuel c.step
    else if isBreak (c.peek 0) then
      let c := c.step
      if c.atSeparator then (none, c)
      else
        match plainBreaks fuel c with
        | (some n, c) => (some (n + 1), c)
        | (none, c) => (none, c)
    else (some 0, c)

/-- The blanks behind a line of a plain text: what they fold to, whether a line ended, and the
place behind them. -/
def plainSpaces (c : Cursor) : List Char × Bool × Cursor :=
  let blanks := c.run (· == ' ')
  let c := c.skip blanks.length
  if isBreak (c.peek 0) then
    let c := c.step
    if c.atSeparator then ([], true, c)
    else
      match plainBreaks (c.rest.length + 1) c with
      | (some n, c) => (foldBreaks n, true, c)
      | (none, c) => ([], true, c)
  else (blanks, false, c)

/-- A plain text, whether a line ended last behind it, and the place behind it. `spaces` are the
blanks that go in front if more follows. -/
def readPlain (flow : Bool) (indent : Int) :
    Nat → (spaces : List Char) → (broken : Bool) → Cursor → List Char × Bool × Cursor
  | 0, _, broken, c => ([], broken, c)
  | fuel + 1, spaces, broken, c =>
    if c.peek 0 == '#' then ([], broken, c)
    else
      let here := plainRun flow c.rest
      if here.isEmpty then ([], broken, c)
      else
        let (next, broken, c) := plainSpaces (c.skip here.length)
        if next.isEmpty || c.peek 0 == '#' || (!flow && (c.column : Int) < indent) then
          (spaces ++ here, broken, c)
        else
          let (text, broken, c) := readPlain flow indent fuel next broken c
          (spaces ++ here ++ text, broken, c)

/-! ## Blocks -/

inductive Chomp
  | strip
  | clip
  | keep
  deriving DecidableEq, Repr

/-- The marks behind the sign of a block: what becomes of its end, and how far it is indented. -/
def readBlockHeader (c : Cursor) : Except Fault (Chomp × Option Nat × Cursor) := do
  let chomp? (d : Char) : Option Chomp :=
    if d == '+' then some .keep else if d == '-' then some .strip else none
  let width? (d : Char) : Except Fault (Option Nat) :=
    if d == '0' then .error .malformed
    else .ok (if d.isDigit then some (d.toNat - 48) else none)
  let (chomp, width, c) ← match chomp? (c.peek 0) with
    | some chomp => do
      let width ← width? (c.peek 1)
      pure (chomp, width, c.skip (if width.isSome then 2 else 1))
    | none => do
      match ← width? (c.peek 0) with
      | some width =>
        match chomp? (c.peek 1) with
        | some chomp => pure (chomp, some width, c.skip 2)
        | none => pure (.clip, some width, c.skip 1)
      | none => pure (.clip, none, c)
  if isSpaceOrEnd (c.peek 0) then .ok (chomp, width, c) else .error .malformed

/-- The empty lines in front of a block whose indentation is not given: their count, and the widest
indentation among them and the first line. -/
def blockIndentation : Nat → Cursor → Nat × Nat × Cursor
  | 0, c => (0, 0, c)
  | fuel + 1, c =>
    if c.peek 0 == ' ' then
      let c := c.step
      let (n, widest, d) := blockIndentation fuel c
      (n, max widest c.column, d)
    else if isBreak (c.peek 0) then
      let (n, widest, c) := blockIndentation fuel c.step
      (n + 1, widest, c)
    else (0, 0, c)

def skipIndent (c : Cursor) (indent : Nat) : Cursor :=
  c.skip (min (c.run (· == ' ')).length (indent - c.column))

def blockBreaks (indent : Nat) : Nat → Cursor → Nat × Cursor
  | 0, c => (0, c)
  | fuel + 1, c =>
    let c := skipIndent c indent
    if isBreak (c.peek 0) then
      let (n, c) := blockBreaks indent fuel c.step
      (n + 1, c)
    else (0, c)

/-- The lines of a block from here on.  Each comes behind the line ends in front of it; at the end
stand the last line's own end and the empty lines behind it. -/
def readBlockLines (folded : Bool) (chomp : Chomp) (indent : Nat) :
    Nat → (breaks : Nat) → Cursor → List Char × Cursor
  | 0, _, c => ([], c)
  | fuel + 1, breaks, c =>
    let before := List.replicate breaks '\n'
    let solid := !(c.peek 0 == ' ' || c.peek 0 == '\t')
    let line := c.run (!isBreakOrEnd ·)
    let c := c.skip line.length
    let ended := isBreak (c.peek 0)
    let c := if ended then c.step else c
    let (breaks, c) := blockBreaks indent (c.rest.length + 1) c
    if c.column == indent && !isEnd (c.peek 0) then
      -- Lines fold only between two that start without a blank.
      let between :=
        if folded && ended && solid && !(c.peek 0 == ' ' || c.peek 0 == '\t') then
          if breaks == 0 then [' '] else []
        else if ended then ['\n'] else []
      let (text, c) := readBlockLines folded chomp indent fuel breaks c
      (before ++ line ++ between ++ text, c)
    else
      let ending := if ended && chomp != .strip then ['\n'] else []
      let tail := if chomp == .keep then List.replicate breaks '\n' else []
      (before ++ line ++ ending ++ tail, c)

def readBlock (folded : Bool) (parentIndent : Int) (c : Cursor) : Scanned := do
  let (chomp, width, c) ← readBlockHeader c
  let c ← c.endOfLine
  let least := (max (parentIndent + 1) 1).toNat
  let (indent, breaks, c) := match width with
    | some width =>
      let indent := least + width - 1
      let (breaks, c) := blockBreaks indent (c.rest.length + 1) c
      (indent, breaks, c)
    | none =>
      let (breaks, widest, c) := blockIndentation (c.rest.length + 1) c
      (max least widest, breaks, c)
  if c.column == indent && !isEnd (c.peek 0) then
    .ok (readBlockLines folded chomp indent (c.rest.length + 1) breaks c)
  else
    .ok (if chomp == .keep then List.replicate breaks '\n' else [], c)

end CiteSync.Yaml
