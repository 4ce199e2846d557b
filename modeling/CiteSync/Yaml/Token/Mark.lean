import CiteSync.Yaml.Token.Cursor

/-!
# Names, tags and preamble lines

The marks that go in front of a value (anchors, aliases, tags) and the lines that go in front of a
document.
-/

namespace CiteSync.Yaml

/-! ## Names -/

/-- A name and the place behind it, where something that may follow a name has to stand. -/
def readName (mayFollow : Char → Bool) (c : Cursor) : Except Fault (String × Cursor) :=
  let name := c.run isNameChar
  let c := c.skip name.length
  if name.isEmpty || !mayFollow (c.peek 0) then .error .malformed
  else .ok (String.ofList name, c)

def followsAnchor (c : Char) : Bool := isBlankOrEnd c || "?:,]\x7d%@\x60".toList.contains c

/-! ## Tags -/

def isUriChar (c : Char) : Bool :=
  c.isAlphanum || "-;/?:@&=+$,_.!~*'()[]%".toList.contains c

def readUriBytes : Nat → Cursor → Except Fault (List UInt8 × Cursor)
  | 0, _ => .error .malformed
  | fuel + 1, c =>
    if c.peek 0 == '%' then
      match hexDigit? (c.peek 1), hexDigit? (c.peek 2) with
      | some a, some b => do
        let (bytes, c) ← readUriBytes fuel (c.skip 3)
        .ok (UInt8.ofNat (a * 16 + b) :: bytes, c)
      | _, _ => .error .malformed
    else .ok ([], c)

/-- The text of a tag; escapes stand for the bytes of characters. -/
def readUri : Nat → Cursor → Except Fault (List Char × Cursor)
  | 0, c => .ok ([], c)
  | fuel + 1, c =>
    if c.peek 0 == '%' then do
      let (bytes, c) ← readUriBytes (c.rest.length + 1) c
      match String.fromUTF8? (ByteArray.mk bytes.toArray) with
      | some s =>
        let (text, c) ← readUri fuel c
        .ok (s.toList ++ text, c)
      | none => .error .malformed
    else if isUriChar (c.peek 0) then do
      let d := c.peek 0
      let (text, c) ← readUri fuel c.step
      .ok (d :: text, c)
    else .ok ([], c)

def readTagText (c : Cursor) : Except Fault (String × Cursor) := do
  let empty := !isUriChar (c.peek 0)
  let (text, c) ← readUri (c.rest.length + 1) c
  if empty then .error .malformed else .ok (String.ofList text, c)

/-- The handle of a tag: one exclamation mark, or a name between two. -/
def readHandle (c : Cursor) : Except Fault (String × Cursor) :=
  if c.peek 0 != '!' then .error .malformed
  else
    let name := c.step.run isNameChar
    if c.peek 1 == ' ' then .ok ("!", c.step)
    else if c.peek (name.length + 1) == '!' then
      .ok ("!" ++ String.ofList name ++ "!", c.skip (name.length + 2))
    else .error .malformed

/-- A tag: in angle brackets, a lone mark, or with a handle. -/
def readTag (c : Cursor) : Except Fault (TagText × Cursor) := do
  let (tag, c) ←
    if c.peek 1 == '<' then do
      let (rest, c) ← readTagText (c.skip 2)
      if c.peek 0 == '>' then .ok (⟨none, rest⟩, c.step) else .error Fault.malformed
    else if isBlankOrEnd (c.peek 1) then .ok (⟨none, "!"⟩, c.step)
    else do
      let word := (c.step.run fun d => !isSpaceOrEnd d)
      let (handle, c) ← if word.contains '!' then readHandle c else .ok ("!", c.step)
      let (rest, c) ← readTagText c
      .ok (⟨some handle, rest⟩, c)
  if isSpaceOrEnd (c.peek 0) then .ok (tag, c) else .error .malformed

/-! ## Preamble lines -/

def readVersionNumber (c : Cursor) : Except Fault (Nat × Cursor) :=
  let digits := c.run Char.isDigit
  if digits.isEmpty then .error .malformed
  else .ok (digits.foldl (fun n d => n * 10 + (d.toNat - 48)) 0, c.skip digits.length)

def readPreamble (c : Cursor) : Except Fault (Preamble × Cursor) := do
  let (name, c) ← readName isSpaceOrEnd c.step
  if name == "YAML" then do
    let (major, c) ← readVersionNumber c.skipSpaces
    if c.peek 0 != '.' then .error .malformed
    else
      let (_, c) ← readVersionNumber c.step
      if isSpaceOrEnd (c.peek 0) then .ok (.version major, ← c.endOfLine) else .error .malformed
  else if name == "TAG" then do
    let (handle, c) ← readHandle c.skipSpaces
    if c.peek 0 != ' ' then .error .malformed
    else
      let (expansion, c) ← readTagText c.skipSpaces
      if isSpaceOrEnd (c.peek 0) then .ok (.handle handle expansion, ← c.endOfLine)
      else .error .malformed
  else .ok (.unknown, ← (c.skipRun (!isBreakOrEnd ·)).endOfLine)

end CiteSync.Yaml
