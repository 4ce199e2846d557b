import CiteSync.Yaml.Node
import CiteSync.Yaml.Token.Lexer

/-!
# From tokens to nodes

Puts the tokens of a text together to one document.  A name may be given once and used only behind
the place where it is given.
-/

namespace CiteSync.Yaml

/-- The tokens still to be read and what has been learnt from those before them. -/
structure TokenStream where
  tokens : List Token
  /-- What is wrong behind the last token. -/
  ending : Fault
  handles : List (String × String)
  given : List String := []
  /-- The named nodes that are complete. -/
  named : Names := []

abbrev NodeReader := StateT TokenStream (Except Fault)

/-- The handles that need no preamble. -/
def standardHandles : List (String × String) := [("!", "!"), ("!!", tagBase)]

namespace NodeReader

def malformed {α : Type} : NodeReader α := throw .malformed

def peek : NodeReader Token := do
  match (← get).tokens with
  | t :: _ => pure t
  | [] => throw (← get).ending

def skip : NodeReader Unit := modify fun s => { s with tokens := s.tokens.drop 1 }

def accept (t : Token) : NodeReader Bool := do
  if (← peek) == t then do skip; pure true else pure false

def expect (t : Token) : NodeReader Unit := do
  if ← accept t then pure () else malformed

def expand (t : TagText) : NodeReader String := do
  match t.handle with
  | none => pure t.rest
  | some h =>
    match (← get).handles.find? (·.1 == h) with
    | some (_, expansion) => pure (expansion ++ t.rest)
    | none => malformed

/-- The name and tag in front of a node, in either order. -/
def properties : NodeReader (Option String × Option String) := do
  let anchor? : NodeReader (Option String) := do
    match ← peek with
    | .anchor n => do skip; pure (some n)
    | _ => pure none
  let tag? : NodeReader (Option TagText) := do
    match ← peek with
    | .tag t => do skip; pure (some t)
    | _ => pure none
  let anchor ← anchor?
  let tag ← tag?
  let anchor ← if anchor.isNone && tag.isSome then anchor? else pure anchor
  pure (anchor, ← tag.mapM expand)

/-- Notes that a name is given to the node that starts here. -/
def give (name : Option String) : NodeReader Unit := do
  match name with
  | some n =>
    if (← get).given.contains n then malformed
    else modify fun s => { s with given := n :: s.given }
  | none => pure ()

def complete (node : Node) : NodeReader Node := do
  match node, node.name? with
  | .aliasOf _, _ => pure node
  | _, some n => do
    modify fun s => { s with named := (n, node) :: s.named }
    pure node
  | _, none => pure node

/-- A text with the tag it carries or implies. -/
def textNode (name tag : Option String) (text : String) (plain : Bool) : Node :=
  match tag with
  | none => .scalar name (if plain then implicitTag text else .str) text
  | some "!" => .scalar name (implicitTag text) text
  | some t => .scalar name (Tag.ofName t) text

def collectionTag (tag : Option String) (standard : Tag) : Tag :=
  match tag with
  | none => standard
  | some "!" => standard
  | some t => Tag.ofName t

/-- A node that is left out. -/
def empty : Node := textNode none none "" true

def nextIs (ts : List Token) : NodeReader Bool := do
  pure (ts.contains (← peek))

mutual

/-- A node; inside a block it may be a block, and as a mapping's value a sequence that is not
indented further. -/
def node : Nat → (block indentless : Bool) → NodeReader Node
  | 0, _, _ => malformed
  | fuel + 1, block, indentless => do
    match ← peek with
    | .aliasOf n => do
      skip
      -- A name counts from where it is given, so a node may refer to the one that it is in.
      if (← get).given.contains n then pure (.aliasOf n) else malformed
    | _ => do
      let (name, tag) ← properties
      match ← peek with
      | .scalar text plain => do
        skip
        give name
        complete (textNode name tag text plain)
      | .flowSequenceStart => do
        skip
        give name
        complete (.seq name (collectionTag tag .seq) (← flowEntries fuel true))
      | .flowMappingStart => do
        skip
        give name
        complete (.map name (collectionTag tag .map) (← flowPairs fuel true))
      | t =>
        if indentless && t == .blockEntry then do
          give name
          complete (.seq name (collectionTag tag .seq) (← indentlessEntries fuel))
        else if block && t == .blockSequenceStart then do
          skip
          give name
          complete (.seq name (collectionTag tag .seq) (← blockEntries fuel))
        else if block && t == .blockMappingStart then do
          skip
          give name
          complete (.map name (collectionTag tag .map) (← blockPairs fuel))
        else if name.isSome || tag.isSome then do
          give name
          complete (textNode name tag "" true)
        else malformed

/-- A node, left out if one of these tokens comes next. -/
def nodeUnless : Nat → (stop : List Token) → (block indentless : Bool) → NodeReader Node
  | 0, _, _, _ => malformed
  | fuel + 1, stop, block, indentless => do
    if ← nextIs stop then pure empty else node fuel block indentless

def blockEntries : Nat → NodeReader (List Node)
  | 0 => malformed
  | fuel + 1 => do
    if ← accept .blockEntry then do
      let n ← nodeUnless fuel [.blockEntry, .blockEnd] true false
      pure (n :: (← blockEntries fuel))
    else do
      expect .blockEnd
      pure []

def indentlessEntries : Nat → NodeReader (List Node)
  | 0 => malformed
  | fuel + 1 => do
    if ← accept .blockEntry then do
      let n ← nodeUnless fuel [.blockEntry, .key, .value, .blockEnd] true false
      pure (n :: (← indentlessEntries fuel))
    else pure []

def blockPairs : Nat → NodeReader (List (Node × Node))
  | 0 => malformed
  | fuel + 1 => do
    if ← accept .key then do
      let stop := [Token.key, .value, .blockEnd]
      let k ← nodeUnless fuel stop true true
      let v ← if ← accept .value then nodeUnless fuel stop true true else pure empty
      pure ((k, v) :: (← blockPairs fuel))
    else do
      expect .blockEnd
      pure []

def flowEntries : Nat → (first : Bool) → NodeReader (List Node)
  | 0, _ => malformed
  | fuel + 1, first => do
    if ← accept .flowSequenceEnd then pure []
    else do
      if !first then expect .flowEntry
      if ← accept .key then do
        let k ← nodeUnless fuel [.value, .flowEntry, .flowSequenceEnd] false false
        let v ← if ← accept .value then nodeUnless fuel [.flowEntry, .flowSequenceEnd] false false
          else pure empty
        -- A pair among the entries of a sequence is a mapping of its own.
        pure (.map none .map [(k, v)] :: (← flowEntries fuel false))
      else if ← accept .flowSequenceEnd then pure []
      else do
        let n ← node fuel false false
        pure (n :: (← flowEntries fuel false))

def flowPairs : Nat → (first : Bool) → NodeReader (List (Node × Node))
  | 0, _ => malformed
  | fuel + 1, first => do
    if ← accept .flowMappingEnd then pure []
    else do
      if !first then expect .flowEntry
      if ← accept .key then do
        let k ← nodeUnless fuel [.value, .flowEntry, .flowMappingEnd] false false
        let v ← if ← accept .value then nodeUnless fuel [.flowEntry, .flowMappingEnd] false false
          else pure empty
        pure ((k, v) :: (← flowPairs fuel false))
      else if ← accept .flowMappingEnd then pure []
      else do
        let k ← node fuel false false
        pure ((k, empty) :: (← flowPairs fuel false))

end

/-! ## The document -/

/-- Reads preamble lines: at most one version, which must be of the first generation, and handles,
each at most once. -/
def preamble : Nat → (version : Bool) → (handles : List (String × String)) → NodeReader Unit
  | 0, _, _ => malformed
  | fuel + 1, version, handles => do
    match ← peek with
    | .preamble (.version major) => do
      skip
      if version || major != 1 then malformed else preamble fuel true handles
    | .preamble (.handle name expansion) => do
      skip
      if handles.any (·.1 == name) then malformed
      else preamble fuel version ((name, expansion) :: handles)
    | .preamble .unknown => do
      skip
      preamble fuel version handles
    | _ => modify fun s => { s with handles := handles ++ standardHandles }

def root (fuel : Nat) : NodeReader (Option Node) := do
  match ← peek with
  | .streamEnd => pure none
  | .preamble _ => do preamble fuel false []; content
  | .documentStart => do preamble fuel false []; content
  | _ => some <$> node fuel true false
where
  content : NodeReader (Option Node) := do
    expect .documentStart
    match ← peek with
    | .preamble _ => pure (some empty)
    | .documentStart => pure (some empty)
    | .documentEnd => pure (some empty)
    | .streamEnd => pure (some empty)
    | _ => some <$> node fuel true false

def skipEnds : Nat → NodeReader Unit
  | 0 => pure ()
  | fuel + 1 => do if ← accept .documentEnd then skipEnds fuel

def document (fuel : Nat) : NodeReader (Option Document) := do
  match ← root fuel with
  | none => pure none
  | some r => do
    skipEnds fuel
    expect .streamEnd
    pure (some ⟨r, (← get).named⟩)

end NodeReader

def isYamlChar (c : Char) : Bool :=
  let n := c.toNat
  n == 9 || n == 10 || n == 13 || (32 ≤ n && n ≤ 126) || n == 0x85 || (0xA0 ≤ n && n ≤ 0xFFFD) ||
    0x10000 ≤ n

def readDocument (cs : List Char) : Except Fault (Option Document) :=
  if !cs.all isYamlChar then .error .malformed
  else
    let (ts, ending) := tokens cs
    let fuel := 4 * ts.size + 8
    let stream : TokenStream :=
      { tokens := ts.toList, ending := ending.getD .malformed, handles := standardHandles }
    match (NodeReader.document fuel).run stream with
    | .ok (d, _) => .ok d
    | .error e => .error e

end CiteSync.Yaml
