import CiteSync.Yaml.Node.Reader
import CiteSync.Yaml.Value.Scalar

/-!
# From nodes to values

Applies the tags of a document.  Texts are read where they are met; the contents of a collection
are read after everything on its own level, so that of several faults the one on the outermost level
is reported.  A merge key puts the entries of other mappings in front of a mapping's own.
-/

namespace CiteSync.Yaml

/-! ## Merging -/

/-- The pairs of a mapping behind those it merges. `open` names the mappings being merged. -/
def mergedPairs (names : Names) :
    Nat → (opened : List String) → Node → Except Fault (List (Node × Node))
  | 0, _, _ => .ok []
  | fuel + 1, opened, node =>
    match node.target names with
    | .map name _ pairs => do
      let opened' := name.toList ++ opened
      let merge (v : Node) : Except Fault (List (Node × Node)) := do
        -- A mapping that merges itself, directly or not, adds nothing.
        if v.name?.any opened'.contains then .ok []
        else
          match v.target names with
          | .map .. => mergedPairs names fuel opened' v
          | .seq _ _ children => do
            let parts ← children.mapM fun c =>
              match c.target names with
              | .map .. => mergedPairs names fuel opened' c
              | _ => .error Fault.malformed
            -- Later entries win, so the first mapping goes last.
            .ok parts.reverse.flatten
          | _ => .error .malformed
      let isMerge (p : Node × Node) : Bool := (p.1.target names).tag == .merge
      let merged ← (pairs.filter isMerge).mapM fun p => merge p.2
      .ok (merged.flatten ++ pairs.filter (!isMerge ·))
    | _ => .error .malformed

/-- A key, with the mark for defaults read as a text. -/
def keyNode (names : Names) (key : Node) : Node :=
  match key.target names with
  | .scalar name .value text => .scalar name .str text
  | node => node

/-! ## Faults -/

/-- The text of a node: its own, or the default entry of a mapping. -/
def defaultText (names : Names) : Nat → Node → Except Fault String
  | 0, _ => .error .malformed
  | fuel + 1, node =>
    match node.target names with
    | .scalar _ _ text => .ok text
    | .map _ _ pairs =>
      match pairs.find? fun p => (p.1.target names).tag == .value with
      | some p => defaultText names fuel p.2
      | none => .error .malformed
    | _ => .error .malformed

def Tag.isCollection (t : Tag) : Bool :=
  t == .seq || t == .map || t == .set || t == .omap || t == .pairs

/-- Reads a node as far as the level it is on; the collections that are left for later. -/
def surface (names : Names) (fuel : Nat) (node : Node) : Except Fault (List Node) :=
  let node := node.target names
  if node.tag.isCollection then .ok [node]
  else do
    let text ← defaultText names fuel node
    let _ ← readText node.tag text
    .ok []

def onlyPair (names : Names) (node : Node) : Except Fault (Node × Node) :=
  match node.target names with
  | .map _ _ [pair] => .ok pair
  | _ => .error .malformed

/-- Reads the contents of a collection; the collections in it that are left for later. -/
def contents (names : Names) (fuel : Nat) (node : Node) : Except Fault (List Node) :=
  match node.tag, node with
  | .seq, .seq _ _ children => do
    .ok (← children.mapM (surface names fuel)).flatten
  | .map, .map .. => pairs
  | .set, .map .. => pairs
  | .omap, .seq _ _ children => entries children
  | .pairs, .seq _ _ children => entries children
  | _, _ => .error .malformed
where
  pairs : Except Fault (List Node) := do
    let found ← (← mergedPairs names fuel [] node).mapM fun p => do
      let later ← surface names fuel (keyNode names p.1)
      -- A key that is a collection cannot be looked up.
      if later.isEmpty then surface names fuel p.2 else .error .malformed
    .ok found.flatten
  entries (children : List Node) : Except Fault (List Node) := do
    let found ← children.mapM fun c => do
      let (k, v) ← onlyPair names c
      let ks ← surface names fuel k
      .ok (ks ++ (← surface names fuel v))
    .ok found.flatten

/-- Reads level after level; `seen` names the nodes that have been read. -/
def checkLevels (names : Names) (fuel : Nat) :
    Nat → (seen : List String) → List Node → Except Fault Unit
  | 0, _, _ => .ok ()
  | _ + 1, _, [] => .ok ()
  | left + 1, seen, level => do
    let fresh := level.filter fun n => !n.name?.any seen.contains
    let later ← fresh.mapM (contents names fuel)
    checkLevels names fuel left (fresh.filterMap Node.name? ++ seen) later.flatten

/-! ## Values -/

/-- The value of a node without faults. `around` are the names of the collections it is in,
innermost first. -/
def build (names : Names) : Nat → (around : List (Option String)) → Node → Value
  | 0, _, _ => .null
  | fuel + 1, around, node =>
    match node.name?.bind fun n => around.findIdx? (· == some n) with
    | some levels => .loop levels
    | none =>
      let node := node.target names
      let inside := node.name? :: around
      let mapped : List (Value × Value) :=
        match mergedPairs names fuel [] node with
        | .ok pairs => pairs.foldl (fun entries p =>
            Value.insert entries (build names fuel inside (keyNode names p.1))
              (build names fuel inside p.2)) []
        | .error _ => []
      let listed (children : List Node) : List Value :=
        children.map fun c =>
          match onlyPair names c with
          | .ok (k, v) => .pair (build names fuel inside k) (build names fuel inside v)
          | .error _ => .null
      match node.tag, node with
      | .seq, .seq _ _ children => .list (children.map (build names fuel inside))
      | .map, _ => .map mapped
      | .set, _ => .set (mapped.map (·.1))
      | .omap, .seq _ _ children => .list (listed children)
      | .pairs, .seq _ _ children => .list (listed children)
      | tag, _ =>
        match defaultText names fuel node with
        | .ok text => ((readText tag text).toOption).getD .null
        | .error _ => .null

def Document.value (d : Document) : Except Fault Value := do
  let size := d.root.count + Node.countPairs (d.named.map fun p => (p.2, p.2)) + 1
  let later ← surface d.named size d.root
  checkLevels d.named size size [] later
  .ok (build d.named size [] d.root)

/-- The value a text holds, nothing if it holds no document. -/
def load (cs : List Char) : Except Fault Value := do
  match ← readDocument cs with
  | some d => d.value
  | none => .ok .null

end CiteSync.Yaml
