import CiteSync.FrontMatter.Fences
import CiteSync.Yaml.Value.Builder

/-!
# The directive

A document says in its metadata which part of the library it cites.  The directive is a flag for the
whole library or nothing, the name of a collection, or a list of names.  The last block that has
the directive decides, and without one the whole library is used.
-/

namespace CiteSync.FrontMatter

def directiveName : String := "zotero"

inductive Scope
  | all
  | nothing
  | named (names : List String)
  deriving DecidableEq, Repr

/-- The collections to start from, none for the whole library. -/
def Scope.roots : Scope → List String
  | named names => names
  | all => []
  | nothing => []

/-- The directive of a block.  A block that does not follow the grammar has none. -/
def directive? (block : String) : Except Yaml.Fault (Option Yaml.Value) :=
  match Yaml.load (withoutFences block.toList) with
  | .ok data => .ok (data.entry? directiveName)
  | .error .malformed => .ok none
  | .error fault => .error fault

/-- What a directive asks for; one of another shape asks for nothing in particular. -/
def scopeOf : Yaml.Value → Scope
  | .bool true => .all
  | .bool false => .nothing
  | .str name => .named [name]
  | .list names => .named (Yaml.elementTexts names)
  | _ => .all

def scope (blocks : List String) : Except Yaml.Fault Scope := do
  let found ← blocks.mapM directive?
  -- Blocks without a directive are passed over, also behind the one that decides.
  let values := found.filterMap fun v => v.bind Yaml.Value.present?
  return (values.getLast?.map scopeOf).getD .all

/-! ## Writing a directive -/

def escapeChar (c : Char) : List Char :=
  if c == '"' then ['\\', '"']
  else if c == '\\' then ['\\', '\\']
  else if 32 ≤ c.toNat && c.toNat < 127 then [c]
  else '\\' :: 'U' :: Text.hexDigits 8 c.toNat

def quoteName (name : String) : List Char :=
  '"' :: name.toList.flatMap escapeChar ++ ['"']

/-- A block whose directive names collections. -/
def writeBlock (names : List String) : String :=
  String.ofList (directiveName.toList ++ ':' :: '\n' :: names.flatMap fun name =>
    '-' :: ' ' :: quoteName name ++ ['\n'])

end CiteSync.FrontMatter
