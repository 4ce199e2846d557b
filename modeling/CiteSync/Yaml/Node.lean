import CiteSync.Yaml.Tag

/-!
# YAML nodes

A document as a tree of tagged texts, sequences and mappings.  A node may carry a name, and an
alias stands for the node of that name.
-/

namespace CiteSync.Yaml

inductive Node
  | scalar (name : Option String) (tag : Tag) (text : String)
  | seq (name : Option String) (tag : Tag) (children : List Node)
  | map (name : Option String) (tag : Tag) (pairs : List (Node × Node))
  | aliasOf (name : String)
  deriving Inhabited

/-- A document: its root, and the named nodes in it. -/
structure Document where
  root : Node
  named : List (String × Node)

abbrev Names := List (String × Node)

namespace Node

def tag : Node → Tag
  | scalar _ t _ => t
  | seq _ t _ => t
  | map _ t _ => t
  | aliasOf _ => .unknown

def name? : Node → Option String
  | scalar n _ _ => n
  | seq n _ _ => n
  | map n _ _ => n
  | aliasOf n => some n

/-- The node an alias stands for; any other node is itself. -/
def target (names : Names) : Node → Node
  | aliasOf n => ((names.find? (·.1 == n)).map (·.2)).getD (aliasOf n)
  | node => node

mutual

def count : Node → Nat
  | scalar .. => 1
  | seq _ _ children => countList children + 1
  | map _ _ pairs => countPairs pairs + 1
  | aliasOf _ => 1

def countList : List Node → Nat
  | [] => 0
  | n :: rest => count n + countList rest

def countPairs : List (Node × Node) → Nat
  | [] => 0
  | (k, v) :: rest => count k + count v + countPairs rest

end

end Node

end CiteSync.Yaml
