import CiteSync.Remote.Library

/-!
# Scripted libraries

A remote library whose answers are laid down beforehand, cycle by cycle, to try out what depends on
the course of events.  It keeps a journal of what it was asked.
-/

namespace CiteSync.Remote

open Library

abbrev Scripted (α : Type) := Except Failure (Reply α)

structure ScriptedCycle where
  /-- Without one of its own, the answer about the tree has the shapes of the collections. -/
  specs : Option (Scripted (List Spec)) := none
  collections : Scripted (List Collection)
  closing : Bool := false

def emptyCycle : ScriptedCycle where
  collections := .ok (.success [] none)

def ScriptedCycle.specsAnswer (c : ScriptedCycle) : Scripted (List Spec) :=
  c.specs.getD <|
    match c.collections with
    | .ok reply => .ok (.success ((reply.message.getD []).map Collection.spec) none)
    | .error _ => .ok (.success [] none)

inductive Question
  | specs (path : Option String) (roots : List String)
  | collections (roots : List String) (known : List Spec) (useCache : Bool)
  | exported (ids : List String) (format : String) (library : Int)

structure Script where
  coming : List ScriptedCycle := []
  current : ScriptedCycle := emptyCycle
  exported : Except Failure (Option (Reply String)) := .ok none
  questions : List Question := []

namespace Script

def asked (s : Script) (q : Question) : Script := { s with questions := s.questions ++ [q] }

/-- Goes on to the next cycle, or to an empty one if there is none. -/
def advance (s : Script) : Script :=
  { s with coming := s.coming.drop 1, current := s.coming.head?.getD emptyCycle }

/-- The library that follows a script. -/
def library : RemoteLibrary Script where
  specs document roots s :=
    let s := (s.asked (.specs document.path roots)).advance
    ({ result := s.current.specsAnswer }, s)
  collections _ roots known useCache s :=
    ({ result := s.current.collections, closing := s.current.closing },
      s.asked (.collections roots known useCache))
  exportText ids format library s :=
    ({ result := s.exported }, s.asked (.exported ids format library))

end Script

end CiteSync.Remote
