/-!
# Patterns

What is looked for in a text.  A pattern may match in several ways; they are tried in an order of
preference, in which an option is rather taken than left out and a repetition goes as far as it can.
A search finds the first place where there is a match, and the match that is preferred there.
-/

namespace CiteSync.Text

inductive Pattern
  /-- The start of the whole text, wherever a search begins. -/
  | start
  /-- The end of the text, or the place before a line feed that ends it. -/
  | stop
  | one (p : Char → Bool)
  | many (p : Char → Bool)
  | optional (p : Pattern)
  | either (p q : Pattern)
  | both (p q : Pattern)
  /-- A pattern whose match is asked for. -/
  | group (p : Pattern)

namespace Pattern

/-- A place in a text: what is behind it, and the group that was matched on the way, with the
position where it starts. -/
structure Place where
  pos : Nat
  rest : List Char
  group : Option (Nat × List Char) := none

/-- The places that a repetition may end at, the farthest first.  `nearer` are those before. -/
def repeats (p : Char → Bool) (group : Option (Nat × List Char)) (nearer : List Place) (pos : Nat) :
    List Char → List Place
  | [] => ⟨pos, [], group⟩ :: nearer
  | c :: rest =>
    if p c then repeats p group (⟨pos, c :: rest, group⟩ :: nearer) (pos + 1) rest
    else ⟨pos, c :: rest, group⟩ :: nearer

/-- The places that a pattern may end at, in the order of preference. -/
def ends : Pattern → Place → List Place
  | start, here => if here.pos = 0 then [here] else []
  | stop, here => if here.rest = [] ∨ here.rest = ['\n'] then [here] else []
  | one p, here =>
    match here.rest with
    | c :: rest => if p c then [⟨here.pos + 1, rest, here.group⟩] else []
    | [] => []
  | many p, here => repeats p here.group [] here.pos here.rest
  | optional p, here => p.ends here ++ [here]
  | either p q, here => p.ends here ++ q.ends here
  | both p q, here => (p.ends here).flatMap q.ends
  | group p, here => (p.ends here).map fun reached =>
      { reached with group := some (here.pos, here.rest.take (reached.pos - here.pos)) }

def searchFrom (p : Pattern) (pos : Nat) (rest : List Char) : Option Place :=
  match (p.ends ⟨pos, rest, none⟩).head? with
  | some reached => some reached
  | none =>
    match rest with
    | [] => none
    | _ :: rest => p.searchFrom (pos + 1) rest

def search (p : Pattern) (cs : List Char) (first : Nat) : Option Place :=
  p.searchFrom first (cs.drop first)

end Pattern

end CiteSync.Text
