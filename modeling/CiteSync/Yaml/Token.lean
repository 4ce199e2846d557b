/-!
# YAML tokens

The marks and texts a YAML document is made of, in the order in which they are read.  The starts
and ends of indented collections are tokens too, although no character stands for them.
-/

namespace CiteSync.Yaml

inductive Fault
  /-- The text does not follow the grammar, or uses a tag that is not known. -/
  | malformed
  /-- An escape names a code point past the last one. -/
  | badCodePoint
  /-- A text that its tag does not admit. -/
  | badInt (base : Nat) (text : String)
  | overlongInt (digits : Nat)
  | badFloat (text : String)
  | badBool (text : String)
  | badTimestamp
  | emptyNumber
  /-- A date or time of day that the calendar does not have. -/
  | badYear (year : Nat)
  | badMonth
  | badDay
  | badHour
  | badMinute
  | badSecond
  /-- A distance from universal time of a day or more, in seconds. -/
  | badOffset (seconds : Int)
  deriving DecidableEq, Repr

/-- A tag as it is written: a handle to look up, if any, and what follows it. -/
structure TagText where
  handle : Option String
  rest : String
  deriving DecidableEq, Repr

/-- A line in front of a document that tells how to read it. -/
inductive Preamble
  | version (major : Nat)
  | handle (name expansion : String)
  | unknown
  deriving DecidableEq, Repr

inductive Token
  | streamEnd
  | preamble (line : Preamble)
  | documentStart
  | documentEnd
  | blockSequenceStart
  | blockMappingStart
  | blockEnd
  | flowSequenceStart
  | flowSequenceEnd
  | flowMappingStart
  | flowMappingEnd
  | flowEntry
  | blockEntry
  | key
  | value
  | aliasOf (name : String)
  | anchor (name : String)
  | tag (text : TagText)
  | scalar (text : String) (plain : Bool)
  deriving DecidableEq, Repr

end CiteSync.Yaml
