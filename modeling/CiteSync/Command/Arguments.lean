import CiteSync.Text.Blank
import CiteSync.Text.Digit
import CiteSync.Text.Quoted
import CiteSync.Text.Search

/-!
# Arguments of a program

Reads the words of a command line by a grammar of options and at most one argument that is not an
option.  A long option may be shortened as long as it is clear which one is meant, its value may
follow behind an equals sign, and behind two dashes no word is an option any more.
-/

namespace CiteSync.Command

/-! ## Grammars -/

structure OptionRule where
  names : List String
  takesValue : Bool := false
  /-- What is wrong with a value, if anything is. -/
  objection? : String → Option String := fun _ => none

/-- What a program takes besides options. -/
inductive Operand
  | none
  | word (name : String)
  /-- A word of a choice under a name, and everything behind it. -/
  | choice (name : String) (words : List String)

structure Grammar where
  program : String
  options : List OptionRule
  operand : Operand

/-- What was read: the values of options by their first names, the words of the operand, and the
words that have no place. -/
structure Reading where
  values : List (String × String) := []
  operand : Option (List String) := none
  extras : List String := []

inductive Refusal
  | help
  | usage (program message : String)
  deriving DecidableEq, Repr

def Refusal.line? : Refusal → Option String
  | help => none
  | usage program message => some (program ++ ": error: " ++ message)

/-! ## Words -/

/-- An option that a word may stand for. -/
structure Meant where
  rule : OptionRule
  name : String
  /-- The text behind an equals sign. -/
  value : Option String := none
  /-- The letters behind a name of one letter. -/
  tail : List Char := []

inductive Word
  | plain (s : String)
  | dashes
  | option (s : String) (meant : Option Meant)

def Word.text : Word → String
  | plain s => s
  | dashes => "--"
  | option s _ => s

def Word.isOption : Word → Bool
  | option .. => true
  | _ => false

def splitEquals (s : String) : Option (String × String) :=
  let cs := s.toList
  match cs.dropWhile (· != '=') with
  | _ :: rest => some (String.ofList (cs.takeWhile (· != '=')), String.ofList rest)
  | [] => none

/-- Digits to the end of a word or a line feed there. -/
def endsInDigits (cs : List Char) : Bool :=
  let digits := cs.takeWhile Text.isDecimal
  let rest := cs.drop digits.length
  !digits.isEmpty && (rest.isEmpty || rest == ['\n'])

def isNegativeNumber (s : String) : Bool :=
  match s.toList with
  | '-' :: cs =>
    endsInDigits cs ||
      match cs.dropWhile Text.isDecimal with
      | '.' :: rest => endsInDigits rest
      | _ => false
  | _ => false

namespace Grammar

def names (g : Grammar) : List (String × OptionRule) :=
  g.options.flatMap fun o => o.names.map (·, o)

def optionOf? (g : Grammar) (name : String) : Option OptionRule :=
  (g.names.find? (·.1 == name)).map (·.2)

/-- The options that a shortened word may stand for. -/
def shortened (g : Grammar) (s : String) : List Meant :=
  if Text.startsWith s "--" then
    let (start, value) := match splitEquals s with
      | some (start, value) => (start, some value)
      | none => (s, none)
    (g.names.filter fun n => Text.startsWith n.1 start).map fun n =>
      { rule := n.2, name := n.1, value }
  else
    let short := String.ofList (s.toList.take 2)
    g.names.filterMap fun n =>
      if n.1 == short then some { rule := n.2, name := n.1, tail := s.toList.drop 2 }
      else if Text.startsWith n.1 s then some { rule := n.2, name := n.1 }
      else none

def refuse (g : Grammar) (message : String) : Refusal := .usage g.program message

def refuseOption (g : Grammar) (rule : OptionRule) (message : String) : Refusal :=
  g.refuse ("argument " ++ Text.join "/" rule.names ++ ": " ++ message)

/-- What a word before the two dashes is. -/
def readWord (g : Grammar) (s : String) : Except Refusal Word :=
  if !Text.startsWith s "-" || s == "-" then .ok (.plain s)
  else
    match g.optionOf? s with
    | some rule => .ok (.option s (some { rule, name := s }))
    | none =>
      let joined := (splitEquals s).bind fun (name, value) =>
        (g.optionOf? name).map fun rule => ({ rule, name, value := some value } : Meant)
      match joined with
      | some meant => .ok (.option s (some meant))
      | none =>
        -- A shortened name comes last, and only if one option alone can be meant.
        match g.shortened s with
        | [meant] => .ok (.option s (some meant))
        | [] =>
          if isNegativeNumber s || s.toList.contains ' ' then .ok (.plain s)
          else .ok (.option s none)
        | several => .error (g.refuse ("ambiguous option: " ++ s ++ " could match " ++
            Text.join ", " (several.map (·.name))))

def readWords (g : Grammar) : List String → Except Refusal (List Word)
  | [] => .ok []
  | "--" :: rest => .ok (.dashes :: rest.map .plain)
  | s :: rest => do return (← g.readWord s) :: (← readWords g rest)

/-! ## Reading -/

def withoutDashes (words : List Word) : List String := (words.map Word.text).erase "--"

/-- The words that the operand takes from the front, if it takes any. -/
def operandWords (g : Grammar) (words : List Word) : Nat :=
  let dashes := (words.takeWhile fun w => match w with
    | .dashes => true
    | _ => false).length
  match g.operand, words.drop dashes with
  | .word _, .plain _ :: rest =>
    dashes + 1 + (rest.takeWhile fun w => match w with
      | .dashes => true
      | _ => false).length
  | .choice _ _, .plain _ :: _ => words.length
  | _, _ => 0

def operandValue (g : Grammar) (words : List Word) : Except Refusal (List String) :=
  match g.operand with
  | .choice name choices =>
    let texts := words.map Word.text
    let first := texts.headD ""
    if choices.contains first then .ok texts
    else .error (g.refuse ("argument " ++ name ++ ": invalid choice: " ++ Text.quoted first ++
      " (choose from " ++ Text.join ", " (choices.map Text.quoted) ++ ")"))
  | _ => .ok (withoutDashes words)

/-- A value that has no place. -/
def ignored (g : Grammar) (rule : OptionRule) (value : String) : Refusal :=
  g.refuseOption rule ("ignored explicit argument " ++ Text.quoted value)

/-- The options that letters behind an option stand for, each letter for one; the first letter that
stands for none ends them. -/
def readTail (g : Grammar) (rule : OptionRule) : List Char → Except Refusal (List OptionRule)
  | [] => .ok []
  | '-' :: rest => .error (g.ignored rule (String.ofList ('-' :: rest)))
  | letter :: rest =>
    match g.optionOf? (String.ofList ['-', letter]), rest with
    | none, _ => .ok []
    | some next, '=' :: value => .error (g.ignored next (String.ofList value))
    | some next, rest => do return next :: (← readTail g next rest)

def readFlags (g : Grammar) (meant : Meant) : Except Refusal (List OptionRule) :=
  match meant.value with
  | some value => .error (g.ignored meant.rule value)
  | none => do return meant.rule :: (← g.readTail meant.rule meant.tail)

def helpName : String := "-h"

/-- Notes the value of an option, unless there is something wrong with it. -/
def takeValue (g : Grammar) (rule : OptionRule) (value : String) (r : Reading) :
    Except Refusal Reading :=
  match rule.objection? value with
  | some message => .error (g.refuseOption rule message)
  | none => .ok { r with values := r.values ++ [(rule.names.headD "", value)] }

def takeFlag (r : Reading) (rule : OptionRule) : Except Refusal Reading :=
  if rule.names.contains helpName then .error .help
  else .ok { r with values := r.values ++ [(rule.names.headD "", "")] }

/-- Reads words, so many steps at most. -/
def readFrom (g : Grammar) : Nat → List Word → Reading → Except Refusal Reading
  | 0, _, r => .ok r
  | _ + 1, [], r => .ok r
  | left + 1, .option s none :: rest, r =>
    readFrom g left rest { r with extras := r.extras ++ [s] }
  | left + 1, .option _ (some meant) :: rest, r =>
    if meant.rule.takesValue then
      match meant.value, meant.tail, rest with
      | some value, _, _ => do readFrom g left rest (← g.takeValue meant.rule value r)
      | none, [], .plain value :: rest => do
        readFrom g left rest (← g.takeValue meant.rule value r)
      | none, [], _ => .error (g.refuseOption meant.rule "expected one argument")
      | none, tail, _ => do
        readFrom g left rest (← g.takeValue meant.rule (String.ofList tail) r)
    else do readFrom g left rest (← (← g.readFlags meant).foldlM takeFlag r)
  | left + 1, words, r =>
    -- The operand is taken at the first run of words that has one; words behind it are extra.
    let count := if r.operand.isSome then 0 else g.operandWords words
    if count == 0 then
      let run := words.takeWhile (!·.isOption)
      readFrom g left (words.drop run.length) { r with extras := r.extras ++ run.map Word.text }
    else do
      let value ← g.operandValue (words.take count)
      readFrom g left (words.drop count) { r with operand := some value }

def missing? (g : Grammar) (r : Reading) : Option Refusal :=
  match g.operand, r.operand with
  | .word name, none => some (g.refuse ("the following arguments are required: " ++ name))
  | _, _ => none

def read (g : Grammar) (line : List String) : Except Refusal Reading := do
  let words ← g.readWords line
  let r ← g.readFrom (words.length + 1) words {}
  match g.missing? r with
  | some refusal => throw refusal
  | none => return r

end Grammar

/-- The values of an option in the order in which they were given. -/
def Reading.all (r : Reading) (name : String) : List String :=
  (r.values.filter (·.1 == name)).map (·.2)

end CiteSync.Command
