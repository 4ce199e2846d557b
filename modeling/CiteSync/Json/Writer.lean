import CiteSync.Json.Basic
import CiteSync.Decimal.Shortest

/-!
# Written JSON

A value as JSON text in ASCII: everything above ASCII is escaped in units of sixteen bits.
-/

namespace CiteSync.Json

def hex4 (n : Nat) : List Char :=
  let digits := Nat.toDigits 16 n
  List.replicate (4 - digits.length) '0' ++ digits

def escape (c : Char) : List Char :=
  let n := c.toNat
  if c == '"' then ['\\', '"']
  else if c == '\\' then ['\\', '\\']
  else if n < 32 || (127 ≤ n && n < 0x10000) then '\\' :: 'u' :: hex4 n
  else if n < 128 then [c]
  else
    let m := n - 0x10000
    '\\' :: 'u' :: hex4 (0xD800 + m / 0x400) ++ '\\' :: 'u' :: hex4 (0xDC00 + m % 0x400)

def quote (s : String) : String :=
  "\"" ++ String.ofList (s.toList.flatMap escape) ++ "\""

mutual

/-- A value as JSON text. -/
def write : Json → String
  | null => "null"
  | bool b => if b then "true" else "false"
  | int n => toString n
  | float x => Decimal.plain.write x
  | str s => quote s
  | arr elems => "[" ++ writeElems elems ++ "]"
  | obj members => "\x7b" ++ writeMembers members ++ "\x7d"

def writeElems : List Json → String
  | [] => ""
  | [v] => write v
  | v :: rest => write v ++ "," ++ writeElems rest

def writeMembers : List (String × Json) → String
  | [] => ""
  | [(k, v)] => quote k ++ ":" ++ write v
  | (k, v) :: rest => quote k ++ ":" ++ write v ++ "," ++ writeMembers rest

end

end CiteSync.Json
