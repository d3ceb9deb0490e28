import BucketProvisioning.Json

/-!
# Writing documents

The compact text of a document: no blanks, the fields of an object in the order of their names.
-/

set_option autoImplicit false

namespace BucketProvisioning.Json

open BucketProvisioning.Number

/-- Four hexadecimal digits of a code unit below 65536. -/
def fourHex (n : Nat) : List Char :=
  let ds := Nat.toDigits 16 n
  List.replicate (4 - ds.length) '0' ++ ds

/-- One character of a text inside quotes. -/
def escapeChar (c : Char) : List Char :=
  if c = '"' then ['\\', '"']
  else if c = '\\' then ['\\', '\\']
  else if c = '\n' then ['\\', 'n']
  else if c = '\r' then ['\\', 'r']
  else if c = '\t' then ['\\', 't']
  else if c = '\x08' then ['\\', 'b']
  else if c = '\x0c' then ['\\', 'f']
  else if c.toNat < 0x20 then ['\\', 'u'] ++ fourHex c.toNat
  else [c]

/-- A text in quotes. -/
def quote (s : String) : String :=
  String.ofList ('"' :: s.toList.flatMap escapeChar ++ ['"'])

/-- Texts separated by commas. -/
def commas (ss : List String) : String := String.intercalate "," ss

mutual

/-- The compact text of a document. -/
def compact : Json → String
  | .null => "null"
  | .bool b => if b then "true" else "false"
  | .int n => toString n
  | .float x => x.text
  | .str s => quote s
  | .arr items => "[" ++ commas (compactItems items) ++ "]"
  | .obj fields =>
    let members := (compactFields fields).mergeSort fun f g => noLater f.1 g.1
    "\x7b" ++ commas (members.map fun f => quote f.1 ++ ":" ++ f.2) ++ "\x7d"

/-- The texts of the elements of an array. -/
def compactItems : List Json → List String
  | [] => []
  | j :: js => compact j :: compactItems js

/-- The texts of the values of an object, by name. -/
def compactFields : List (String × Json) → List (String × String)
  | [] => []
  | (name, j) :: fs => (name, compact j) :: compactFields fs

end

end BucketProvisioning.Json
