import BucketProvisioning.Text.Escaped

/-!
# Quoted text

How a text is shown inside a message: between double quotes, with a backslash before a quote or a
backslash, a letter for the usual control characters, and a number in braces for every other
character that has no visible form of its own.  A single quote stands for itself.
-/

set_option autoImplicit false

namespace BucketProvisioning.Text

/-- The lower-case hexadecimal digits of a number, without leading zeros. -/
def hexDigits (n : Nat) : List Char := Nat.toDigits 16 n

/-- One character of a quoted text. -/
def quoteChar (c : Char) : List Char :=
  if c = '"' then ['\\', '"']
  else if c = '\\' then ['\\', '\\']
  else if c = '\n' then ['\\', 'n']
  else if c = '\r' then ['\\', 'r']
  else if c = '\t' then ['\\', 't']
  else if c = '\x00' then ['\\', '0']
  else if isEscaped c then ['\\', 'u', '{'] ++ hexDigits c.toNat ++ ['}']
  else [c]

/-- A text as it is shown inside a message. -/
def quoted (s : String) : String :=
  String.ofList ('"' :: s.toList.flatMap quoteChar ++ ['"'])

/-- The texts of a list as they are shown inside a message. -/
def quotedList (ss : List String) : String :=
  "[" ++ String.intercalate ", " (ss.map quoted) ++ "]"

end BucketProvisioning.Text
