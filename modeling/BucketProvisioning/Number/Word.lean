/-!
# Numerals of a bounded size

Reading a decimal numeral whose value has to fit into 64 bits.  The characters are judged from the
left, so that of two faults the one further left is reported.
-/

set_option autoImplicit false

namespace BucketProvisioning.Number

/-- Why a text is no numeral of 64 bits. -/
inductive NumeralFault where
  /-- It is empty. -/
  | empty
  /-- It has a character that is not a digit. -/
  | notDigit
  /-- Its value is too large. -/
  | tooLarge
deriving DecidableEq, Repr

/-- The wording of a fault. -/
def NumeralFault.message : NumeralFault → String
  | .empty => "cannot parse integer from empty string"
  | .notDigit => "invalid digit found in string"
  | .tooLarge => "number too large to fit in target type"

/-- Values are less than this. -/
def wordLimit : Nat := Nat.pow 2 64

/-- A digit is appended to a numeral. -/
def appendDigit (n : Nat) (c : Char) : Except NumeralFault Nat :=
  if !c.isDigit then .error .notDigit
  else
    let n := 10 * n + (c.toNat - '0'.toNat)
    if n < wordLimit then .ok n else .error .tooLarge

/-- Reads a numeral; a plus sign may stand before the digits. -/
def readWord (s : String) : Except NumeralFault Nat :=
  match s.toList with
  | [] => .error .empty
  | ['+'] => .error .notDigit
  | '+' :: ds => ds.foldlM appendDigit 0
  | ds => ds.foldlM appendDigit 0

end BucketProvisioning.Number
