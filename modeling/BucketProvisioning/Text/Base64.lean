/-!
# Base 64

Three bytes are written as four digits, fewer bytes at the end as fewer digits and signs of equality
in place of the rest.  `Base64.check` accepts a text just if it is what some bytes are written as;
a text is judged four characters at a time, so that a wrong character is found before a wrong
length, and a wrong length before bits of the last digit that belong to no byte.  Only a wrong last
character that stands alone is found first of all.
-/

set_option autoImplicit false

namespace BucketProvisioning.Text

namespace Base64

/-- Why a text is not written in base 64. -/
inductive Fault where
  /-- A byte is no digit, or the sign of equality does not stand at the end. -/
  | symbol (byte offset : Nat)
  /-- A digit stands alone. -/
  | length (n : Nat)
  /-- The last digit has bits that belong to no byte. -/
  | lastSymbol (byte offset : Nat)
  /-- Signs of equality are missing. -/
  | padding
deriving DecidableEq, Repr

/-- The wording of a fault. -/
def Fault.message : Fault → String
  | .symbol byte offset =>
    "Invalid symbol " ++ toString byte ++ ", offset " ++ toString offset ++ "."
  | .length n => "Invalid input length: " ++ toString n
  | .lastSymbol byte offset =>
    "Invalid last symbol " ++ toString byte ++ ", offset " ++ toString offset ++ "."
  | .padding => "Invalid padding"

/-- The value of a digit. -/
def digit? (byte : Nat) : Option Nat :=
  if 'A'.toNat ≤ byte ∧ byte ≤ 'Z'.toNat then some (byte - 'A'.toNat)
  else if 'a'.toNat ≤ byte ∧ byte ≤ 'z'.toNat then some (byte - 'a'.toNat + 26)
  else if '0'.toNat ≤ byte ∧ byte ≤ '9'.toNat then some (byte - '0'.toNat + 52)
  else if byte = '+'.toNat then some 62
  else if byte = '/'.toNat then some 63
  else none

/-- The sign that stands in place of a digit at the end. -/
def pad : Nat := '='.toNat

/-- Every one of some bytes has to be a digit; the first one has an offset. -/
def checkDigits : Nat → List Nat → Except Fault Unit
  | _, [] => .ok ()
  | offset, b :: bs =>
    if (digit? b).isSome then checkDigits (offset + 1) bs else .error (.symbol b offset)

/-- The last four characters or fewer: at least two digits and then signs of equality. -/
def checkSigns (offset : Nat) : Nat → Option Nat → List Nat → Except Fault Unit
  | _, _, [] => .ok ()
  | i, padded, b :: bs =>
    if b = pad then
      if i < 2 then .error (.symbol b (offset + i))
      else checkSigns offset (i + 1) (padded <|> some i) bs
    else
      match padded with
      | some j => .error (.symbol pad (offset + j))
      | none =>
        if (digit? b).isSome then checkSigns offset (i + 1) none bs
        else .error (.symbol b (offset + i))

/-- The factor that the value of the last digit of some has to have. -/
def lastFactor : Nat → Nat
  | 2 => 16
  | 3 => 4
  | _ => 1

/-- Checks the last four characters or fewer. -/
def checkLast (offset : Nat) (bs : List Nat) : Except Fault Unit := do
  checkSigns offset 0 none bs
  let digits := bs.takeWhile (· ≠ pad)
  if !bs.isEmpty && digits.length < 2 then throw (.length (offset + digits.length))
  if bs.length % 4 ≠ 0 then throw .padding
  let last := digits.getLastD 'A'.toNat
  if ((digit? last).getD 0) % lastFactor digits.length ≠ 0 then
    throw (.lastSymbol last (offset + digits.length - 1))

/-- The number of characters that are judged before the last four or fewer. -/
def leading (n : Nat) : Nat := if n % 4 = 0 then n - 4 else n - n % 4

/-- Checks that bytes are written in base 64. -/
def checkBytes (bs : List Nat) : Except Fault Unit := do
  let last := bs.getLastD pad
  if bs.length % 4 = 1 && last ≠ pad && (digit? last).isNone then
    throw (.symbol last (bs.length - 1))
  let n := leading bs.length
  checkDigits 0 (bs.take n)
  checkLast n (bs.drop n)

/-- Checks that a text is written in base 64. -/
def check (s : String) : Except Fault Unit := checkBytes (s.toUTF8.toList.map UInt8.toNat)

end Base64

end BucketProvisioning.Text
