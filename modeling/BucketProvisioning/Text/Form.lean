/-!
# Form values

A value among the parameters of an address: letters, digits and a few marks stand for themselves,
a blank is a plus sign, and every other byte is written as a percent sign and two hexadecimal
digits.
-/

set_option autoImplicit false

namespace BucketProvisioning.Text

/-- Whether a byte stands for itself among parameters. -/
def isFormByte (b : UInt8) : Bool :=
  let c := Char.ofNat b.toNat
  c.isAlphanum || c = '*' || c = '-' || c = '.' || c = '_'

/-- A hexadecimal digit. -/
def upperHexDigit (n : Nat) : Char := (Nat.digitChar n).toUpper

/-- A byte among parameters. -/
def formByte (b : UInt8) : List Char :=
  if isFormByte b then [Char.ofNat b.toNat]
  else if b = 32 then ['+']
  else ['%', upperHexDigit (b.toNat / 16), upperHexDigit (b.toNat % 16)]

/-- A text as a value among parameters. -/
def formValue (s : String) : String :=
  String.ofList (s.toUTF8.toList.flatMap formByte)

end BucketProvisioning.Text
