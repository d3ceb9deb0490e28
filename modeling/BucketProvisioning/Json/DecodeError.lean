import BucketProvisioning.Json
import BucketProvisioning.Text.Quoted

/-!
# Why a document is not a value

`Found` is what a decoder met as far as a message tells it, `DecodeError` the ways in which a
document can fail to be a value.  `message` words them.
-/

set_option autoImplicit false

namespace BucketProvisioning

open BucketProvisioning.Number

/-- What a decoder met, as far as a message tells it. -/
inductive Found where
  /-- The absent value. -/
  | null
  /-- A truth value. -/
  | boolean (b : Bool)
  /-- A whole number. -/
  | integer (n : Int)
  /-- Any other number. -/
  | decimal (x : Binary64)
  /-- A text. -/
  | text (s : String)
  /-- An array. -/
  | sequence
  /-- An object. -/
  | map
deriving Repr, DecidableEq

namespace Found

/-- What a document looks like to a decoder that expected something else. -/
def of : Json → Found
  | .null => .null
  | .bool b => .boolean b
  | .int n => .integer n
  | .float x => .decimal x
  | .str s => .text s
  | .arr _ => .sequence
  | .obj _ => .map

/-- The document that was met, a container being taken for an empty one. -/
def document : Found → Json
  | .null => .null
  | .boolean b => .bool b
  | .integer n => .int n
  | .decimal x => .float x
  | .text s => .str s
  | .sequence => .arr []
  | .map => .obj []

/-- The wording of what was met. -/
def describe : Found → String
  | .null => "null"
  | .boolean b => "boolean `" ++ (if b then "true" else "false") ++ "`"
  | .integer n => "integer `" ++ toString n ++ "`"
  | .decimal x => "floating point `" ++ x.text ++ "`"
  | .text s => "string " ++ Text.quoted s
  | .sequence => "sequence"
  | .map => "map"

end Found

/-- Why a document is not a value. -/
inductive DecodeError where
  /-- A value of another type was expected. -/
  | wrongType (found : Found) (expected : String)
  /-- The type is right, the value is out of range. -/
  | wrongValue (found : Found) (expected : String)
  /-- A field that has no default is not there. -/
  | missingField (name : String)
  /-- A field is there twice. -/
  | duplicateField (name : String)
  /-- An array does not have the right number of elements. -/
  | wrongLength (length : Nat) (expected : String)
  /-- A text is not the name of one of the known alternatives. -/
  | unknownVariant (name : String) (known : List String)
  /-- A text does not follow its grammar. -/
  | malformed (reason : String)
deriving Repr, DecidableEq

namespace DecodeError

/-- The names that would have been accepted. -/
def alternatives (known : List String) : String :=
  match known.map fun k => "`" ++ k ++ "`" with
  | [] => "there are no variants"
  | [k] => "expected " ++ k
  | [k, l] => "expected " ++ k ++ " or " ++ l
  | ks => "expected one of " ++ String.intercalate ", " ks

/-- The wording of an error. -/
def message : DecodeError → String
  | .wrongType found expected => "invalid type: " ++ found.describe ++ ", expected " ++ expected
  | .wrongValue found expected => "invalid value: " ++ found.describe ++ ", expected " ++ expected
  | .missingField name => "missing field `" ++ name ++ "`"
  | .duplicateField name => "duplicate field `" ++ name ++ "`"
  | .wrongLength length expected =>
    "invalid length " ++ toString length ++ ", expected " ++ expected
  | .unknownVariant name known => "unknown variant `" ++ name ++ "`, " ++ alternatives known
  | .malformed reason => reason

end DecodeError

end BucketProvisioning
