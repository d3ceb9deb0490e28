import BucketProvisioning.Json.Container

/-!
# Reading documents

A reader for the text of a document.  It refuses what the standard refuses; of two fields of one
name the later one counts, and fields are kept in the order of their names.
-/

set_option autoImplicit false

namespace BucketProvisioning.Json

namespace Reading

/-- Reads any document, nested in at most `levels` containers more; `object` makes an object of
its fields as they stand in the text. -/
def document (object : List (String × Json) → Json) (levels : Nat) : Reading Json := do
  match ← found with
  | .sequence =>
    match levels with
    | 0 => faultAhead .tooDeep
    | n + 1 => do
      advance
      return .arr (← enclosed (listOf (document object n)) leaveList)
  | .map =>
    match levels with
    | 0 => faultAhead .tooDeep
    | n + 1 => do
      advance
      return object (← enclosed (fieldsOf (document object n)) leaveObject)
  | scalar => return scalar.document

end Reading

/-- The document written by a text, if the text is one. -/
def parse? (s : String) : Option Json :=
  ((Reading.document ofMembers Reading.greatestDepth).ofString s).toOption

end BucketProvisioning.Json
