import BucketProvisioning.Json.Parser

/-!
# Decoders

A `Decoder` reads values of one type both from documents (`ofJson`) and from texts (`read`).  The
two agree on what is accepted, up to fields that are repeated; a text is judged from its beginning,
so that of two faults the first one is reported, with its place.

A scalar is decoded from what it looks like (`scalar`), so that its two readings are one function.
Records have a module of their own.
-/

set_option autoImplicit false

namespace BucketProvisioning

open BucketProvisioning.Json (Reading Complaint)
open BucketProvisioning.Json.Reading

/-- A reader of values of type `α`. -/
structure Decoder (α : Type) where
  /-- Reads a document. -/
  ofJson : Json → Except DecodeError α
  /-- Reads the next value of a text, which may be nested in so many levels. -/
  ofText : Nat → Reading α

namespace Decoder

variable {α β : Type}

/-- Reads a whole text. -/
def read (d : Decoder α) (s : String) : Except Complaint α :=
  (d.ofText greatestDepth).ofString s

/-- What is made of the value that is read, if anything can be made of it. -/
def andThen (d : Decoder α) (f : α → Except DecodeError β) : Decoder β where
  ofJson j := do f (← d.ofJson j)
  ofText levels := do judged (f (← d.ofText levels))

/-- What is made of the value that is read. -/
def map (f : α → β) (d : Decoder α) : Decoder β := d.andThen fun a => .ok (f a)

/-- A value that follows from what it looks like. -/
def scalar (accept : Found → Except DecodeError α) : Decoder α where
  ofJson j := accept (.of j)
  ofText _ := placed do judged (accept (← found))

/-- A text that follows a grammar; `expected` names it. -/
def ofTexts (expected : String) (parse : String → Except DecodeError α) : Decoder α :=
  scalar fun
    | .text s => parse s
    | f => .error (.wrongType f expected)

/-- A text. -/
def text : Decoder String := ofTexts "a string" .ok

/-- A truth value. -/
def bool : Decoder Bool :=
  scalar fun
    | .boolean b => .ok b
    | f => .error (.wrongType f "a boolean")

/-- A whole number between two bounds; `kind` names the range. -/
def bounded (low high : Int) (kind : String) : Decoder Int :=
  scalar fun
    | .integer n =>
      if low ≤ n ∧ n ≤ high then .ok n else .error (.wrongValue (.integer n) kind)
    | f => .error (.wrongType f kind)

/-- A whole number of 16 bits without a sign. -/
def word16 : Decoder Nat := (bounded 0 65535 "u16").map Int.toNat

/-- A whole number of 32 bits without a sign. -/
def word32 : Decoder Nat := (bounded 0 4294967295 "u32").map Int.toNat

/-- A whole number of 32 bits with a sign. -/
def int32 : Decoder Int := bounded (-2147483648) 2147483647 "i32"

/-- A whole number of 64 bits with a sign. -/
def int64 : Decoder Int := bounded (-9223372036854775808) 9223372036854775807 "i64"

/-- The absent value. -/
def absent : Decoder Unit :=
  scalar fun
    | .null => .ok ()
    | f => .error (.wrongType f "unit")

/-- Any document. -/
def any : Decoder Json where
  ofJson := .ok
  ofText := document Json.ofMembers

/-- Any document, with repeated fields as they stand in the text. -/
def verbatim : Decoder Json where
  ofJson := .ok
  ofText := document .obj

/-- A value that may be absent. -/
def optional (d : Decoder α) : Decoder (Option α) where
  ofJson
    | .null => .ok none
    | j => (d.ofJson j).map some
  ofText levels := do
    match ← ahead? with
    | some 'n' => do
      let _ ← found
      return none
    | _ => return some (← d.ofText levels)

/-- A value that may be absent and then has a default. -/
def orElse (d : Decoder α) (default : α) : Decoder α := d.optional.map fun a => a.getD default

/-- A list of values. -/
def list (d : Decoder α) : Decoder (List α) where
  ofJson
    | .arr items => items.mapM d.ofJson
    | j => .error (.wrongType (.of j) "a sequence")
  ofText levels := placed do
    match ← found with
    | .sequence => entering levels (fun n => listOf (d.ofText n)) leaveList
    | f => judged (.error (.wrongType f "a sequence"))

/-- Values by name; of two values of one name the later one counts. -/
def dictionary (d : Decoder α) : Decoder (List (String × α)) where
  ofJson
    | .obj fields => fields.mapM fun f => (d.ofJson f.2).map fun a => (f.1, a)
    | j => .error (.wrongType (.of j) "a map")
  ofText levels := placed do
    match ← found with
    | .map => do
      let fields ← entering levels (fun n => fieldsOf (d.ofText n)) leaveObject
      let last (i : Nat) (f : String × α) : Bool := (fields.drop (i + 1)).all fun g => g.1 ≠ f.1
      return (fields.zipIdx.filter fun f => last f.2 f.1).map Prod.fst
    | f => judged (.error (.wrongType f "a map"))

/-- One of some alternatives, given by its name. -/
def named (known : List (String × α)) : Decoder α :=
  ofTexts "variant identifier" fun s =>
    match known.find? fun k => k.1 = s with
    | some k => .ok k.2
    | none => .error (.unknownVariant s (known.map Prod.fst))

/-- One of some alternatives: its name, or an object with the name as its only field and no
content. -/
def oneOf (known : List (String × α)) : Decoder α where
  ofJson
    | .str s => (named known).ofJson (.str s)
    | .obj [(name, content)] => do
      let a ← (named known).ofJson (.str name)
      absent.ofJson content
      return a
    | .obj _ => .error (.wrongValue .map "map with a single key")
    | j => .error (.wrongType (.of j) "string or map")
  ofText levels := do
    match ← ahead? with
    | none => faultAhead (.endsIn .value)
    | some '"' => (named known).ofText levels
    | some '{' =>
      match levels with
      | 0 => faultAhead .tooDeep
      | n + 1 => do
        advance
        let a ← (named known).ofText n
        colon
        absent.ofText n
        match ← ahead? with
        | some '}' => do
          advance
          return a
        | some _ => faultHere .noValue
        | none => faultHere (.endsIn .object)
    | some _ => faultAhead .noValue

/-- A scalar is read from a document as what it looks like. -/
theorem ofJson_scalar (accept : Found → Except DecodeError α) (j : Json) :
    (scalar accept).ofJson j = accept (.of j) := rfl

end Decoder

end BucketProvisioning
