import BucketProvisioning.Json.Decoder
import BucketProvisioning.Json.Skipping

/-!
# Decoding records

A record is built field by field, in the order in which its fields are found, from a `Layout`: its
value before any field, its fields, and what is made of it at the end.  There are three forms.
`structured` reads an object or an array of the fields in order and refuses a field that is
repeated; `flattened` reads an object only and keeps the fields that it does not know; `openRecord`
reads an object only, and of a field that is repeated the last one counts.
-/

set_option autoImplicit false

namespace BucketProvisioning

open BucketProvisioning.Json (Reading)
open BucketProvisioning.Json.Reading

/-- What it means that a field is missing. -/
inductive Need where
  /-- There is no record without it. -/
  | required
  /-- By name it may be missing, by position it may not. -/
  | optional
  /-- It has a default. -/
  | defaulted
deriving DecidableEq, Repr

/-- A field of a record `ρ`. -/
structure Field (ρ : Type) where
  /-- Its name. -/
  name : String
  /-- What it means that it is missing. -/
  need : Need
  /-- How it is read, and what the record is then. -/
  read : ρ → Decoder ρ

namespace Field

variable {α ρ : Type}

/-- A field that is stored. -/
def stored (name : String) (need : Need) (d : Decoder α) (store : α → ρ → ρ) : Field ρ :=
  ⟨name, need, fun r => d.map fun a => store a r⟩

/-- A field with a default. -/
def of (name : String) (d : Decoder α) (store : α → ρ → ρ) : Field ρ :=
  stored name .defaulted d store

/-- A field that has to be a value, whatever the value is. -/
def checked (name : String) (d : Decoder α) : Field ρ := of name d fun _ r => r

end Field

/-- How a record `α` is built from its fields by way of `ρ`. -/
structure Layout (ρ α : Type) where
  /-- The record before any field. -/
  start : ρ
  /-- The fields, in the order of the positional form. -/
  fields : List (Field ρ)
  /-- What is made of any other field; nothing if there is nothing to be made of it. -/
  other : Option (String → Json → ρ → ρ) := none
  /-- What is made of the record at the end. -/
  finish : ρ → Except DecodeError α

/-- The layout of a record that is complete as it is built. -/
def Layout.plain {ρ : Type} (start : ρ) (fields : List (Field ρ)) : Layout ρ ρ :=
  { start, fields, finish := .ok }

/-- A record in the making. -/
structure Filling (ρ : Type) where
  /-- The record so far. -/
  record : ρ
  /-- The names of the fields that have been found. -/
  seen : List String := []

namespace Layout

variable {ρ α : Type} (l : Layout ρ α)

/-- The field of a name. -/
def field? (name : String) : Option (Field ρ) := l.fields.find? fun f => f.name = name

/-- Whether a field may be read: it must not be there twice, unless fields may be repeated. -/
def permit (repeats : Bool) (name : String) (s : Filling ρ) : Except DecodeError Unit :=
  if !repeats && name ∈ s.seen then .error (.duplicateField name) else .ok ()

/-- What is made of the fields that have been found: the first required one must not be missing. -/
def close (s : Filling ρ) : Except DecodeError α :=
  match l.fields.find? fun f => f.need = .required && f.name ∉ s.seen with
  | some f => .error (.missingField f.name)
  | none => l.finish s.record

/-- The record with a named field of a document. -/
def addJson (repeats : Bool) (s : Filling ρ) (f : String × Json) :
    Except DecodeError (Filling ρ) := do
  match l.field? f.1, l.other with
  | some known, _ => do
    permit repeats f.1 s
    return ⟨← (known.read s.record).ofJson f.2, f.1 :: s.seen⟩
  | none, some keep => return { s with record := keep f.1 f.2 s.record }
  | none, none => return s

/-- The record of the fields of an object. -/
def ofFields (repeats : Bool) (fields : List (String × Json)) : Except DecodeError α := do
  l.close (← fields.foldlM (l.addJson repeats) ⟨l.start, []⟩)

/-- The record with the elements of an array as its fields, which begin at the position `i`;
`whole` describes the array. -/
def addItems (whole : String) : List (Field ρ) → Nat → List Json → ρ → Except DecodeError ρ
  | [], _, _, r => .ok r
  | f :: fs, i, j :: js, r => do addItems whole fs (i + 1) js (← (f.read r).ofJson j)
  | f :: fs, i, [], r =>
    if f.need = .defaulted then addItems whole fs (i + 1) [] r else .error (.wrongLength i whole)

/-- The record of the elements of an array. -/
def ofItems (whole : String) (items : List Json) : Except DecodeError α := do
  let r ← addItems whole l.fields 0 items l.start
  let a ← l.finish r
  if l.fields.length < items.length then
    throw (.wrongLength items.length "fewer elements in array")
  return a

/-- Reads a field of an object from the colon on. -/
def addText (repeats : Bool) (levels : Nat) (name : String) (s : Filling ρ) :
    Reading (Filling ρ) := do
  match l.field? name, l.other with
  | some known, _ => do
    judged (permit repeats name s)
    colon
    return ⟨← (known.read s.record).ofText levels, name :: s.seen⟩
  | none, some keep => do
    colon
    return { s with record := keep name (← Decoder.verbatim.ofText levels) s.record }
  | none, none => do
    colon
    skip
    return s

/-- Reads the fields of an object. -/
def readFields (repeats : Bool) (levels : Nat) : Reading α := do
  judged (l.close (← members (l.addText repeats levels) ⟨l.start, []⟩))

/-- Reads the elements of an array as fields. -/
def readItemsFrom (whole : String) (levels : Nat) : List (Field ρ) → Nat → ρ → Reading ρ
  | [], _, r => return r
  | f :: fs, i, r => do
    if ← hasElement (i = 0) then
      readItemsFrom whole levels fs (i + 1) (← (f.read r).ofText levels)
    else if f.need = .defaulted then readItemsFrom whole levels fs (i + 1) r
    else judged (.error (.wrongLength i whole))

/-- Reads an array as a record. -/
def readItems (whole : String) (levels : Nat) : Reading α := do
  judged (l.finish (← readItemsFrom whole levels l.fields 0 l.start))

end Layout

namespace Decoder

variable {ρ α : Type}

/-- A record called `name`, read from an object or from an array of its fields. -/
def structured (name : String) (l : Layout ρ α) : Decoder α :=
  let expected := "struct " ++ name
  let whole := expected ++ " with " ++ toString l.fields.length ++ " elements"
  { ofJson
      | .obj fields => l.ofFields false fields
      | .arr items => l.ofItems whole items
      | j => .error (.wrongType (.of j) expected)
    ofText levels := placed do
      match ← found with
      | .map => entering levels (l.readFields false) leaveObject
      | .sequence => entering levels (l.readItems whole) leaveList
      | f => judged (.error (.wrongType f expected)) }

/-- A record called `name`, read from an object. -/
def flattened (name : String) (l : Layout ρ α) : Decoder α :=
  let expected := "struct " ++ name
  { ofJson
      | .obj fields => l.ofFields false fields
      | j => .error (.wrongType (.of j) expected)
    ofText levels := placed do
      match ← found with
      | .map => entering levels (l.readFields false) leaveObject
      | f => judged (.error (.wrongType f expected)) }

/-- A record called `name`, read from an object whose fields may be repeated. -/
def openRecord (name : String) (l : Layout ρ α) : Decoder α where
  ofJson
    | .obj fields => l.ofFields true fields
    | j => .error (.wrongType (.of j) name)
  ofText levels := placed do
    match ← found with
    | .map => entering levels (l.readFields true) leaveObject
    | .sequence =>
      entering levels (fun _ => judged (.error (.wrongType .sequence name))) leaveList
    | f => judged (.error (.wrongType f name))

end Decoder

end BucketProvisioning
