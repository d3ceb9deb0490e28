import BucketProvisioning.Number.Decimal

/-!
# Documents

A document is a tree of objects, arrays and scalars, as resources travel to and from the API
server.  A whole number keeps its exact value; any other number is binary floating point.  The
fields of an object are a list in which the first field of a name counts; `ofMembers` makes an
object of fields of which the last one of a name counts, in the order of their names.
-/

set_option autoImplicit false

namespace BucketProvisioning

open BucketProvisioning.Number

/-- A document. -/
inductive Json where
  /-- The absent value. -/
  | null
  /-- A truth value. -/
  | bool (b : Bool)
  /-- A whole number. -/
  | int (n : Int)
  /-- A number with a fraction or an exponent, or a whole number out of the range of 64 bits. -/
  | float (x : Binary64)
  /-- A text. -/
  | str (s : String)
  /-- A sequence. -/
  | arr (items : List Json)
  /-- Named fields. -/
  | obj (fields : List (String × Json))
deriving Repr, Inhabited

namespace Json

/-- The value of the first field called `name`. -/
def lookup (fields : List (String × Json)) (name : String) : Option Json :=
  (fields.find? fun f => f.1 = name).map Prod.snd

/-- The field of an object. -/
def field? : Json → String → Option Json
  | .obj fields, name => lookup fields name
  | _, _ => none

/-- The fields of an object without those called `name`. -/
def without (fields : List (String × Json)) (name : String) : List (String × Json) :=
  fields.filter fun f => f.1 ≠ name

/-- The object with a field set: the last place of an earlier field of the name is kept. -/
def setField (fields : List (String × Json)) (name : String) (value : Json) :
    List (String × Json) :=
  without fields name ++ [(name, value)]

/-- A text field of an object, if it is there and is a text. -/
def text? (j : Json) (name : String) : Option String :=
  match j.field? name with
  | some (.str s) => some s
  | _ => none

/-- An optional value as a field: nothing if it is absent. -/
def optField {α : Type} (name : String) (encode : α → Json) : Option α → List (String × Json)
  | none => []
  | some a => [(name, encode a)]

/-- A text as a field: nothing if it is empty. -/
def textField (name : String) (s : String) : List (String × Json) :=
  if s.isEmpty then [] else [(name, .str s)]

/-- An object whose values are all texts. -/
def ofTexts (fields : List (String × String)) : Json :=
  .obj (fields.map fun f => (f.1, .str f.2))

/-- An array of texts. -/
def texts (ss : List String) : Json := .arr (ss.map .str)

/-- An optional value, written `null` if it is absent. -/
def orNull {α : Type} (encode : α → Json) : Option α → Json
  | none => .null
  | some a => encode a

/-- Whether the first text comes no later than the second, by code points. -/
def noLater (s t : String) : Bool := !(decide (t < s))

/-- Sorted fields without those that another one of the same name follows. -/
def lastOfEach : List (String × Json) → List (String × Json)
  | [] => []
  | [f] => [f]
  | f :: g :: fs => if f.1 = g.1 then lastOfEach (g :: fs) else f :: lastOfEach (g :: fs)

/-- The object with the given fields, of which the last one of a name counts. -/
def ofMembers (fields : List (String × Json)) : Json :=
  .obj (lastOfEach (fields.mergeSort fun f g => noLater f.1 g.1))

mutual

/-- The document with every text changed; the names of fields stay. -/
def mapTexts (f : String → String) : Json → Json
  | .str s => .str (f s)
  | .arr items => .arr (mapTextsItems f items)
  | .obj fields => .obj (mapTextsFields f fields)
  | j => j

/-- The elements of an array with every text changed. -/
def mapTextsItems (f : String → String) : List Json → List Json
  | [] => []
  | j :: js => mapTexts f j :: mapTextsItems f js

/-- The fields of an object with every text changed. -/
def mapTextsFields (f : String → String) : List (String × Json) → List (String × Json)
  | [] => []
  | (name, j) :: fs => (name, mapTexts f j) :: mapTextsFields f fs

end

/-- No field is found among none. -/
theorem lookup_nil (name : String) : lookup [] name = none := rfl

/-- The first field of a name is the one that is found. -/
theorem lookup_cons (f : String × Json) (fs : List (String × Json)) (name : String) :
    lookup (f :: fs) name = if f.1 = name then some f.2 else lookup fs name := by
  by_cases h : f.1 = name <;> simp [lookup, h]

/-- A name is looked up among the fields in front, and then among those behind them. -/
theorem lookup_append (fs gs : List (String × Json)) (name : String) :
    lookup (fs ++ gs) name = (lookup fs name).or (lookup gs name) := by
  simp only [lookup, List.find?_append]
  cases List.find? (fun f => decide (f.1 = name)) fs <;> rfl

end Json

end BucketProvisioning
