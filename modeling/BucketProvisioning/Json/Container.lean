import BucketProvisioning.Json.Numeral
import BucketProvisioning.Json.Quotation

/-!
# Scalars, arrays and objects in a text

A value is recognised by its first character.  An array or object is entered, its parts are read
one after the other, and it is left again: even if its parts were no good, so that the complaint
about them gets the place where the cursor has come to.
-/

set_option autoImplicit false

namespace BucketProvisioning.Json

namespace Reading

variable {α σ : Type}

/-- The next value if it is a scalar; an array or object is named but not entered. -/
def found : Reading Found := do
  match ← ahead? with
  | none => faultAhead (.endsIn .value)
  | some '[' => return .sequence
  | some '{' => return .map
  | some '"' => do
    advance
    return .text (← quotation)
  | some 'n' => do
    advance
    word ['u', 'l', 'l']
    return .null
  | some 't' => do
    advance
    word ['r', 'u', 'e']
    return .boolean true
  | some 'f' => do
    advance
    word ['a', 'l', 's', 'e']
    return .boolean false
  | some '-' => do
    advance
    return .of (← numeral true)
  | some c => if c.isDigit then return .of (← numeral false) else faultAhead .noValue

/-- Reads the parts of a container and leaves it, whatever became of its parts. -/
def enclosed (parts : Reading α) (leave : Reading Unit) : Reading α := fun c =>
  let (result, c) := parts c
  let (left, c) := leave c
  match result, left with
  | .ok a, .ok () => (.ok a, c)
  | .error e, _ => (.error (e.placeAt c.mark), c)
  | .ok _, .error e => (.error e, c)

/-- Leaves an array. -/
def leaveList : Reading Unit := do
  match ← ahead? with
  | some ']' => advance
  | some ',' => do
    advance
    if (← ahead?) = some ']' then faultAhead .commaBeforeEnd else faultAhead .unexpectedRest
  | some _ => faultAhead .unexpectedRest
  | none => faultAhead (.endsIn .list)

/-- Leaves an object. -/
def leaveObject : Reading Unit := do
  match ← ahead? with
  | some '}' => advance
  | some ',' => faultAhead .commaBeforeEnd
  | some _ => faultAhead .unexpectedRest
  | none => faultAhead (.endsIn .object)

/-- How deeply arrays and objects may be nested. -/
def greatestDepth : Nat := 127

/-- Enters the container whose bracket comes next, if so many levels are left; its parts may use
one level less. -/
def entering (levels : Nat) (parts : Nat → Reading α) (leave : Reading Unit) : Reading α :=
  match levels with
  | 0 => faultAhead .tooDeep
  | n + 1 => do
    advance
    enclosed (parts n) leave

/-- Whether an array has another element; the comma before it is passed over. -/
def hasElement (isFirst : Bool) : Reading Bool := do
  match ← ahead? with
  | none => faultAhead (.endsIn .list)
  | some ']' => return false
  | some c =>
    if isFirst then return true
    else if c = ',' then do
      advance
      match ← ahead? with
      | none => faultAhead (.endsIn .value)
      | some ']' => faultAhead .commaBeforeEnd
      | some _ => return true
    else faultAhead .noListEnd

/-- The name of the next field of an object, if there is one. -/
def nextName? (isFirst : Bool) : Reading (Option String) := do
  let name : Reading (Option String) := do
    advance
    return some (← quotation)
  match ← ahead? with
  | none => faultAhead (.endsIn .object)
  | some '}' => return none
  | some c =>
    if isFirst then
      if c = '"' then name else faultAhead .unquotedName
    else if c = ',' then do
      advance
      match ← ahead? with
      | none => faultAhead (.endsIn .value)
      | some '"' => name
      | some '}' => faultAhead .commaBeforeEnd
      | some _ => faultAhead .unquotedName
    else faultAhead .noObjectEnd

/-- The colon between a name and its value. -/
def colon : Reading Unit := do
  match ← ahead? with
  | some ':' => advance
  | some _ => faultAhead .noColon
  | none => faultAhead (.endsIn .object)

/-- Reads the elements of an array, each with what the ones before it have led to. -/
def elementsFrom (step : σ → Reading σ) : Nat → Bool → σ → Reading σ
  | 0, _, s => return s
  | fuel + 1, isFirst, s => do
    if ← hasElement isFirst then elementsFrom step fuel false (← step s) else return s

/-- Reads the elements of an array. -/
def elements (step : σ → Reading σ) (start : σ) : Reading σ := do
  elementsFrom step (← bound) true start

/-- Reads the fields of an object from the colon on, each with what the ones before it have led
to. -/
def membersFrom (step : String → σ → Reading σ) : Nat → Bool → σ → Reading σ
  | 0, _, s => return s
  | fuel + 1, isFirst, s => do
    match ← nextName? isFirst with
    | some name => membersFrom step fuel false (← step name s)
    | none => return s

/-- Reads the fields of an object. -/
def members (step : String → σ → Reading σ) (start : σ) : Reading σ := do
  membersFrom step (← bound) true start

/-- Reads an array whose elements are all of one kind. -/
def listOf (element : Reading α) : Reading (List α) := do
  return (← elements (fun done => do return (← element) :: done) []).reverse

/-- Reads an object whose fields are all of one kind; names may be repeated. -/
def fieldsOf (value : Reading α) : Reading (List (String × α)) := do
  let step (name : String) (done : List (String × α)) : Reading (List (String × α)) := do
    colon
    return (name, ← value) :: done
  return (← members step []).reverse

end Reading

end BucketProvisioning.Json
