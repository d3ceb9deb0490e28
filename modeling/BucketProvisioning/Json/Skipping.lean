import BucketProvisioning.Json.Container

/-!
# Passing over a value

The value of a field without a meaning is passed over.  It has to look like a value, but is not
understood: numbers may be as large and nesting as deep as they like, and surrogates need not be
paired.
-/

set_option autoImplicit false

namespace BucketProvisioning.Json

/-- A bracket that has been opened. -/
inductive Bracket where
  /-- That of an array. -/
  | square
  /-- That of an object. -/
  | curly
deriving DecidableEq, Repr

namespace Bracket

/-- The character that closes it. -/
def closing : Bracket → Char
  | .square => ']'
  | .curly => '}'

/-- What ends too early if it is not closed. -/
def part : Bracket → Part
  | .square => .list
  | .curly => .object

/-- The fault if a value inside is followed by neither a comma nor the end. -/
def noEnd : Bracket → SyntaxFault
  | .square => .noListEnd
  | .curly => .noObjectEnd

end Bracket

namespace Reading

/-- Passes over the rest of a text in quotes. -/
def skipQuotationRest : Nat → Reading Unit
  | 0 => faultHere (.endsIn .quotation)
  | fuel + 1 => do
    match ← rest with
    | [] => faultHere (.endsIn .quotation)
    | '"' :: _ => advance
    | '\\' :: _ => do
      advance
      match ← rest with
      | [] => faultHere (.endsIn .quotation)
      | 'u' :: _ => do
        advance
        let _ ← codeUnit
        skipQuotationRest fuel
      | c :: _ =>
        if (escaped? c).isSome then do
          advance
          skipQuotationRest fuel
        else faultAhead .wrongEscape
    | c :: _ =>
      if isControl c then faultHere .controlCharacter
      else do
        advance
        skipQuotationRest fuel

/-- Passes over a text after its first quote. -/
def skipQuotation : Reading Unit := do skipQuotationRest (← bound)

/-- Passes over the exponent of a number from its `e` on. -/
def skipExponent : Reading Unit := do
  advance
  let sign := (← rest).head?
  if sign = some '+' || sign = some '-' then advance
  let ds ← takeDigits
  if ds.isEmpty then faultAhead .wrongNumber

/-- Passes over a number, after its minus sign if it has one. -/
def skipNumeral : Reading Unit := do
  let ds ← takeDigits
  match ds with
  | [] => faultAhead .wrongNumber
  | '0' :: _ :: _ =>
    let c ← get
    let column := c.mark.column - ds.length + 2
    throw (.wording .wrongNumber { c.mark with column })
  | _ :: _ =>
    if (← rest).head? = some '.' then
      advance
      if (← takeDigits).isEmpty then faultAhead .wrongNumber
    if isExponent (← rest) then skipExponent

/-- Passes over the name of a field and the colon after it. -/
def skipName : Reading Unit := do
  match ← ahead? with
  | none => faultAhead (.endsIn .object)
  | some '"' => do
    advance
    skipQuotation
    colon
  | some _ => faultAhead .unquotedName

/-- Passes over what comes before a value in an opened bracket. -/
def skipToValue : Bracket → Reading Unit
  | .square => return ()
  | .curly => skipName

/-- Where passing over a value stands. -/
inductive Skip where
  /-- A value begins. -/
  | value
  /-- A bracket has been opened. -/
  | opened
  /-- A value has ended. -/
  | ended

/-- Passes over a value and what is left of the brackets that have been opened before it. -/
def skipFrom : Nat → Skip → List Bracket → Reading Unit
  | 0, _, _ => return ()
  | fuel + 1, .value, outer => do
    match ← ahead? with
    | none => faultAhead (.endsIn .value)
    | some '[' => do
      advance
      skipFrom fuel .opened (.square :: outer)
    | some '{' => do
      advance
      skipFrom fuel .opened (.curly :: outer)
    | some '"' => do
      advance
      skipQuotation
      skipFrom fuel .ended outer
    | some '-' => do
      advance
      skipNumeral
      skipFrom fuel .ended outer
    | some c =>
      if c.isDigit then do
        skipNumeral
        skipFrom fuel .ended outer
      else do
        let _ ← found
        skipFrom fuel .ended outer
  | fuel + 1, .opened, outer => do
    match outer with
    | [] => return ()
    | b :: rest =>
      match ← ahead? with
      | none => faultAhead (.endsIn b.part)
      | some c =>
        if c = b.closing then do
          advance
          skipFrom fuel .ended rest
        else do
          skipToValue b
          skipFrom fuel .value outer
  | fuel + 1, .ended, outer => do
    match outer with
    | [] => return ()
    | b :: rest =>
      match ← ahead? with
      | none => faultAhead (.endsIn b.part)
      | some c =>
        if c = ',' then do
          advance
          skipToValue b
          skipFrom fuel .value outer
        else if c = b.closing then do
          advance
          skipFrom fuel .ended rest
        else faultAhead b.noEnd

/-- Passes over a value. -/
def skip : Reading Unit := do skipFrom (3 * (← bound)) .value []

end Reading

end BucketProvisioning.Json
