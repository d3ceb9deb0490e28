import BucketProvisioning.Json.Cursor

/-!
# Texts in the text of a document

A text stands in quotes.  A backslash begins an escape; a character outside the first 65536 is
escaped as a pair of surrogates.
-/

set_option autoImplicit false

namespace BucketProvisioning.Json

/-- The value of a hexadecimal digit. -/
def hexValue (c : Char) : Option Nat :=
  if '0' ≤ c && c ≤ '9' then some (c.toNat - '0'.toNat)
  else if 'a' ≤ c && c ≤ 'f' then some (c.toNat - 'a'.toNat + 10)
  else if 'A' ≤ c && c ≤ 'F' then some (c.toNat - 'A'.toNat + 10)
  else none

/-- The number written by the first four characters, if they are hexadecimal digits. -/
def fourHexValue? : List Char → Option Nat
  | a :: b :: c :: d :: _ => do
    let w ← hexValue a
    let x ← hexValue b
    let y ← hexValue c
    let z ← hexValue d
    some (((w * 16 + x) * 16 + y) * 16 + z)
  | _ => none

/-- Whether a code unit is the first surrogate of a pair. -/
def isLeading (u : Nat) : Bool := 0xD800 ≤ u && u ≤ 0xDBFF

/-- Whether a code unit is the second surrogate of a pair. -/
def isTrailing (u : Nat) : Bool := 0xDC00 ≤ u && u ≤ 0xDFFF

/-- The character of a pair of surrogates. -/
def ofSurrogates (u v : Nat) : Char := Char.ofNat (0x10000 + (u - 0xD800) * 0x400 + (v - 0xDC00))

/-- What a letter after a backslash stands for. -/
def escaped? (c : Char) : Option Char :=
  match c with
  | '"' => some '"'
  | '\\' => some '\\'
  | '/' => some '/'
  | 'b' => some '\x08'
  | 'f' => some '\x0c'
  | 'n' => some '\n'
  | 'r' => some '\r'
  | 't' => some '\t'
  | _ => none

/-- Whether a character must not stand in quotes. -/
def isControl (c : Char) : Bool := c.toNat < 0x20

namespace Reading

/-- The code unit of four hexadecimal digits. -/
def codeUnit : Reading Nat := do
  let c ← get
  match fourHexValue? c.rest with
  | some u =>
    set { c with rest := c.rest.drop 4, mark := { c.mark with column := c.mark.column + 4 } }
    return u
  | none =>
    let next := c.rest.take 4
    let fault :=
      if (next.map Char.utf8Size).foldl (· + ·) 0 < 4 then SyntaxFault.endsIn .quotation else .wrongEscape
    throw (.wording fault (c.mark.afterBytes 4 next))

/-- A character that the second escape of a pair begins with. -/
def pairSign (c : Char) : Reading Unit := do
  match ← rest with
  | [] => faultHere (.endsIn .quotation)
  | x :: _ => if x = c then advance else faultAhead .openSurrogate

/-- A character that is escaped by number. -/
def numberedEscape : Reading Char := do
  let u ← codeUnit
  if isTrailing u then faultHere .loneSurrogate
  else if isLeading u then do
    pairSign '\\'
    pairSign 'u'
    let v ← codeUnit
    if isTrailing v then return ofSurrogates u v else faultHere .loneSurrogate
  else return Char.ofNat u

/-- An escape after its backslash. -/
def escape : Reading Char := do
  match ← rest with
  | [] => faultHere (.endsIn .quotation)
  | 'u' :: _ => do
    advance
    numberedEscape
  | c :: _ =>
    match escaped? c with
    | some x => do
      advance
      return x
    | none => faultAhead .wrongEscape

/-- The rest of a text in quotes, whose characters read so far are given in reverse. -/
def quotationRest : Nat → List Char → Reading String
  | 0, _ => faultHere (.endsIn .quotation)
  | fuel + 1, done => do
    match ← rest with
    | [] => faultHere (.endsIn .quotation)
    | '"' :: _ => do
      advance
      return String.ofList done.reverse
    | '\\' :: _ => do
      advance
      quotationRest fuel ((← escape) :: done)
    | c :: _ =>
      if isControl c then faultAhead .controlCharacter
      else do
        advance
        quotationRest fuel (c :: done)

/-- A text after its first quote. -/
def quotation : Reading String := do quotationRest (← bound) []

end Reading

end BucketProvisioning.Json
