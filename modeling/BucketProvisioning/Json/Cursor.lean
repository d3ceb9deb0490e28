import BucketProvisioning.Json.DecodeError

/-!
# Reading a text from left to right

A `Cursor` stands in the text of a document; a `Reading` moves it and may end in a `Complaint`.
Complaints tell where they arose, by line and column, a column being the number of bytes since the
line began.  A complaint about a character counts the first byte of the character, one about what
has been read does not.  A complaint about the content of a value has no place at first and gets
one (`placed`) where the innermost value with an end of its own has been read.

A reading that fails leaves the cursor where it failed.
-/

set_option autoImplicit false

namespace BucketProvisioning.Json

/-- A place in a text. -/
structure Mark where
  /-- The line, from 1. -/
  line : Nat := 1
  /-- The number of bytes between the beginning of the line and the place. -/
  column : Nat := 0
deriving DecidableEq, Repr

namespace Mark

/-- The wording of a place. -/
def text (m : Mark) : String :=
  " at line " ++ toString m.line ++ " column " ++ toString m.column

/-- The place after a character. -/
def after (m : Mark) (c : Char) : Mark :=
  if c = '\n' then ⟨m.line + 1, 0⟩ else ⟨m.line, m.column + c.utf8Size⟩

/-- The place after the first byte of the characters that follow. -/
def into (m : Mark) : List Char → Mark
  | [] => m
  | c :: _ => if c = '\n' then ⟨m.line + 1, 0⟩ else ⟨m.line, m.column + 1⟩

/-- The place after a number of bytes of the characters that follow. -/
def afterBytes (m : Mark) : Nat → List Char → Mark
  | _, [] => m
  | n, c :: cs =>
    if c.utf8Size ≤ n then (m.after c).afterBytes (n - c.utf8Size) cs else ⟨m.line, m.column + n⟩

end Mark

/-- The parts of a document that can be left unfinished. -/
inductive Part where
  /-- A value. -/
  | value
  /-- An array. -/
  | list
  /-- An object. -/
  | object
  /-- A text in quotes. -/
  | quotation
deriving DecidableEq, Repr

/-- The name of a part. -/
def Part.text : Part → String
  | .value => "a value"
  | .list => "a list"
  | .object => "an object"
  | .quotation => "a string"

/-- Why a text is not the text of a document. -/
inductive SyntaxFault where
  /-- It ends in the middle of a part. -/
  | endsIn (part : Part)
  /-- There is no colon between a name and its value. -/
  | noColon
  /-- After a part of an array there is neither a comma nor the end. -/
  | noListEnd
  /-- After a part of an object there is neither a comma nor the end. -/
  | noObjectEnd
  /-- A word begins like a value and goes on otherwise. -/
  | wrongWord
  /-- There is no value. -/
  | noValue
  /-- The name of a field is not in quotes. -/
  | unquotedName
  /-- A comma precedes the end of an array or object. -/
  | commaBeforeEnd
  /-- Something follows what should be all. -/
  | unexpectedRest
  /-- A backslash is followed by something that has no meaning. -/
  | wrongEscape
  /-- A number is not written as numbers are. -/
  | wrongNumber
  /-- A number is too large for floating point. -/
  | hugeNumber
  /-- A control character stands in quotes. -/
  | controlCharacter
  /-- A surrogate is not preceded by the one that it belongs to. -/
  | loneSurrogate
  /-- A surrogate is not followed by another escape. -/
  | openSurrogate
  /-- Arrays and objects are nested too deeply. -/
  | tooDeep
deriving DecidableEq, Repr

namespace SyntaxFault

/-- The wording of a fault. -/
def message : SyntaxFault → String
  | .endsIn part => "EOF while parsing " ++ part.text
  | .noColon => "expected `:`"
  | .noListEnd => "expected `,` or `]`"
  | .noObjectEnd => "expected `,` or `\x7d`"
  | .wrongWord => "expected ident"
  | .noValue => "expected value"
  | .unquotedName => "key must be a string"
  | .commaBeforeEnd => "trailing comma"
  | .unexpectedRest => "trailing characters"
  | .wrongEscape => "invalid escape"
  | .wrongNumber => "invalid number"
  | .hugeNumber => "number out of range"
  | .controlCharacter =>
    "control character (\\u0000-\\u001F) found while parsing a string"
  | .loneSurrogate => "lone leading surrogate in hex escape"
  | .openSurrogate => "unexpected end of hex escape"
  | .tooDeep => "recursion limit exceeded"

/-- Whether more text could have mended the fault. -/
def isUnfinished : SyntaxFault → Bool
  | .endsIn _ => true
  | _ => false

end SyntaxFault

/-- Why no value can be read from a text. -/
inductive Complaint where
  /-- It is not the text of a document. -/
  | wording (fault : SyntaxFault) (place : Mark)
  /-- The document is not a value; the place is filled in later. -/
  | content (e : DecodeError) (place : Option Mark := none)
deriving DecidableEq, Repr

namespace Complaint

/-- The text of a complaint. -/
def message : Complaint → String
  | .wording fault place => fault.message ++ place.text
  | .content e place => e.message ++ (place.map Mark.text).getD ""

/-- The complaint with a place, if it had none. -/
def placeAt (c : Complaint) (m : Mark) : Complaint :=
  match c with
  | .content e none => .content e (some m)
  | c => c

/-- Whether more text could have helped. -/
def isUnfinished : Complaint → Bool
  | .wording fault _ => fault.isUnfinished
  | .content _ _ => false

end Complaint

/-- A place in a text with what follows it. -/
structure Cursor where
  /-- What has not been read. -/
  rest : List Char
  /-- The place. -/
  mark : Mark := {}
  /-- More characters than the whole text has; nothing is repeated more often. -/
  bound : Nat
deriving Repr

/-- The beginning of a text. -/
def Cursor.start (s : String) : Cursor :=
  let cs := s.toList
  { rest := cs, bound := cs.length + 1 }

/-- Reads something. -/
abbrev Reading := ExceptT Complaint (StateM Cursor)

namespace Reading

variable {α : Type}

/-- A fault of what has been read. -/
def faultHere (fault : SyntaxFault) : Reading α := do
  throw (.wording fault (← get).mark)

/-- A fault of the next character. -/
def faultAhead (fault : SyntaxFault) : Reading α := do
  let c ← get
  throw (.wording fault (c.mark.into c.rest))

/-- A value that may be wrong. -/
def judged : Except DecodeError α → Reading α
  | .ok a => pure a
  | .error e => throw (.content e)

/-- What is read otherwise, with a place for a complaint that has none. -/
def placed (r : Reading α) : Reading α := fun c =>
  match r c with
  | (.ok a, c) => (.ok a, c)
  | (.error e, c) => (.error (e.placeAt c.mark), c)

/-- The unread text. -/
def rest : Reading (List Char) := do return (← get).rest

/-- How often something may be repeated. -/
def bound : Reading Nat := do return (← get).bound

/-- Passes over the next character. -/
def advance : Reading Unit := modify fun c =>
  match c.rest with
  | [] => c
  | x :: xs => { c with rest := xs, mark := c.mark.after x }

/-- Whether a character may stand between the parts of a document. -/
def isGap (c : Char) : Bool := c = ' ' || c = '\n' || c = '\r' || c = '\t'

/-- The text after the blanks at its beginning, with its place. -/
def passGap : Mark → List Char → Mark × List Char
  | m, [] => (m, [])
  | m, c :: cs => if isGap c then passGap (m.after c) cs else (m, c :: cs)

/-- The next character that is no blank; the blanks before it are passed over. -/
def ahead? : Reading (Option Char) := do
  let c ← get
  let (mark, rest) := passGap c.mark c.rest
  set { c with rest, mark }
  return rest.head?

/-- Passes over the characters of a word that has begun. -/
def word : List Char → Reading Unit
  | [] => return ()
  | w :: ws => do
    match ← rest with
    | [] => faultHere (.endsIn .value)
    | c :: _ =>
      if c = w then do
        advance
        word ws
      else faultAhead .wrongWord

/-- Takes the digits that come next. -/
def takeDigits : Reading (List Char) := do
  let c ← get
  let ds := c.rest.takeWhile Char.isDigit
  let mark := { c.mark with column := c.mark.column + ds.length }
  set { c with rest := c.rest.drop ds.length, mark }
  return ds

/-- Nothing but blanks may follow. -/
def ending : Reading Unit := do
  if (← ahead?).isSome then faultAhead .unexpectedRest

/-- What a reading makes of a whole text. -/
def ofString (r : Reading α) (s : String) : Except Complaint α :=
  let all : Reading α := do
    let a ← r
    ending
    return a
  (all.run.run (.start s)).1

end Reading

end BucketProvisioning.Json
