import BucketProvisioning.Text.Blank
import BucketProvisioning.Time.Calendar

/-!
# Reading timestamps

The reading of timestamps is more generous than the standard by which they are written: there may
be blanks before every number and every separator of date and time, numbers may be shorter than
usual, and a year may have a sign.  The text is judged from the left, so that of two faults the one
further left is reported; whether the date exists is judged last.  A minute may have a second 60,
the leap second.
-/

set_option autoImplicit false

namespace BucketProvisioning

open BucketProvisioning.Text (isBlank)

/-- Why a text is no timestamp. -/
inductive TimestampFault where
  /-- Something stands where something else has to. -/
  | misplaced
  /-- It ends too early. -/
  | tooShort
  /-- Something follows it. -/
  | tooLong
  /-- A number is too large, or the date does not exist. -/
  | outOfRange
  /-- The date does not exist in universal time. -/
  | impossible
deriving DecidableEq, Repr

/-- The wording of a fault. -/
def TimestampFault.message : TimestampFault → String
  | .misplaced => "input contains invalid characters"
  | .tooShort => "premature end of input"
  | .tooLong => "trailing input"
  | .outOfRange => "input is out of range"
  | .impossible => "no possible date and time matching input"

namespace Instant

/-- Reads something from the beginning of a text and leaves the rest of the text. -/
abbrev Reading := StateT (List Char) (Except TimestampFault)

/-- Leaves out the blanks at the beginning. -/
def skipBlanks : Reading Unit := modify fun cs => cs.dropWhile isBlank

/-- The value of decimal digits. -/
def digitsValue (ds : List Char) : Nat :=
  ds.foldl (fun n d => 10 * n + (d.toNat - '0'.toNat)) 0

/-- A number of at most `most` digits, or of any length. -/
def readNumber (most : Option Nat) : Reading Nat := do
  let cs ← get
  let all := cs.takeWhile Char.isDigit
  let ds := (most.map fun n => all.take n).getD all
  if ds.isEmpty then throw (if cs.isEmpty then .tooShort else .misplaced)
  if Nat.pow 2 63 ≤ digitsValue ds then throw .outOfRange
  set (cs.drop ds.length)
  return digitsValue ds

/-- A number of at most two digits that lies in a range, after blanks. -/
def readPart (least greatest : Nat) : Reading Nat := do
  skipBlanks
  let n ← readNumber (some 2)
  if n < least || greatest < n then throw .outOfRange
  return n

/-- A year: four digits, or any number of them after a sign. -/
def readYear : Reading Int := do
  skipBlanks
  let year : Int ←
    match ← get with
    | '-' :: cs => do
      set cs
      pure (-((← readNumber none : Nat) : Int))
    | '+' :: cs => do
      set cs
      pure ((← readNumber none : Nat) : Int)
    | _ => do pure ((← readNumber (some 4) : Nat) : Int)
  if year < -(Nat.pow 2 31 : Nat) || (Nat.pow 2 31 : Nat) ≤ year then throw .outOfRange
  return year

/-- A character that has to come next. -/
def expect (accept : Char → Bool) : Reading Unit := do
  match ← get with
  | c :: cs => if accept c then set cs else throw .misplaced
  | [] => throw .tooShort

/-- A separator, before which blanks may stand. -/
def readSeparator (c : Char) : Reading Unit := do
  skipBlanks
  expect (· = c)

/-- A date. -/
def readDate : Reading Date := do
  let year ← readYear
  readSeparator '-'
  let month ← readPart 1 12
  readSeparator '-'
  let day ← readPart 1 31
  return ⟨year, month, day⟩

/-- The microseconds of a fraction; further digits are dropped. -/
def readFraction : Reading Nat := do
  match ← get with
  | '.' :: cs =>
    let ds := cs.takeWhile Char.isDigit
    if ds.isEmpty then throw (if cs.isEmpty then .tooShort else .misplaced)
    set (cs.drop ds.length)
    return digitsValue (ds.take 6 ++ List.replicate (6 - ds.length) '0')
  | _ => return 0

/-- A time of day. -/
structure TimeOfDay where
  /-- The second of the day; a leap second counts as the one before it. -/
  second : Nat
  /-- The microseconds, increased by a second in a leap second. -/
  fraction : Nat

/-- Reads a time of day. -/
def readTime : Reading TimeOfDay := do
  let hour ← readPart 0 23
  readSeparator ':'
  let minute ← readPart 0 59
  readSeparator ':'
  let second ← readPart 0 60
  let fraction ← readFraction
  let start := hour * 3600 + minute * 60
  return if second = 60 then ⟨start + 59, perSecond + fraction⟩ else ⟨start + second, fraction⟩

/-- Two digits, the first of them up to a greatest one.  A single character of several bytes is
taken for two that are no digits. -/
def readPair (greatest : Char) : Reading Nat := do
  match ← get with
  | c :: d :: cs =>
    if !c.isDigit || !d.isDigit then throw .misplaced
    if greatest < c then throw .outOfRange
    set cs
    return digitsValue [c, d]
  | [c] => throw (if c.utf8Size = 1 then .tooShort else .misplaced)
  | [] => throw .tooShort

/-- The minutes of a zone after its sign. -/
def readOffset : Reading Nat := do
  let hours ← readPair '9'
  modify fun cs => cs.dropWhile fun c => c = ':' || isBlank c
  return hours * 60 + (← readPair '5')

/-- Whether a text begins with the name of universal time. -/
def beginsWithName (cs : List Char) : Bool := (cs.take 3).map Char.toUpper = ['U', 'T', 'C']

/-- The minutes by which a timestamp's zone is ahead of universal time. -/
def readZone : Reading Int := do
  skipBlanks
  let cs ← get
  if beginsWithName cs then
    set (cs.drop 3)
    return 0
  expect fun c => c = 'Z' || c = 'z' || c = '+' || c = '-' || c = '\u2212'
  match cs.head? with
  | some '+' => return ((← readOffset : Nat) : Int)
  | some '-' => return -((← readOffset : Nat) : Int)
  | some '\u2212' => return -((← readOffset : Nat) : Int)
  | _ => return 0

/-- Reads a timestamp. -/
def read (s : String) : Except TimestampFault Instant := do
  let reading : Reading (Date × TimeOfDay × Int) := do
    let date ← readDate
    expect fun c => c = 'T' || c = 't' || c = ' '
    let timeOfDay ← readTime
    return (date, timeOfDay, ← readZone)
  let ((date, timeOfDay, zone), rest) ← reading.run s.toList
  if !rest.all isBlank then throw .tooLong
  let day := date.toDays
  if !date.isValid || day < firstDay || lastDay < day || 24 * 60 ≤ zone.natAbs then
    throw .outOfRange
  let t : Instant := ⟨day * perDay + timeOfDay.second - zone * 60, timeOfDay.fraction⟩
  if !t.hasDate then throw .impossible
  return t

/-- Whether characters follow a pattern, in which a zero stands for any digit. -/
def followsPattern (pattern cs : List Char) : Bool :=
  pattern.length = cs.length
    && (pattern.zip cs).all fun (p, c) => if p = '0' then c.isDigit else p = c

/-- Whether a timestamp is written as the standard asks: every number at its full length, four
digits for the year, no blanks between them, and a zone of hours and minutes or `Z`. -/
def isStandardText (s : String) : Bool :=
  let cs := s.toList
  let zone :=
    match cs.drop 19 with
    | '.' :: rest => rest.dropWhile Char.isDigit
    | rest => rest
  followsPattern "0000-00-00".toList (cs.take 10)
    && followsPattern "00:00:00".toList ((cs.drop 11).take 8)
    && (zone = ['Z'] || zone = ['z'] || followsPattern "00:00".toList (zone.drop 1))

end Instant

end BucketProvisioning
