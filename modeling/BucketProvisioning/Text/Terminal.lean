/-!
# Text for terminals

A text can carry orders to a terminal: control characters, and sequences that begin with ESC, such
as those that set a style.  Where there is no terminal, only the characters that would have been
shown are left (`plain`), unless the environment asks for style all the same (`wantsStyle`).

Sequences are of five kinds.  A *control sequence* (`ESC [`) goes on to its final letter, a *device
string* (`ESC P`) has a head that ends likewise, and then, as a *remark* (`ESC X`, `ESC ^`,
`ESC _`) does from its beginning, it hides everything up to the string terminator.  A *command*
(`ESC ]`) hides everything up to BEL.  Any other sequence is a few marks and a final character.
ESC, CAN and SUB break off every sequence.

White space is shown in the midst of a sequence too, except where everything is hidden.  It
suspends the sequence: what follows is shown up to the next order, and only from there on is the
sequence read further.
-/

set_option autoImplicit false

namespace BucketProvisioning.Text.Terminal

/-- What a terminal is reading. -/
inductive Sequence where
  /-- No sequence. -/
  | none
  /-- A sequence of which only ESC has been read. -/
  | begun
  /-- A sequence of marks. -/
  | marks
  /-- A control sequence. -/
  | control
  /-- The head of a device string: its beginning. -/
  | device
  /-- The head of a device string: its numbers. -/
  | deviceNumbers
  /-- The head of a device string: its marks. -/
  | deviceMarks
  /-- What is hidden up to the string terminator. -/
  | hidden
  /-- A command. -/
  | command
deriving DecidableEq, Repr

/-- Begins a sequence. -/
def esc : Char := '\x1b'

/-- The white space of which terminals know. -/
def isSpace (c : Char) : Bool := c ∈ [' ', '\t', '\n', '\x0c', '\r']

/-- Whether a character is shown outside of sequences. -/
def isShown (c : Char) : Bool := (' ' ≤ c && c ≠ '\x7f') || isSpace c

/-- Whether the string terminator, which is a single octet, is among the octets of a character
after the first one. -/
def holdsTerminator (c : Char) : Bool :=
  let n := c.toNat
  0x80 ≤ n
    && (n % 64 = 0x1c || (0x800 ≤ n && n / 64 % 64 = 0x1c) || (0x10000 ≤ n && n / 4096 % 64 = 0x1c))

namespace Sequence

/-- The sequence that the character after ESC begins. -/
def ofLetter : Char → Sequence
  | '[' => .control
  | 'P' => .device
  | 'X' | '^' | '_' => .hidden
  | ']' => .command
  | _ => .none

/-- What a terminal is reading after one more character. -/
def next (s : Sequence) (c : Char) : Sequence :=
  let isMark := ' ' ≤ c && c ≤ '/'
  let isNumber := '0' ≤ c && c ≤ ';'
  let isPrivate := '<' ≤ c && c ≤ '?'
  let isFinal := '@' ≤ c && c ≤ '~'
  if c = esc then .begun
  else if c = '\x18' || c = '\x1a' then .none
  else
    match s with
    | .none => .none
    | .begun =>
      if isMark then .marks
      else if isNumber || isPrivate || isFinal then ofLetter c
      else .begun
    | .marks => if isNumber || isPrivate || isFinal then .none else .marks
    | .control => if isFinal then .none else .control
    | .device =>
      if isMark then .deviceMarks
      else if isNumber || isPrivate then .deviceNumbers
      else if isFinal then .hidden
      else .device
    | .deviceNumbers =>
      if isMark then .deviceMarks
      else if isPrivate || isFinal then .hidden
      else .deviceNumbers
    | .deviceMarks => if isNumber || isPrivate || isFinal then .hidden else .deviceMarks
    | .hidden => if holdsTerminator c then .none else .hidden
    | .command => if c = '\x07' then .none else .command

/-- Whether the next character is shown although the sequence is not over, or because there is
none. -/
def shows (s : Sequence) (c : Char) : Bool :=
  match s with
  | .none => isShown c
  | .begun | .marks | .control => isSpace c && c ≠ ' '
  | .device | .deviceNumbers | .deviceMarks | .hidden | .command => false

end Sequence

/-- How far a text has been read. -/
structure Reader where
  /-- The sequence. -/
  sequence : Sequence := .none
  /-- Whether characters are being shown, so that the sequence is suspended. -/
  showing : Bool := true
deriving DecidableEq, Repr

/-- Reads a character; says whether it is shown. -/
def Reader.step (r : Reader) (c : Char) : Reader × Bool :=
  if r.showing && isShown c then
    (⟨if c.toNat < 0x80 then r.sequence else .none, true⟩, true)
  else if r.sequence.shows c then (⟨r.sequence, true⟩, true)
  else (⟨r.sequence.next c, false⟩, false)

/-- The characters that a reader shows. -/
def shown (r : Reader) : List Char → List Char
  | [] => []
  | c :: cs =>
    let (r, isShown) := r.step c
    if isShown then c :: shown r cs else shown r cs

/-- The text without what is meant for a terminal. -/
def plain (s : String) : String := String.ofList (shown {} s.toList)

/-! ## Style -/

/-- The text in a style, which is given by its orders. -/
def styled (orders : String) (s : String) : String := orders ++ s ++ "\x1b[0m"

/-- The text in bold type, for what has to be typed as it is. -/
def bold (s : String) : String := styled "\x1b[1m" s

/-- The text in bold type and underlined, for titles. -/
def title (s : String) : String := styled "\x1b[1m\x1b[4m" s

/-- The text in bold type and red, for what announces an error. -/
def alarm (s : String) : String := styled "\x1b[1m\x1b[31m" s

/-- The text in yellow, for what is wrong. -/
def wrong (s : String) : String := styled "\x1b[33m" s

/-- The text in green, for what would be right. -/
def right (s : String) : String := styled "\x1b[32m" s

/-- The variables that say whether to use style. -/
def styleVariables : List String := ["NO_COLOR", "CLICOLOR_FORCE"]

/-- Whether the environment asks for style where there is no terminal. -/
def wantsStyle (vars : List (String × String)) : Bool :=
  (List.lookup "NO_COLOR" vars).getD "" = "" && (List.lookup "CLICOLOR_FORCE" vars).getD "0" ≠ "0"

/-- A text with its style, or without it and all other orders. -/
def render (inStyle : Bool) (s : String) : String := if inStyle then s else plain s

end BucketProvisioning.Text.Terminal
