import BucketProvisioning.Text.Similarity
import BucketProvisioning.Text.Terminal

/-!
# Misuse of the command line

What can be wrong with the way in which the program is called, by cause, and the wording of each.
Options appear here in the form in which they are written.  Messages are in style.
-/

set_option autoImplicit false

namespace BucketProvisioning.CommandLine

open BucketProvisioning.Text BucketProvisioning.Text.Terminal

/-- The name by which the program is called. -/
def programName : String := "bucket-operator"

/-- What is wrong with a call of the program. -/
inductive Misuse where
  /-- An argument is not known; it may be similar to an option, and some options were given. -/
  | unexpected (argument : String) (similar? : Option String) (given : List String)
  /-- An option that takes no value has got one. -/
  | unexpectedValue (value option : String) (given : List String)
  /-- An option lacks its value, which may have to be one of a few. -/
  | noValue (option : String) (choices : List String)
  /-- An option is given more than once. -/
  | repeated (option : String)
  /-- A value cannot be used. -/
  | badValue (value option reason : String)
  /-- A value is none of those that can be used. -/
  | badChoice (value option : String) (choices : List String)
deriving DecidableEq, Repr

/-- How the program is called with some options. -/
def usageLine (given : List String) : String :=
  title "Usage:" ++ " " ++ bold programName ++ " "
    ++ (if given.isEmpty then "[OPTIONS]" else " ".intercalate given.eraseDups)

namespace Misuse

/-- A usage line as a part of a message. -/
def usagePart (given : List String) : String := "\n\n" ++ usageLine given

/-- The choices as a part of a message. -/
def choicesPart (choices : List String) : String :=
  if choices.isEmpty then ""
  else "\n  [possible values: " ++ ", ".intercalate (choices.map right) ++ "]"

/-- A hint at something similar as a part of a message. -/
def hintPart (kind : String) : Option String → String
  | some word =>
    "\n\n  " ++ right "tip:" ++ " a similar " ++ kind ++ " exists: '" ++ right word ++ "'"
  | none => ""

/-- What is wrong, and what could be meant. -/
def describe : Misuse → String
  | .unexpected argument similar? given =>
    "unexpected argument '" ++ wrong argument ++ "' found" ++ hintPart "argument" similar?
      ++ usagePart given
  | .unexpectedValue value option given =>
    "unexpected value '" ++ wrong value ++ "' for '" ++ bold option
      ++ "' found; no more were expected" ++ usagePart given
  | .noValue option choices =>
    "a value is required for '" ++ bold option ++ "' but none was supplied" ++ choicesPart choices
  | .repeated option =>
    "the argument '" ++ wrong option ++ "' cannot be used multiple times" ++ usagePart []
  | .badValue value option reason =>
    "invalid value '" ++ wrong value ++ "' for '" ++ bold option ++ "': " ++ reason
  | .badChoice value option choices =>
    "invalid value '" ++ wrong value ++ "' for '" ++ bold option ++ "'" ++ choicesPart choices
      ++ hintPart "value" (closest? value choices)

/-- The wording of a misuse. -/
def message (m : Misuse) : String :=
  alarm "error:" ++ " " ++ m.describe ++ "\n\nFor more information, try '" ++ bold "--help"
    ++ "'.\n"

end Misuse

end BucketProvisioning.CommandLine
