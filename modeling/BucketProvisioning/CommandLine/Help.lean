import BucketProvisioning.CommandLine.Reading

/-!
# What the program says about itself

The answers to the questions that can be asked instead of starting the program, in style.
-/

set_option autoImplicit false

namespace BucketProvisioning.CommandLine

open BucketProvisioning.Text.Terminal

/-- What the program is. -/
def programPurpose : String :=
  "Bucket operator - CRD-driven provisioning of object-storage buckets"

/-- Which version it is. -/
def programVersion : String := "0.1.0"

/-- How far the purpose of an option is indented. -/
def purposeIndent : String := "          "

namespace Declaration

/-- How an option is written, with its name of one letter. -/
def heading (d : Declaration) : String :=
  (match d.short? with
    | some c => "  " ++ bold (String.ofList ['-', c]) ++ ", "
    | none => "      ") ++ d.shownForm

/-- Where else the value of an option comes from: its variable with what that is set to, and its
default. -/
def remarks (vars : Variables) (d : Declaration) : List String :=
  (d.variableName?.toList.map fun v => "[env: " ++ v ++ "=" ++ (List.lookup v vars).getD "" ++ "]")
    ++ (d.default?.toList.map fun s => "[default: " ++ s ++ "]")

/-- What the program says about an option. -/
def describe (vars : Variables) (d : Declaration) : String :=
  let text := " ".intercalate (d.purpose :: d.remarks vars)
  d.heading ++ "\n" ++ purposeIndent ++ text.replace "\n" ("\n" ++ purposeIndent) ++ "\n"

end Declaration

/-- The answer to a question. -/
def Inquiry.answer (vars : Variables) : Inquiry → String
  | .help =>
    programPurpose ++ "\n\n" ++ usageLine [] ++ "\n\n" ++ title "Options:" ++ "\n"
      ++ String.join (Declaration.all.map (Declaration.describe vars))
  | .version => programName ++ " " ++ programVersion ++ "\n"

end BucketProvisioning.CommandLine
