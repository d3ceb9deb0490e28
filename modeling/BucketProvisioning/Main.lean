import BucketProvisioning.Json.Printer
import BucketProvisioning.Operator.Plan

/-!
# The command line of the program

Reads the arguments and the variables of the environment and prints what follows from them.  How
requests travel to an API server is not part of this library, so the program ends where it would
need one.
-/

set_option autoImplicit false

open BucketProvisioning BucketProvisioning.CommandLine BucketProvisioning.Operator

/-- The variables that matter, as far as they are set. -/
def BucketProvisioning.CommandLine.environment : IO Variables := do
  let names := Declaration.all.filterMap Declaration.variableName? ++ Text.Terminal.styleVariables
  names.filterMapM fun name => do
    return (← IO.getEnv name).map fun value => (name, value)

/-- Runs the program. -/
def main (arguments : List String) : IO UInt32 := do
  let response := Response.ofArguments (← environment) arguments
  match response with
  | .answer text => IO.print text
  | .manifests documents =>
    for d in documents do
      IO.println ("---\n" ++ d.compact)
  | .run _ => IO.eprint (Fault.noClient "no configuration was found").report
  | _ => IO.eprint response.complaint
  match response with
  | .run _ => return 1
  | _ => return UInt32.ofNat response.exitCode
