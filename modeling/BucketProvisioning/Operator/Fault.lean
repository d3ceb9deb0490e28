import BucketProvisioning.Failure

/-!
# Why the program ends without success

The faults that end the whole program, by cause, and the wording of each.
-/

set_option autoImplicit false

namespace BucketProvisioning.Operator

open BucketProvisioning

/-- Why the program ends without success. -/
inductive Fault where
  /-- The engine cannot run with the settings. -/
  | settings (e : Failure)
  /-- The backends cannot be put together. -/
  | backends (e : Failure)
  /-- There are no backends. -/
  | noBackends
  /-- Nothing says where the API server is. -/
  | noClient (reason : String)
  /-- A definition could not be installed. -/
  | installation (name : String) (e : ApiFault)
  /-- The lease was lost. -/
  | leadershipLost
deriving DecidableEq, Repr

namespace Fault

/-- The wording of a fault. -/
def message : Fault → String
  | .settings e => "Invalid configuration: " ++ e.message
  | .backends e => "Invalid driver configuration: " ++ e.message
  | .noBackends => "No bucket drivers configured; set FAKE_DRIVERS or BUCKET_DRIVERS"
  | .noClient reason => "Failed to create Kubernetes client: " ++ reason
  | .installation name e => "Failed to install CRD " ++ name ++ ": " ++ e.message
  | .leadershipLost => "leadership lost"

/-- What the program says about a fault when it ends. -/
def report (f : Fault) : String := "Error: " ++ f.message ++ "\n"

end Fault

end BucketProvisioning.Operator
