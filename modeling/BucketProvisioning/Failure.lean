import BucketProvisioning.Text.Quoted

/-!
# Failures

What can go wrong while resources are reconciled, by cause.  `Failure.message` is the one place
that words a cause; `isRetryable` and `isNotFound` are what the controllers decide by.
-/

set_option autoImplicit false

namespace BucketProvisioning

open BucketProvisioning.Text

/-- The API server's answer to a request that it refuses. -/
structure Rejection where
  /-- The outcome, usually `Failure`. -/
  status : String
  /-- What is wrong, for people. -/
  message : String
  /-- What is wrong, in one word. -/
  reason : String
  /-- The status code of the answer. -/
  code : Nat
deriving DecidableEq, Repr, Inhabited

/-- Why a request to the API server has no usable answer. -/
inductive ApiFault where
  /-- The server refused it. -/
  | rejected (r : Rejection)
  /-- It did not get through. -/
  | unreachable (reason : String)
  /-- The request names no object. -/
  | unnamed
  /-- The request's address cannot be written. -/
  | unaddressable (reason : String)
  /-- The answer is not the object that was asked for. -/
  | undecodable (reason : String)
deriving DecidableEq, Repr

/-- Why a step could not be done. -/
inductive Failure where
  /-- A request to the API server failed. -/
  | api (fault : ApiFault)
  /-- A resource is configured in a way that cannot work. -/
  | invalid (resource message : String)
  /-- An object that is needed does not exist. -/
  | missing (kind name : String)
  /-- A backend could not do what it was asked. -/
  | backend (backendType message : String)
  /-- A value cannot be written or read. -/
  | encoding (message : String)
  /-- The state found does not allow the step yet. -/
  | internal (context message : String)
deriving DecidableEq, Repr

namespace Rejection

/-- The wording of a refusal. -/
def describe (r : Rejection) : String :=
  "ApiError: " ++ r.message ++ ": " ++ r.reason
    ++ " (ErrorResponse \x7b status: " ++ quoted r.status ++ ", message: " ++ quoted r.message
    ++ ", reason: " ++ quoted r.reason
    ++ ", code: " ++ toString r.code ++ " \x7d)"

/-- A refusal with the usual status. -/
def failure (code : Nat) (reason message : String) : Rejection :=
  ⟨"Failure", message, reason, code⟩

end Rejection

namespace ApiFault

/-- The wording of a fault. -/
def message : ApiFault → String
  | .rejected r => r.describe
  | .unreachable reason => "ServiceError: " ++ reason
  | .unnamed =>
    "Failed to build request: failed to validate request: A non-empty name is required"
  | .unaddressable reason =>
    "Failed to build request: failed to build request: " ++ reason
  | .undecodable reason => "Error deserializing response: " ++ reason

/-- Whether the server refused a request with this code. -/
def hasCode (code : Nat) : ApiFault → Bool
  | .rejected r => r.code = code
  | _ => false

end ApiFault

namespace Failure

/-- The wording of a failure. -/
def message : Failure → String
  | .api fault => "kubernetes error: " ++ fault.message
  | .invalid resource message => "validation error for " ++ resource ++ ": " ++ message
  | .missing kind name => kind ++ " " ++ name ++ " not found"
  | .backend backendType message => "driver error [" ++ backendType ++ "]: " ++ message
  | .encoding message => "serialization error: " ++ message
  | .internal context message => "internal error [" ++ context ++ "]: " ++ message

/-- Whether trying again later can help: everything may recover except a configuration that
cannot work. -/
def isRetryable : Failure → Bool
  | .invalid _ _ => false
  | _ => true

/-- Whether the failure says that the object does not exist. -/
def isNotFound : Failure → Bool
  | .missing _ _ => true
  | .api fault => fault.hasCode 404
  | _ => false

end Failure

end BucketProvisioning
