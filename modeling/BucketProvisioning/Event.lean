import BucketProvisioning.Resource.Metadata

/-!
# Events

What the operator tells people about an object: whether it is normal, what happened, and what the
operator was doing.
-/

set_option autoImplicit false

namespace BucketProvisioning

/-- Whether an event tells of trouble. -/
inductive EventType where
  /-- All is well. -/
  | normal
  /-- Something is wrong. -/
  | warning
deriving DecidableEq, Repr

/-- The name of a type of event. -/
def EventType.text : EventType → String
  | .normal => "Normal"
  | .warning => "Warning"

/-- An event about an object. -/
structure Event where
  /-- Whether it tells of trouble. -/
  type : EventType
  /-- What happened, in one word. -/
  reason : String
  /-- What was being done, in one word. -/
  action : String
  /-- What happened, for people. -/
  note : Option String := none
deriving DecidableEq, Repr

namespace Event

/-- What can have happened. -/
inductive Reason where
  /-- A bucket was created for a claim. -/
  | bucketProvisioned
  /-- No bucket could be created. -/
  | provisioningFailed
  /-- The bucket of a claim that is gone was deleted. -/
  | bucketDeleted
  /-- The bucket of a claim that is gone was kept. -/
  | bucketRetained
  /-- Access was granted and its credentials are stored. -/
  | accessGranted
  /-- No access could be granted. -/
  | accessFailed
  /-- The access of a request that is gone was revoked. -/
  | accessRevoked
  /-- A step of a teardown failed. -/
  | cleanupFailed
  /-- The specification cannot work and is not tried again until it changes. -/
  | validationFailed
deriving DecidableEq, Repr

/-- The word for what happened. -/
def Reason.text : Reason → String
  | .bucketProvisioned => "BucketProvisioned"
  | .provisioningFailed => "ProvisioningFailed"
  | .bucketDeleted => "BucketDeleted"
  | .bucketRetained => "BucketRetained"
  | .accessGranted => "AccessGranted"
  | .accessFailed => "AccessFailed"
  | .accessRevoked => "AccessRevoked"
  | .cleanupFailed => "CleanupFailed"
  | .validationFailed => "ValidationFailed"

/-- What can be done. -/
inductive Action where
  /-- Creating a bucket. -/
  | provision
  /-- Granting access. -/
  | grant
  /-- Tearing down what belongs to an object that is gone. -/
  | delete
deriving DecidableEq, Repr

/-- The word for what was done. -/
def Action.text : Action → String
  | .provision => "Provision"
  | .grant => "Grant"
  | .delete => "Delete"

/-- A normal event. -/
def normal (reason : Reason) (action : Action) (note : String) : Event :=
  ⟨.normal, reason.text, action.text, some note⟩

/-- An event that tells of trouble. -/
def warning (reason : Reason) (action : Action) (note : String) : Event :=
  ⟨.warning, reason.text, action.text, some note⟩

end Event

end BucketProvisioning
