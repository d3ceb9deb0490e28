import BucketProvisioning.Reconcile.Program

/-!
# Keeping credentials

A secret is created once and never written again: a second grant for the same access finds it and
leaves it alone.  Deleting a secret that is gone already counts as done.
-/

set_option autoImplicit false

namespace BucketProvisioning.Reconcile

open BucketProvisioning BucketProvisioning.Resource

variable {α : Type}

/-- Creates a secret unless one of its name exists, and says whether it did. -/
def materialize (ns : String) (secret : Secret) : Task α Bool := do
  let found : Option Secret ← Task.call (.getSecret ns secret.metadata.nameOrEmpty)
  match found with
  | some _ => return false
  | none =>
    let _ : Unit ← Task.call (.createSecret ns secret)
    return true

/-- Deletes a secret, if it is there. -/
def removeSecret (ns name : String) : Task α Unit := do
  let result : Except Failure Unit ← Task.attempt (Task.call (.deleteSecret ns name))
  match result with
  | .ok () => return ()
  | .error e => if e.isNotFound then return () else throw e

end BucketProvisioning.Reconcile
