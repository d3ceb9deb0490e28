import BucketProvisioning.Reconcile.Program

/-!
# What a cluster is asked

The name and the arguments by which a call is known, and the log of calls and events.
-/

set_option autoImplicit false

namespace BucketProvisioning.Reconcile.Call

open BucketProvisioning BucketProvisioning.Backend BucketProvisioning.Resource

/-- The text of an object's key, empty if it has none. -/
def keyText {α : Type} [Object α] (obj : α) : String :=
  ((ObjectKey.ofObject? obj).map ObjectKey.text).getD ""

/-- The name of a call. -/
def name : Call → String
  | .getClass _ => "get_class"
  | .getClaim _ _ => "get_claim"
  | .writeClaimStatus _ _ => "update_claim_status"
  | .writeAccessStatus _ _ => "update_access_status"
  | .getSecret _ _ => "secret_get"
  | .createSecret _ _ => "secret_create"
  | .deleteSecret _ _ => "secret_delete"
  | .backend _ (.createBucket _ _) => "create_bucket"
  | .backend _ (.deleteBucket _ _) => "delete_bucket"
  | .backend _ (.grantAccess _ _) => "grant_access"
  | .backend _ (.revokeAccess _ _) => "revoke_access"

/-- The arguments of a call. -/
def arguments : Call → List String
  | .getClass name => [name]
  | .getClaim ns name => [ns, name]
  | .writeClaimStatus claim _ => [keyText claim]
  | .writeAccessStatus access _ => [keyText access]
  | .getSecret ns name => [ns, name]
  | .createSecret ns secret => [ns, secret.metadata.nameOrEmpty]
  | .deleteSecret ns name => [ns, name]
  | .backend t (.createBucket name region) => [t, name, region]
  | .backend t (.deleteBucket bucketId region) => [t, bucketId, region]
  | .backend t (.grantAccess bucketId account) => [t, bucketId, account]
  | .backend t (.revokeAccess bucketId accountId) => [t, bucketId, accountId]

/-- Whether a call changes something beyond the answer. -/
def isWrite : Call → Bool
  | .getClass _ => false
  | .getClaim _ _ => false
  | .writeClaimStatus _ _ => true
  | .writeAccessStatus _ _ => true
  | .getSecret _ _ => false
  | .createSecret _ _ => true
  | .deleteSecret _ _ => false
  | .backend _ _ => true

end BucketProvisioning.Reconcile.Call

namespace BucketProvisioning.Cluster

open BucketProvisioning BucketProvisioning.Reconcile BucketProvisioning.Resource

/-- Something that a cluster was asked. -/
inductive LogEntry where
  /-- A call began. -/
  | call (name : String) (arguments : List String)
  /-- An event was published. -/
  | event (e : Event) (about : ObjectReference)
deriving Repr

namespace LogEntry

/-- The entry for the beginning of a call. -/
def ofCall (c : Call) : LogEntry := .call c.name c.arguments

/-- An entry as a document. -/
def encode : LogEntry → Json
  | .call name arguments => Json.texts (name :: arguments)
  | .event e about =>
    .arr [.str "event", .str e.type.text, .str e.reason, .str e.action,
      Json.orNull .str e.note, about.encode]

end LogEntry

end BucketProvisioning.Cluster
