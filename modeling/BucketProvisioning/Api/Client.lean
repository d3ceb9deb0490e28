import BucketProvisioning.Api.Report
import BucketProvisioning.Api.Request
import BucketProvisioning.Reconcile.Program

/-!
# Calls as requests

How the calls of the reconcilers are made to the API server: which request each of them sends, and
what is made of the reply.  An `Exchange` is a request with its way of reading the reply; it does
not say how requests travel.
-/

set_option autoImplicit false

namespace BucketProvisioning.Api

open BucketProvisioning BucketProvisioning.Reconcile BucketProvisioning.Resource
open BucketProvisioning.Backend

/-- A request, unless it cannot be written, and how its reply is read. -/
structure Exchange (β : Type) where
  /-- The request. -/
  request : Except ApiFault Request
  /-- What is made of the reply. -/
  read : Delivery → Except ApiFault β

/-- Sends the request of an exchange, if it can be written, and reads the reply. -/
def Exchange.run {m : Type → Type} [Monad m] {β : Type} (send : Request → m Delivery)
    (x : Exchange β) : m (Except ApiFault β) := do
  match x.request with
  | .ok r => return x.read (← send r)
  | .error e => return .error e

namespace Client

/-- A request that is answered with an object. -/
def expecting {α : Type} (d : Decoder α) (r : Except ApiFault Request) : Exchange α :=
  ⟨r, Delivery.read d⟩

/-- Reads an object. -/
def get (α : Type) [Object α] (ns : Option String) (name : String) : Exchange α :=
  expecting (Object.decode (α := α)) (Request.get (.ofKind α ns) name)

/-- Writes the status of an object as the given copy shows it. -/
def patchStatus {α : Type} [Object α] (obj : α) (status : Json) : Exchange α :=
  expecting (Object.decode (α := α)) (Request.patchStatus obj status)

/-- Reads a secret. -/
def getSecret (ns name : String) : Exchange Secret :=
  expecting Secret.decode (Request.get (.secrets ns) name)

/-- Creates a secret. -/
def createSecret (ns : String) (secret : Secret) : Exchange Secret :=
  expecting Secret.decode (Request.create (.secrets ns) secret.encode)

/-- Deletes a secret. -/
def deleteSecret (ns name : String) : Exchange Unit :=
  ⟨Request.delete (.secrets ns) name, Delivery.readDeleted Secret.decode⟩

/-- A refusal because there is no such object is the failure that names the object. -/
def orMissing {β : Type} (kind name : String) : Except ApiFault β → Except Failure β
  | .ok b => .ok b
  | .error fault =>
    if fault.hasCode 404 then .error (.missing kind name) else .error (.api fault)

/-- A refusal whose reason is that there is no such object means that there is none. -/
def orNone {β : Type} : Except ApiFault β → Except Failure (Option β)
  | .ok b => .ok (some b)
  | .error (.rejected r) =>
    if r.reason = "NotFound" then .ok none else .error (.api (.rejected r))
  | .error fault => .error (.api fault)

/-- An object that is already there need not be created. -/
def orPresent {β : Type} : Except ApiFault β → Except Failure Unit
  | .ok _ => .ok ()
  | .error fault => if fault.hasCode 409 then .ok () else .error (.api fault)

/-- Makes a call: `send` carries requests to the API server, `backend` carries operations to the
backends. -/
def perform {m : Type → Type} [Monad m] (send : Request → m Delivery)
    (backend : String → (op : Operation) → m (Except Failure op.Result)) :
    (c : Call) → m (Except Failure c.Result)
  | .getClass name => do
    return orMissing "BucketClass" name (← (get BucketClass none name).run send)
  | .getClaim ns name => do
    return orMissing "BucketClaim" name (← (get BucketClaim (some ns) name).run send)
  | .writeClaimStatus claim status => do
    return orMissing "BucketClaim" claim.metadata.nameOrEmpty
      (← (patchStatus claim status.encode).run send)
  | .writeAccessStatus access status => do
    return orMissing "BucketAccess" access.metadata.nameOrEmpty
      (← (patchStatus access status.encode).run send)
  | .getSecret ns name => do
    return orNone (← (getSecret ns name).run send)
  | .createSecret ns secret => do
    return orPresent (← (createSecret ns secret).run send)
  | .deleteSecret ns name => do
    return orMissing "Secret" name (← (deleteSecret ns name).run send)
  | .backend backendType op => backend backendType op

end Client

end BucketProvisioning.Api
