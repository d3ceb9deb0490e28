import BucketProvisioning.Failure
import BucketProvisioning.Json.Printer
import BucketProvisioning.Resource.Class
import BucketProvisioning.Table
import BucketProvisioning.Text.Blank
import BucketProvisioning.Uri

/-!
# The registry of backends

A registry says which backend types are served and how.  It is put together once, from the types
kept in memory and the addresses of remote backends, and refuses to serve one type in two ways: a
backend that hid another would receive its buckets and deletions.
-/

set_option autoImplicit false

namespace BucketProvisioning.Backend

open BucketProvisioning BucketProvisioning.Resource BucketProvisioning.Text

/-- Where a remote backend is found. -/
structure Endpoint where
  /-- The backend type that it serves. -/
  backendType : String
  /-- Its address. -/
  address : String
deriving DecidableEq, Repr

/-- How a backend type is served. -/
inductive Service where
  /-- By a backend in memory. -/
  | inMemory
  /-- By a remote backend. -/
  | remote (address : String)
deriving DecidableEq, Repr

/-- The services by backend type. -/
structure Registry where
  /-- How each type is served. -/
  services : Table String Service := {}
deriving Inhabited

namespace Endpoint

/-- Reads an endpoint, a type and an address with `=` between them. -/
def parse (s : String) : Except Failure Endpoint :=
  match splitFirst '=' s with
  | some (backendType, address) =>
    if (trim backendType).isEmpty || (trim address).isEmpty then malformed s
    else .ok ⟨trim backendType, trim address⟩
  | none => malformed s
where
  /-- The refusal of a text that is not an endpoint. -/
  malformed (s : String) : Except Failure Endpoint :=
    .error (.invalid "config"
      ("driver " ++ quoted s ++ " is not of the form backend-type=endpoint"))

/-- Accepts an endpoint whose address can be used; `isAddress` says which can. -/
def connect (e : Endpoint) (isAddress : String → Bool := Uri.isValid) : Except Failure Service :=
  if isAddress e.address then .ok (.remote e.address)
  else
    .error (.backend e.backendType ("invalid endpoint " ++ quoted e.address ++ ": invalid URI"))

end Endpoint

namespace Registry

/-- How a backend type is served, if it is. -/
def get? (r : Registry) (backendType : String) : Option Service := r.services.get? backendType

/-- Whether a backend type is served. -/
def serves (r : Registry) (backendType : String) : Bool := r.services.contains backendType

/-- Serves a type, in place of any earlier service. -/
def register (r : Registry) (backendType : String) (s : Service) : Registry :=
  ⟨r.services.insert backendType s⟩

/-- Serves a type that is not served yet. -/
def registerUnique (r : Registry) (backendType : String) (s : Service) :
    Except Failure Registry :=
  if r.serves backendType then
    .error (.invalid "config"
      ("backend type " ++ quoted backendType ++ " is configured more than once"))
  else .ok (r.register backendType s)

/-- Serves the types of a list from memory. -/
def registerAll (r : Registry) (types : List String) : Except Failure Registry :=
  types.foldlM (fun r t => r.registerUnique t .inMemory) r

/-- Serves the types of a list remotely. -/
def connectAll (r : Registry) (endpoints : List Endpoint)
    (isAddress : String → Bool := Uri.isValid) : Except Failure Registry :=
  endpoints.foldlM (fun r e => do r.registerUnique e.backendType (← e.connect isAddress)) r

/-- The types of a list that are not blank, without blanks around them. -/
def typeNames (types : List String) : List String :=
  (types.map trim).filter (!·.isEmpty)

/-- The registry for types kept in memory and remote backends. -/
def ofConfig (inMemory : List String) (endpoints : List Endpoint)
    (isAddress : String → Bool := Uri.isValid) : Except Failure Registry := do
  (← registerAll {} (typeNames inMemory)).connectAll endpoints isAddress

/-- The served types in order. -/
def backendTypes (r : Registry) : List String := r.services.keys.mergeSort Json.noLater

/-- Whether no type is served. -/
def isEmpty (r : Registry) : Bool := r.services.isEmpty

/-- The backend type of a class, if it is served. -/
def forClass (r : Registry) (c : BucketClass) : Except Failure String :=
  match c.spec.backendType? with
  | none => .error (.invalid c.metadata.nameOrEmpty "BucketClass does not set a backend type")
  | some t =>
    if r.serves t then .ok t
    else .error (.invalid c.metadata.nameOrEmpty ("unknown backend type " ++ quoted t))

/-- The form in which a registry appears in messages. -/
def describe (r : Registry) : String :=
  "DriverRegistry \x7b backends: " ++ quotedList r.backendTypes ++ " \x7d"

end Registry

end BucketProvisioning.Backend
