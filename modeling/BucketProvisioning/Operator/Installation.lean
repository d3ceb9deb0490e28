import BucketProvisioning.Api.Client
import BucketProvisioning.Resource.Definition

/-!
# Installing the definitions

The definition of a kind is applied by force, so that what is installed is what this version of
the program needs, whoever installed it before.
-/

set_option autoImplicit false

namespace BucketProvisioning.Operator

open BucketProvisioning BucketProvisioning.Api
open BucketProvisioning.Resource (Definition)

/-- The parameter by which fields are taken over from other writers. -/
def forced : String := "force=true"

/-- The request that installs a definition; the reply has to be a document. -/
def installation (d : Definition) : Exchange Unit where
  request := Request.patch .definitions d.name "" [forced, Request.managed] .apply d.manifest
  read := Delivery.read (Decoder.any.map fun _ => ())

end BucketProvisioning.Operator
