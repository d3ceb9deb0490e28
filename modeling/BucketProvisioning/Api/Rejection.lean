import BucketProvisioning.Failure
import BucketProvisioning.Json.Record

/-!
# Reading refusals

The API server words a refusal as a document; only its outcome and its code have to be there.
-/

set_option autoImplicit false

namespace BucketProvisioning.Rejection

open BucketProvisioning.Decoder

/-- Reads a refusal. -/
def decode : Decoder Rejection :=
  structured "ErrorResponse" (.plain ⟨"", "", "", 0⟩ [
    .stored "status" .required text fun a r => { r with status := a },
    .of "message" text fun a r => { r with message := a },
    .of "reason" text fun a r => { r with reason := a },
    .stored "code" .required word16 fun a r => { r with code := a }])

end BucketProvisioning.Rejection
