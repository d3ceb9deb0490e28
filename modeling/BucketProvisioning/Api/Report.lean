import BucketProvisioning.Api.Reply

/-!
# Reports

A deletion is answered with the object as it was or with a report of how it went.  What the report
says does not matter here, but it has to be one.
-/

set_option autoImplicit false

namespace BucketProvisioning.Api

open BucketProvisioning BucketProvisioning.Decoder

namespace Report

/-- A cause that a report gives. -/
def cause : Decoder Unit :=
  structured "StatusCause" (.plain () [
    .checked "reason" text,
    .checked "message" text,
    .checked "field" text])

/-- What a report says of the object. -/
def details : Decoder Unit :=
  structured "StatusDetails" (.plain () [
    .checked "name" text,
    .checked "group" text,
    .checked "kind" text,
    .checked "uid" text,
    .checked "causes" cause.list,
    .checked "retryAfterSeconds" word32])

/-- Whether a report tells of success. -/
def succeeded : Decoder Bool := oneOf [("Success", true), ("Failure", false)]

/-- A report. -/
def decode : Decoder Unit :=
  structured "Status" (.plain () [
    .checked "status" succeeded.optional,
    .checked "code" word16,
    .checked "message" text,
    .checked "reason" text,
    .checked "details" details.optional])

end Report

/-- Reads the object or the report that a deletion is answered with: the kind decides. -/
def Reply.readDeleted {α : Type} (d : Decoder α) (r : Reply) : Except ApiFault Unit := do
  let text ← r.accepted
  let j ← received any text
  if j.text? "kind" = some "Status" then received Report.decode text
  else
    let _ ← received d text

/-- Reads what came back for a deletion. -/
def Delivery.readDeleted {α : Type} (d : Decoder α) : Delivery → Except ApiFault Unit
  | .ok r => r.readDeleted d
  | .error reason => .error (.unreachable reason)

end BucketProvisioning.Api
