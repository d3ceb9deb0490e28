import BucketProvisioning.Api.Reply
import BucketProvisioning.Api.Request

/-!
# A scripted API server

A server for trials that answers each request with the next prepared reply, whatever the request
is, and remembers the requests.
-/

set_option autoImplicit false

namespace BucketProvisioning.Api

/-- A scripted server. -/
structure Script where
  /-- The replies that have not been given yet. -/
  replies : List Delivery := []
  /-- The requests, the last one first. -/
  requests : List Request := []
deriving Inhabited

namespace Script

/-- The reply when none is prepared. -/
def unprepared : Delivery := .ok ⟨500, "nothing scripted"⟩

/-- Answers a request. -/
def answer (s : Script) (r : Request) : Delivery × Script :=
  (s.replies.headD unprepared, { replies := s.replies.tail, requests := r :: s.requests })

/-- Prepares replies in place of those that are left. -/
def prepare (s : Script) (replies : List Delivery) : Script := { s with replies }

/-- The requests since they were last taken, in order. -/
def takeRequests (s : Script) : List Request × Script :=
  (s.requests.reverse, { s with requests := [] })

end Script

end BucketProvisioning.Api
