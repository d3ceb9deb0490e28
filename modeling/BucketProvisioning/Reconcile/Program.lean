import BucketProvisioning.Backend.Operation
import BucketProvisioning.Event
import BucketProvisioning.Resource.Claim
import BucketProvisioning.Stores

/-!
# Reconciling as a program

Reconciling a key is a sequence of requests: calls to the API server, to the store of secrets and
to backends, events to be published, and accesses to the two local stores.  A `Program` is such a
sequence in which every request depends on the replies so far; it does not say who replies.  The
same program is run against a simulated cluster, against an API server, and step by step between
the steps of other workers.
-/

set_option autoImplicit false

namespace BucketProvisioning.Reconcile

open BucketProvisioning BucketProvisioning.Resource BucketProvisioning.Backend

/-- A call that can fail. -/
inductive Call where
  /-- Reads a class. -/
  | getClass (name : String)
  /-- Reads a claim. -/
  | getClaim (ns name : String)
  /-- Writes the status of a claim as the given copy shows it. -/
  | writeClaimStatus (claim : BucketClaim) (status : ClaimStatus)
  /-- Writes the status of an access as the given copy shows it. -/
  | writeAccessStatus (access : BucketAccess) (status : AccessStatus)
  /-- Reads a secret. -/
  | getSecret (ns name : String)
  /-- Creates a secret unless one of its name exists. -/
  | createSecret (ns : String) (secret : Secret)
  /-- Deletes a secret. -/
  | deleteSecret (ns name : String)
  /-- Asks a backend for something. -/
  | backend (backendType : String) (op : Operation)

/-- What a call gives if it does not fail. -/
def Call.Result : Call → Type
  | .getClass _ => BucketClass
  | .getClaim _ _ => BucketClaim
  | .writeClaimStatus _ _ => BucketClaim
  | .writeAccessStatus _ _ => BucketAccess
  | .getSecret _ _ => Option Secret
  | .createSecret _ _ => Unit
  | .deleteSecret _ _ => Unit
  | .backend _ op => op.Result

/-- A request of a program for objects of type `α`. -/
inductive Request (α : Type) where
  /-- Makes a call. -/
  | call (c : Call)
  /-- Publishes an event about an object; nobody hears whether that worked. -/
  | publish (e : Event) (about : ObjectReference)
  /-- Reads or writes the local stores. -/
  | store (a : StoreAccess α)

/-- The reply to a request. -/
def Request.Reply {α : Type} : Request α → Type
  | .call c => Except Failure c.Result
  | .publish _ _ => Unit
  | .store a => a.Reply

/-- A sequence of requests that ends in a `β`. -/
inductive Program (α β : Type) where
  /-- The end. -/
  | done (b : β)
  /-- A request and how to go on after each reply. -/
  | ask (r : Request α) (next : r.Reply → Program α β)

namespace Program

variable {α β γ : Type}

/-- Goes on with the result of a program. -/
def bind : Program α β → (β → Program α γ) → Program α γ
  | .done b, f => f b
  | .ask r next, f => .ask r fun reply => (next reply).bind f

instance : Monad (Program α) where
  pure := .done
  bind := bind

/-- Answers every request by a function on a state. -/
def run {σ : Type} (serve : (r : Request α) → StateM σ r.Reply) : Program α β → StateM σ β
  | .done b => pure b
  | .ask r next => do
    let reply ← serve r
    (next reply).run serve

/-- Answers every request by an effect. -/
def runM {m : Type → Type} [Monad m] (serve : (r : Request α) → m r.Reply) : Program α β → m β
  | .done b => pure b
  | .ask r next => do
    let reply ← serve r
    (next reply).runM serve

/-- What is left of a program after a reply is another program. -/
theorem next_ne_ask {r : Request α} {next : r.Reply → Program α β} (reply : r.Reply) :
    next reply ≠ .ask r next := by
  have other (p : Program α β) : ∀ (r : Request α) next (reply : r.Reply),
      p = .ask r next → next reply ≠ p := by
    induction p with
    | done b =>
      intro r next reply whole
      cases whole
    | ask r next ih =>
      -- if the rest were the whole program it would be its own rest, too
      intro r' next' reply whole same
      obtain ⟨rfl, next_eq⟩ := Program.ask.inj whole
      obtain rfl := eq_of_heq next_eq
      exact ih reply r next reply same rfl
  exact other _ r next reply rfl

end Program

/-- A program that can fail. -/
abbrev Task (α β : Type) := ExceptT Failure (Program α) β

namespace Task

variable {α β : Type}

/-- A request as a program of its own. -/
def request (r : Request α) : Program α r.Reply := .ask r .done

/-- A call. -/
def call (c : Call) : Task α c.Result := ExceptT.mk (request (.call c))

/-- Looks a key up in the cache. -/
def lookup (k : ObjectKey) : Task α (Option α) := ExceptT.mk (request (.store (.lookup k)))

/-- Reads the record of a key. -/
def recordOf (k : ObjectKey) : Task α (Option α) := ExceptT.lift (request (.store (.recordOf k)))

/-- Writes the record of a key. -/
def remember (k : ObjectKey) (obj : α) : Task α Unit :=
  ExceptT.lift (request (.store (.remember k obj)))

/-- Erases the record of a key. -/
def forget (k : ObjectKey) : Task α Unit := ExceptT.lift (request (.store (.forget k)))

/-- Publishes an event about an object. -/
def publish {ω : Type} [Object ω] (obj : ω) (e : Event) : Task α Unit :=
  ExceptT.lift (request (.publish e (Object.reference obj)))

/-- A value that may be a failure. -/
def ofExcept (x : Except Failure β) : Task α β := ExceptT.mk (.done x)

/-- Runs a program and gives its failure as a value. -/
def attempt (t : Task α β) : Task α (Except Failure β) := ExceptT.lift t.run

end Task

end BucketProvisioning.Reconcile
