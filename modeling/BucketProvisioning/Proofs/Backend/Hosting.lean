import BucketProvisioning.Backend.Remote
import BucketProvisioning.Proofs.Backend.InMemory

/-!
# A backend in memory behind the network

A service that answers for a backend in memory: it carries out the operation that a request asks
for and sends the result, or a status that keeps only whether something does not exist and the
wording of the failure.  The caller puts the result together again from the reply and from what it
asked for.  Nothing is lost on the way but the cause of a failure other than *not found*.

* `InMemory.Sound` is what makes every reply complete: no grant has a key pair with an empty half.
  `InMemory.Sound.run` keeps it.
* `Remote.Ask.remotely_eq`: one call gives the translated result of the operation and leaves the
  backend as the operation leaves it.
* `Remote.remotely_agrees`: so it is for every call of every list of calls.
-/

set_option autoImplicit false

namespace BucketProvisioning

/-- What is found under a key is one of the entries. -/
theorem Table.mem_entries_of_get? {κ α : Type} [DecidableEq κ] {t : Table κ α} {k : κ} {a : α}
    (found : t.get? k = some a) : (k, a) ∈ t.entries := by
  rw [Table.get?, Option.map_eq_some_iff] at found
  obtain ⟨⟨k', a'⟩, first, rfl⟩ := found
  have here : k' = k := by simpa using List.find?_some first
  rw [← here]
  exact List.mem_of_find?_eq_some first

namespace Backend

open BucketProvisioning.Resource

/-! ## Complete key pairs -/

namespace InMemory

variable {b : InMemory} {fresh : Credentials} {op : Operation} {e : Failure}

/-- The key pair of every grant is complete. -/
def Sound (b : InMemory) : Prop := ∀ g ∈ b.grants.entries, Remote.isComplete g.2 = true

/-- A backend without grants is sound. -/
theorem sound_empty : Sound {} := by
  intro g absent
  cases absent

/-- A backend that issues complete key pairs has no others. -/
theorem Sound.run (sound : b.Sound) (complete : Remote.isComplete fresh = true) (op : Operation) :
    (InMemory.run fresh op b).2.Sound := by
  cases op with
  | createBucket name region =>
    simp only [InMemory.run, createBucket]
    split
    · exact sound
    · dsimp only
      split
      · exact sound
      · exact sound
  | deleteBucket bucketId region =>
    simp only [InMemory.run, deleteBucket]
    split
    · intro g kept
      exact sound g (List.mem_filter.mp kept).1
    · exact sound
  | grantAccess bucketId account =>
    simp only [InMemory.run, grantAccess]
    split
    · split
      · exact sound
      · intro g kept
        rcases List.mem_append.mp kept with earlier | new
        · exact sound g (List.mem_filter.mp earlier).1
        · rw [List.mem_singleton.mp new]
          exact complete
    · exact sound
  | revokeAccess bucketId accountId =>
    simp only [InMemory.run, revokeAccess]
    split
    · intro g kept
      exact sound g (List.mem_filter.mp kept).1
    · exact sound

/-- A grant that is given has a complete key pair. -/
theorem Sound.grant (sound : b.Sound) (complete : Remote.isComplete fresh = true)
    {bucketId account : String} {g : Grant}
    (granted : (b.grantAccess fresh bucketId account).1 = .ok g) :
    Remote.isComplete g.credentials = true :=
  (sound.run complete (.grantAccess bucketId account)) _
    (Table.mem_entries_of_get? (grants_grantAccess granted))

/-- What a backend in memory does not find is what the operation is about. -/
theorem run_eq_missing (failed : (InMemory.run fresh op b).1 = .error e)
    (absent : e.isNotFound = true) :
    e = .missing (Remote.subject op).1 (Remote.subject op).2 := by
  cases op with
  | createBucket name region =>
    simp only [InMemory.run, createBucket] at failed
    split at failed
    · obtain rfl := Except.error.inj failed
      cases absent
    · cases failed
  | deleteBucket bucketId region =>
    simp only [InMemory.run, deleteBucket] at failed
    split at failed
    · cases failed
    · exact (Except.error.inj failed).symm
  | grantAccess bucketId account =>
    simp only [InMemory.run, grantAccess] at failed
    split at failed
    · split at failed
      · cases failed
      · cases failed
    · exact (Except.error.inj failed).symm
  | revokeAccess bucketId accountId =>
    simp only [InMemory.run, revokeAccess] at failed
    split at failed
    · cases failed
    · exact (Except.error.inj failed).symm

end InMemory

namespace Remote

/-! ## Messages -/

/-- The four procedures that can be called. -/
inductive Method where
  /-- Creates a bucket: its name and its region. -/
  | createBucket
  /-- Deletes a bucket: its identifier and its region. -/
  | deleteBucket
  /-- Grants access: the identifier of the bucket and the name of the account. -/
  | grantBucketAccess
  /-- Revokes a grant: the identifiers of the bucket and of the account. -/
  | revokeBucketAccess
deriving DecidableEq, Repr

/-- A request: the procedure, and the texts of its message in the order of their numbers. -/
structure Request where
  /-- The procedure that is called. -/
  method : Method
  /-- The first text. -/
  first : String
  /-- The second text. -/
  second : String
deriving DecidableEq, Repr

/-- A reply: the text of the message and the key pair in it, where it has one. -/
structure Reply where
  /-- The identifier of a bucket or of an account. -/
  text : String := ""
  /-- A key pair. -/
  credentials : Option Credentials := none
deriving DecidableEq, Repr

/-- The request for an operation. -/
def request : Operation → Request
  | .createBucket name region => ⟨.createBucket, name, region⟩
  | .deleteBucket bucketId region => ⟨.deleteBucket, bucketId, region⟩
  | .grantAccess bucketId account => ⟨.grantBucketAccess, bucketId, account⟩
  | .revokeAccess bucketId accountId => ⟨.revokeBucketAccess, bucketId, accountId⟩

/-- The operation that a request asks for. -/
def Request.operation : Request → Operation
  | ⟨.createBucket, name, region⟩ => .createBucket name region
  | ⟨.deleteBucket, bucketId, region⟩ => .deleteBucket bucketId region
  | ⟨.grantBucketAccess, bucketId, account⟩ => .grantAccess bucketId account
  | ⟨.revokeBucketAccess, bucketId, accountId⟩ => .revokeAccess bucketId accountId

/-- Every operation arrives as it was sent. -/
@[simp] theorem operation_request (op : Operation) : (request op).operation = op := by
  cases op <;> rfl

/-- The reply with a result. -/
def reply : (op : Operation) → op.Result → Reply
  | .createBucket _ _, (bucketId : String) => { text := bucketId }
  | .deleteBucket _ _, () => {}
  | .grantAccess _ _, (g : Grant) => ⟨g.accountId, some g.credentials⟩
  | .revokeAccess _ _, () => {}

/-- What a reply answers. -/
def Reply.answer (r : Reply) : (op : Operation) → Answer op
  | .createBucket _ _ => r.text
  | .deleteBucket _ _ => ()
  | .grantAccess _ _ => (r.text, r.credentials)
  | .revokeAccess _ _ => ()

/-- The status for a failure. -/
def Status.ofFailure (e : Failure) : Status :=
  ⟨if e.isNotFound then .notFound else .internal, e.message⟩

/-- What the result of an operation is answered with. -/
def respond (op : Operation) : Except Failure op.Result → Except Status Reply
  | .ok x => .ok (reply op x)
  | .error e => .error (.ofFailure e)

/-- The service: it carries a request out at a backend in memory. -/
def serve (fresh : Credentials) (r : Request) (b : InMemory) : Except Status Reply × InMemory :=
  let outcome := InMemory.run fresh r.operation b
  (respond r.operation outcome.1, outcome.2)

/-! ## Calls -/

/-- A key pair as a backend in memory draws it. -/
structure Drawn where
  /-- The key pair. -/
  credentials : Credentials
  /-- Its public half has 20 characters. -/
  accessKey : credentials.accessKeyId.length = 20
  /-- Its private half has 40 characters. -/
  secret : credentials.secretAccessKey.length = 40

instance : Inhabited Drawn :=
  ⟨⟨⟨"AAAAAAAAAAAAAAAAAAAA", "AAAAAAAAAAAAAAAAAAAAAAAAAAAAAAAAAAAAAAAA"⟩, by decide, by decide⟩⟩

/-- A call with a reply that comes in time. -/
structure Ask (timeout : Span) where
  /-- What is asked for. -/
  op : Operation
  /-- The key pair that is drawn if the backend needs one. -/
  drawn : Drawn
  /-- How long the reply takes. -/
  delay : Span
  /-- The caller waits as long. -/
  timely : delay ≤ timeout

variable {timeout : Span}

/-- The backend is asked directly. -/
def Ask.directly (a : Ask timeout) (b : InMemory) : Except Failure a.op.Result × InMemory :=
  InMemory.run a.drawn.credentials a.op b

/-- The backend is asked over the network, under a backend type. -/
def Ask.remotely (backendType : String) (a : Ask timeout) (b : InMemory) :
    Except Failure a.op.Result × InMemory :=
  let served := serve a.drawn.credentials (request a.op) b
  (interpret backendType a.op (inTime timeout a.delay (served.1.map (·.answer a.op))), served.2)

/-- What becomes of a failure on its way: that something does not exist is understood, and of
anything else the wording is left. -/
def translated (backendType : String) (e : Failure) : Failure :=
  if e.isNotFound then e else .backend backendType ("Internal: " ++ e.message)

/-- The results of a call over the network and of a direct one say the same, except that the
failures of the backend are worded by the caller. -/
structure Agree {α : Type} (backendType : String) (remote direct : Except Failure α) : Prop where
  /-- The same is given. -/
  ok : ∀ x, remote = .ok x ↔ direct = .ok x
  /-- The same is not found. -/
  missing : ∀ kind name,
    remote = .error (.missing kind name) ↔ direct = .error (.missing kind name)
  /-- The backend fails, in a way that may pass and does not mean that something is missing. -/
  broken : (∃ e message, remote = .error e ∧ e = .backend backendType message ∧
      e.isRetryable = true ∧ e.isNotFound = false) ↔
    ∃ e, direct = .error e ∧ ∀ kind name, e ≠ .missing kind name

section

variable {b : InMemory} {fresh : Credentials} {op : Operation} {e : Failure}

/-- A key pair that is drawn is complete. -/
theorem Drawn.complete (d : Drawn) : isComplete d.credentials = true := by
  have some : ∀ s : String, 0 < s.length → s.isEmpty = false := by
    intro s long
    rw [Bool.eq_false_iff]
    intro empty
    rw [String.isEmpty_iff] at empty
    rw [empty] at long
    exact absurd long (by decide)
  rw [isComplete, some _ (by rw [d.accessKey]; decide), some _ (by rw [d.secret]; decide)]
  rfl

/-- A request is answered by the operation that it was made for. -/
theorem serve_request (fresh : Credentials) (op : Operation) (b : InMemory) :
    serve fresh (request op) b =
      (respond op (InMemory.run fresh op b).1, (InMemory.run fresh op b).2) := by
  rw [serve, operation_request]

/-- The result of a backend in memory makes a complete reply. -/
theorem accept_reply (sound : b.Sound) (complete : isComplete fresh = true) {x : op.Result}
    (given : (InMemory.run fresh op b).1 = .ok x) (backendType : String) :
    accept backendType op ((reply op x).answer op) = .ok x := by
  cases op with
  | createBucket name region =>
    obtain rfl := InMemory.eq_bucketIdOf given
    have named : (InMemory.bucketIdOf name).isEmpty = false := by
      simp [InMemory.bucketIdOf, InMemory.backendType]
    simp only [reply, Reply.answer, accept, named, Bool.false_eq_true, if_false]
  | deleteBucket bucketId region => rfl
  | grantAccess bucketId account =>
    obtain ⟨accountId, credentials⟩ : Grant := x
    have whole : isComplete credentials = true := sound.grant complete given
    simp only [reply, Reply.answer, accept, Option.filter, whole, if_true]
  | revokeAccess bucketId accountId => rfl

/-- The status for a failure is understood as what is left of the failure. -/
theorem ofStatus_ofFailure (failed : (InMemory.run fresh op b).1 = .error e)
    (backendType : String) :
    ofStatus backendType op (.ofFailure e) = translated backendType e := by
  cases absent : e.isNotFound with
  | true =>
    simp only [ofStatus, Status.ofFailure, translated, absent, if_true]
    exact (InMemory.run_eq_missing failed absent).symm
  | false =>
    simp [ofStatus, Status.ofFailure, translated, absent, Code.text]

/-- A result stays as it is when failures are translated. -/
@[simp] theorem mapError_ok {α : Type} (f : Failure → Failure) (a : α) :
    (Except.ok a : Except Failure α).mapError f = .ok a := rfl

/-- A failure is translated. -/
@[simp] theorem mapError_error {α : Type} (f : Failure → Failure) (e : Failure) :
    (Except.error e : Except Failure α).mapError f = .error (f e) := rfl

/-- **One call** over the network: the result is that of the operation, with its failure
translated, and the backend is left as the operation leaves it. -/
theorem Ask.remotely_eq (sound : b.Sound) (a : Ask timeout) (backendType : String) :
    a.remotely backendType b =
      ((a.directly b).1.mapError (translated backendType), (a.directly b).2) := by
  have timely : ¬ timeout < a.delay := Nat.not_lt.mpr a.timely
  unfold remotely directly
  rw [serve_request]
  dsimp only
  rw [inTime, if_neg timely]
  cases result : (InMemory.run a.drawn.credentials a.op b).1 with
  | ok x =>
    have accepted := accept_reply sound a.drawn.complete result backendType
    simp only [respond, Except.map, interpret, mapError_ok, accepted]
  | error e =>
    have understood := ofStatus_ofFailure result backendType
    simp only [respond, Except.map, interpret, mapError_error, understood]

/-- A failure that nothing is missing is translated to one of the backend. -/
theorem translated_of_other (other : e.isNotFound = false) (backendType : String) :
    translated backendType e = .backend backendType ("Internal: " ++ e.message) := by
  rw [translated, other]
  rfl

/-- A result agrees with what it is translated to, if all that is not found has a name. -/
theorem agree_mapError {α : Type} (backendType : String) {direct : Except Failure α}
    (named : ∀ e, direct = .error e → e.isNotFound = true → ∃ kind name, e = .missing kind name) :
    Agree backendType (direct.mapError (translated backendType)) direct := by
  cases direct with
  | ok x =>
    refine ⟨fun _ => Iff.rfl, ?_, ?_⟩
    · simp
    · simp
  | error e =>
    cases absent : e.isNotFound with
    | true =>
      obtain ⟨kind, name, rfl⟩ := named e rfl absent
      refine ⟨?_, fun _ _ => Iff.rfl, ?_⟩
      · simp
      · simp [translated, Failure.isNotFound]
    | false =>
      have other : ∀ kind name, e ≠ .missing kind name := by
        rintro kind name rfl
        cases absent
      rw [mapError_error, translated_of_other absent]
      refine ⟨?_, ?_, ?_⟩
      · simp
      · simp [other]
      · simp [other, Failure.isRetryable, Failure.isNotFound]

end

/-! ## Lists of calls -/

/-- A backend after a list of direct calls. -/
def allDirectly (b : InMemory) (calls : List (Ask timeout)) : InMemory :=
  calls.foldl (fun b a => (a.directly b).2) b

/-- A backend after a list of calls over the network. -/
def allRemotely (backendType : String) (b : InMemory) (calls : List (Ask timeout)) : InMemory :=
  calls.foldl (fun b a => (a.remotely backendType b).2) b

/-- The network makes no difference to a sound backend, which stays sound. -/
theorem sound_and_same {b : InMemory} (sound : b.Sound) (backendType : String)
    (calls : List (Ask timeout)) :
    (allDirectly b calls).Sound ∧ allRemotely backendType b calls = allDirectly b calls := by
  induction calls generalizing b with
  | nil => exact ⟨sound, rfl⟩
  | cons a later ih =>
    have step : (a.remotely backendType b).2 = (a.directly b).2 := by
      rw [a.remotely_eq sound backendType]
    have rest := ih (sound.run a.drawn.complete a.op)
    simp only [allRemotely, allDirectly, List.foldl_cons] at rest ⊢
    rw [step]
    exact rest

/-- **A remote backend agrees with the backend that is served.**  After every list of calls, with any
texts in them, the next one gives the same over the network as it gives directly, and leaves the
backend the same: the same result; or the same kind of thing is not found under the same name; or
the backend fails in a way that may pass, in other words.  Two things are asked of the calls: their
replies come in time, and the key pairs that are drawn have their full length. -/
theorem remotely_agrees (backendType : String) (earlier : List (Ask timeout)) (next : Ask timeout) :
    Agree backendType (next.remotely backendType (allRemotely backendType {} earlier)).1
        (next.directly (allDirectly {} earlier)).1 ∧
      (next.remotely backendType (allRemotely backendType {} earlier)).2 =
        (next.directly (allDirectly {} earlier)).2 := by
  obtain ⟨sound, same⟩ := sound_and_same InMemory.sound_empty backendType earlier
  rw [same, next.remotely_eq sound backendType]
  refine ⟨agree_mapError backendType ?_, rfl⟩
  intro e failed absent
  exact ⟨_, _, InMemory.run_eq_missing failed absent⟩

/-- A key pair as a backend draws it. -/
def somePair : Drawn where
  credentials := ⟨"AKIA0123456789ABCDEF", "0123456789abcdefghijklmnopqrstuvwxyzABCD"⟩
  accessKey := by decide
  secret := by decide

/-- A call whose reply comes just in time. -/
def justInTime (op : Operation) : Ask (.seconds 30) where
  op
  drawn := somePair
  delay := .seconds 30
  timely := by decide

/-- After a bucket has been created, a grant for it gives the key pair that was drawn, and one for a
bucket that does not exist is not found, over the network as directly. -/
theorem remotely_agrees_once_created :
    ((justInTime (.grantAccess "fake-b" "c")).remotely "remote"
        (allRemotely "remote" {} [justInTime (.createBucket "b" "")])).1 =
      .ok ⟨"c-id", somePair.credentials⟩ ∧
    ((justInTime (.grantAccess "b" "c")).remotely "remote"
        (allRemotely "remote" {} [justInTime (.createBucket "b" "")])).1 =
      .error (.missing "bucket" "b") := by
  constructor
  · have agree := remotely_agrees "remote" [justInTime (.createBucket "b" "")]
      (justInTime (.grantAccess "fake-b" "c"))
    exact (agree.1.ok _).2 (by rfl)
  · have agree := remotely_agrees "remote" [justInTime (.createBucket "b" "")]
      (justInTime (.grantAccess "b" "c"))
    exact (agree.1.missing _ _).2 (by rfl)

end Remote

end Backend

end BucketProvisioning
