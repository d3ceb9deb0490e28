import BucketProvisioning.Reconcile.Accesses

/-!
# Key pairs go into secrets only

A grant brings a key pair.  Where it may go is said by comparing two programs that are given
different key pairs: they are *alike* if, as long as the replies differ in nothing but key pairs and
in what secrets hold, they make the same requests in the same order, but for the two halves of the
pair in a secret that is created, and come to the same end.

There is one rule for each way to build a task; `Accesses.reconcile_alike` is what they say of the
reconciler of accesses.
-/

set_option autoImplicit false

namespace BucketProvisioning.Resource

namespace Secret

/-- Whether a secret holds one half of the key pair under a name. -/
def holdsKeyUnder (name : String) : Bool :=
  name = accessKeyIdName || name = secretAccessKeyName

/-- A secret without the key pair: the names stay, the two texts go. -/
def withoutKeys (s : Secret) : Secret :=
  { s with
    stringData := s.stringData.map
      (List.map fun entry => if holdsKeyUnder entry.1 then (entry.1, "") else entry) }

end Secret

/-- Whatever the key pair, the secret for an access is the same without it. -/
theorem withoutKeys_credentialsSecret (access : BucketAccess) (name bucketId : String)
    (endpoint : Option String) (pair pair' : Credentials) :
    (credentialsSecret access name bucketId endpoint pair).withoutKeys =
      (credentialsSecret access name bucketId endpoint pair').withoutKeys := by
  simp [credentialsSecret, Secret.withoutKeys, Secret.holdsKeyUnder]

end BucketProvisioning.Resource

namespace BucketProvisioning.Reconcile

open BucketProvisioning BucketProvisioning.Resource BucketProvisioning.Backend

/-! ## What is alike -/

/-- Two calls are the same, but for the key pair in a secret that is created. -/
inductive Call.Alike : Call → Call → Prop
  /-- They are the same. -/
  | same (c : Call) : Alike c c
  /-- They create secrets that are the same without the key pair. -/
  | creates (ns : String) {s s' : Secret} (same : s.withoutKeys = s'.withoutKeys) :
      Alike (.createSecret ns s) (.createSecret ns s')

/-- What two alike calls give is the same, but for the key pair of a grant and for what is in a
secret. -/
inductive Likewise : (c c' : Call) → Except Failure c.Result → Except Failure c'.Result → Prop
  /-- It is the same. -/
  | same (c : Call) (reply : Except Failure c.Result) : Likewise c c reply reply
  /-- Access is granted to the same account. -/
  | granted (backendType bucketId account : String) {g g' : Grant}
      (same : g.accountId = g'.accountId) :
      Likewise (.backend backendType (.grantAccess bucketId account))
        (.backend backendType (.grantAccess bucketId account)) (.ok g) (.ok g')
  /-- There is a secret. -/
  | found (ns name : String) (s s' : Secret) :
      Likewise (.getSecret ns name) (.getSecret ns name) (.ok (some s)) (.ok (some s'))
  /-- A secret is created, or is not. -/
  | created (ns : String) {s s' : Secret} (reply : Except Failure Unit) :
      Likewise (.createSecret ns s) (.createSecret ns s') reply reply

/-- Two results are the same failure, or successes that are related. -/
inductive ResultsAlike {β : Type} (R : β → β → Prop) : Except Failure β → Except Failure β → Prop
  /-- They are successes. -/
  | ok {b b' : β} (related : R b b') : ResultsAlike R (.ok b) (.ok b')
  /-- They are the same failure. -/
  | error (e : Failure) : ResultsAlike R (.error e) (.error e)

/-- Results that differ in nothing are the same. -/
theorem ResultsAlike.eq {β : Type} {x x' : Except Failure β} (h : ResultsAlike Eq x x') :
    x = x' := by
  cases h with
  | ok same => rw [same]
  | error e => rfl

/-- Every result is like itself. -/
theorem resultsAlike_refl {β : Type} {R : β → β → Prop} (refl : ∀ b, R b b)
    (x : Except Failure β) : ResultsAlike R x x := by
  cases x with
  | ok b => exact .ok (refl b)
  | error e => exact .error e

variable {α β γ : Type}

/-- Two programs make the same requests as long as the replies are alike, but for the key pairs in
secrets, and their results are related. -/
inductive Program.Alike (R : β → β → Prop) : Program α β → Program α β → Prop
  /-- They are at their end. -/
  | done {b b' : β} (related : R b b') : Alike R (.done b) (.done b')
  /-- They read or write the stores in the same way. -/
  | store (a : StoreAccess α) {next next' : a.Reply → Program α β}
      (alike : ∀ reply, Alike R (next reply) (next' reply)) :
      Alike R (.ask (.store a) next) (.ask (.store a) next')
  /-- They publish the same event. -/
  | publish (e : Event) (about : ObjectReference) {next next' : Unit → Program α β}
      (alike : Alike R (next ()) (next' ())) :
      Alike R (.ask (.publish e about) next) (.ask (.publish e about) next')
  /-- They make calls that are alike. -/
  | call {c c' : Call} (calls : c.Alike c') {next : Except Failure c.Result → Program α β}
      {next' : Except Failure c'.Result → Program α β}
      (alike : ∀ reply reply', Likewise c c' reply reply' →
        Alike R (next reply) (next' reply')) :
      Alike R (.ask (.call c) next) (.ask (.call c') next')

/-- Alikeness may be weakened. -/
theorem Program.Alike.mono {R R' : β → β → Prop} {p p' : Program α β} (h : p.Alike R p')
    (weaker : ∀ b b', R b b' → R' b b') : p.Alike R' p' := by
  induction h with
  | done related => exact .done (weaker _ _ related)
  | store a _ ih => exact .store a ih
  | publish e about _ ih => exact .publish e about ih
  | call calls _ ih => exact .call calls ih

/-- Programs that go on with alike results in an alike way are alike. -/
theorem Program.Alike.bind {R : β → β → Prop} {S : γ → γ → Prop} {p p' : Program α β}
    {f f' : β → Program α γ} (h : p.Alike R p') (goesOn : ∀ b b', R b b' → (f b).Alike S (f' b')) :
    (p.bind f).Alike S (p'.bind f') := by
  induction h with
  | done related => exact goesOn _ _ related
  | store a _ ih => exact .store a ih
  | publish e about _ ih => exact .publish e about ih
  | call calls _ ih => exact .call calls ih

/-! ## Tasks -/

namespace Task

/-- Two tasks are alike: they fail in the same way or succeed with results that are related. -/
def Alike (R : β → β → Prop) (t t' : Task α β) : Prop := t.run.Alike (ResultsAlike R) t'.run

variable {R : β → β → Prop} {S : γ → γ → Prop}

/-- Tasks that are done with related results are alike. -/
theorem alike_pure {b b' : β} (related : R b b') : (pure b : Task α β).Alike R (pure b') :=
  Program.Alike.done (ResultsAlike.ok related)

/-- Tasks that fail in the same way are alike. -/
theorem alike_throw (e : Failure) : (throw e : Task α β).Alike R (throw e) :=
  Program.Alike.done (ResultsAlike.error e)

/-- A result that is given is like itself. -/
theorem alike_ofExcept (x : Except Failure β) : (ofExcept x : Task α β).Alike Eq (ofExcept x) :=
  Program.Alike.done (resultsAlike_refl (fun _ => rfl) x)

/-- Tasks that go on with alike results in an alike way are alike. -/
theorem alike_bind {t t' : Task α β} {f f' : β → Task α γ} (h : t.Alike R t')
    (goesOn : ∀ b b', R b b' → (f b).Alike S (f' b')) : (t >>= f).Alike S (t' >>= f') := by
  refine Program.Alike.bind h fun x x' results => ?_
  cases results with
  | ok related => exact goesOn _ _ related
  | error e => exact .done (.error e)

/-- Tasks that go on with the same result in an alike way are alike. -/
theorem alike_bind_same {t t' : Task α β} {f f' : β → Task α γ} (h : t.Alike Eq t')
    (goesOn : ∀ b, (f b).Alike S (f' b)) : (t >>= f).Alike S (t' >>= f') := by
  refine alike_bind h ?_
  rintro b _ rfl
  exact goesOn b

/-- A choice between tasks that are alike makes no difference, if it is the same choice. -/
theorem alike_ite {c : Prop} [Decidable c] {t t' u u' : Task α β} (yes : t.Alike R t')
    (no : u.Alike R u') : (if c then t else u).Alike R (if c then t' else u') := by
  split
  · exact yes
  · exact no

/-- A call of which nothing may come in two ways gives the same. -/
theorem alike_call {c : Call}
    (once : ∀ reply reply', Likewise c c reply reply' → reply = reply') :
    (call c : Task α c.Result).Alike Eq (call c) := by
  refine Program.Alike.call (.same c) fun reply reply' likewise => .done ?_
  obtain rfl := once reply reply' likewise
  exact resultsAlike_refl (fun _ => rfl) reply

/-- Whether there is a secret does not depend on what is in secrets. -/
theorem alike_getSecret (ns name : String) :
    (call (.getSecret ns name) : Task α (Option Secret)).Alike
      (fun found found' => found.isSome = found'.isSome) (call (.getSecret ns name)) := by
  refine Program.Alike.call (.same _) fun reply reply' likewise => .done ?_
  cases likewise with
  | same => exact resultsAlike_refl (fun found => rfl (a := found.isSome)) reply
  | found => exact .ok rfl

/-- Secrets that differ in the key pair only are created by calls that are alike. -/
theorem alike_createSecret (ns : String) {s s' : Secret} (same : s.withoutKeys = s'.withoutKeys) :
    (call (.createSecret ns s) : Task α Unit).Alike Eq (call (.createSecret ns s')) := by
  refine Program.Alike.call (.creates ns same) fun reply reply' likewise => .done ?_
  cases likewise with
  | same => exact resultsAlike_refl (fun _ => rfl) reply
  | created => exact resultsAlike_refl (fun _ => rfl) reply

/-- Access is granted to the same account, if it is granted. -/
theorem alike_grantAccess (backendType bucketId account : String) :
    (call (.backend backendType (.grantAccess bucketId account)) : Task α Grant).Alike
      (fun g g' => g.accountId = g'.accountId)
      (call (.backend backendType (.grantAccess bucketId account))) := by
  refine Program.Alike.call (.same _) fun reply reply' likewise => .done ?_
  cases likewise with
  | same => exact resultsAlike_refl (fun g => rfl (a := g.accountId)) reply
  | granted _ _ _ same => exact .ok same

/-- The cache holds no key pairs. -/
theorem alike_lookup (k : ObjectKey) : (lookup k : Task α (Option α)).Alike Eq (lookup k) :=
  Program.Alike.store (.lookup k) fun reply => .done (resultsAlike_refl (fun _ => rfl) reply)

/-- The records hold no key pairs. -/
theorem alike_recordOf (k : ObjectKey) : (recordOf k : Task α (Option α)).Alike Eq (recordOf k) :=
  Program.Alike.store (.recordOf k) fun _ => .done (.ok rfl)

/-- No key pair goes on record. -/
theorem alike_remember (k : ObjectKey) (obj : α) :
    (remember k obj : Task α Unit).Alike Eq (remember k obj) :=
  Program.Alike.store (.remember k obj) fun _ => .done (.ok rfl)

/-- Erasing a record has nothing to do with key pairs. -/
theorem alike_forget (k : ObjectKey) : (forget k : Task α Unit).Alike Eq (forget k) :=
  Program.Alike.store (.forget k) fun _ => .done (.ok rfl)

/-- No key pair goes into an event. -/
theorem alike_publish {ω : Type} [Object ω] (obj : ω) (e : Event) :
    (publish obj e : Task α Unit).Alike Eq (publish obj e) :=
  Program.Alike.publish e (Object.reference obj) (.done (.ok rfl))

/-- Tasks that are alike are so too when their failures are values. -/
theorem alike_attempt {t t' : Task α β} (h : t.Alike Eq t') :
    (attempt t).Alike Eq (attempt t') := by
  refine Program.Alike.bind h fun x x' results => ?_
  obtain rfl := results.eq
  exact .done (.ok rfl)

end Task

/-! ## Secrets -/

/-- Whether a secret is created does not depend on what is in secrets. -/
theorem materialize_alike (ns : String) {s s' : Secret} (same : s.withoutKeys = s'.withoutKeys) :
    (materialize ns s : Task α Bool).Alike Eq (materialize ns s') := by
  have metadata : s.metadata = s'.metadata := by
    show s.withoutKeys.metadata = s'.withoutKeys.metadata
    rw [same]
  unfold materialize
  rw [metadata]
  refine Task.alike_bind (Task.alike_getSecret ns _) fun found found' there => ?_
  cases found with
  | none =>
    obtain rfl : found' = none := by simpa using there.symm
    exact Task.alike_bind_same (Task.alike_createSecret ns same) fun _ => Task.alike_pure rfl
  | some _ =>
    obtain ⟨_, rfl⟩ := Option.isSome_iff_exists.1 there.symm
    exact Task.alike_pure rfl

/-- A secret is removed by its name. -/
theorem removeSecret_alike (ns name : String) :
    (removeSecret ns name : Task α Unit).Alike Eq (removeSecret ns name) := by
  have deletes : (Task.call (.deleteSecret ns name) : Task α Unit).Alike Eq
      (Task.call (.deleteSecret ns name)) := Task.alike_call fun _ _ h => by cases h; rfl
  refine Task.alike_bind_same (Task.alike_attempt deletes) fun result => ?_
  cases result with
  | ok => exact Task.alike_pure rfl
  | error e => exact Task.alike_ite (Task.alike_pure rfl) (Task.alike_throw e)

/-! ## Accesses -/

namespace Accesses

variable (backends : Registry) (key : ObjectKey) (access : BucketAccess)

/-- The bucket is resolved without a key pair. -/
theorem resolveBucket_alike (source : BucketSource) :
    (resolveBucket key source).Alike Eq (resolveBucket key source) := by
  cases source with
  | existing bucketId => exact Task.alike_pure rfl
  | claim name =>
    have reads : (Task.call (.getClaim key.nsOrEmpty name) : Task BucketAccess BucketClaim).Alike Eq
        (Task.call (.getClaim key.nsOrEmpty name)) := Task.alike_call fun _ _ h => by cases h; rfl
    refine Task.alike_bind_same reads fun claim => ?_
    cases provisionedBucket? claim with
    | none => exact Task.alike_throw _
    | some bucketId => exact Task.alike_pure rfl

/-- Of a grant, nothing but the account goes anywhere but into the secret. -/
theorem recordGrant_alike (c : BucketClass) (backendType bucketId : String) {g g' : Grant}
    (same : g.accountId = g'.accountId) :
    (recordGrant key access c backendType bucketId g).Alike Eq
      (recordGrant key access c backendType bucketId g') := by
  have status : grantedStatus g bucketId backendType access.secretName =
      grantedStatus g' bucketId backendType access.secretName := by
    unfold grantedStatus
    rw [same]
  have writes : ∀ {status status'}, status = status' →
      (Task.call (.writeAccessStatus access status) : Task BucketAccess BucketAccess).Alike Eq
        (Task.call (.writeAccessStatus access status')) := by
    rintro status _ rfl
    exact Task.alike_call fun _ _ h => by cases h; rfl
  have secrets := withoutKeys_credentialsSecret access access.secretName bucketId c.spec.endpoint?
    g.credentials g'.credentials
  refine Task.alike_bind_same (materialize_alike key.nsOrEmpty secrets) fun _ => ?_
  refine Task.alike_bind_same (writes status) fun updated => ?_
  exact Task.alike_bind_same (Task.alike_remember key updated) fun _ => Task.alike_publish ..

/-- The grant through a class depends on the key pair in the secret only. -/
theorem grantThrough_alike (c : BucketClass) (source : BucketSource) :
    (grantThrough backends key access c source).Alike Eq
      (grantThrough backends key access c source) := by
  refine Task.alike_bind_same (Task.alike_ofExcept _) fun backendType => ?_
  refine Task.alike_bind_same (resolveBucket_alike key source) fun bucketId => ?_
  refine Task.alike_bind_same (Task.alike_ofExcept _) fun account => ?_
  refine Task.alike_bind (Task.alike_grantAccess backendType bucketId account) fun g g' same => ?_
  exact recordGrant_alike key access c backendType bucketId same

/-- So does the grant. -/
theorem grant_alike : (grant backends key access).Alike Eq (grant backends key access) := by
  have reads : ∀ name, (Task.call (.getClass name) : Task BucketAccess BucketClass).Alike Eq
      (Task.call (.getClass name)) := fun _ => Task.alike_call fun _ _ h => by cases h; rfl
  refine Task.alike_bind_same (Task.alike_ofExcept _) fun refs => ?_
  refine Task.alike_bind_same (reads _) fun c => ?_
  exact Task.alike_ite (Task.alike_remember key access) (grantThrough_alike backends key access c _)

/-- A revocation names the account and no key pair. -/
theorem requestRevocation_alike (status : AccessStatus) :
    (requestRevocation backends access status).Alike Eq
      (requestRevocation backends access status) := by
  have asks : (Task.call (.backend status.backendType
      (.revokeAccess status.bucketId status.accountId)) : Task BucketAccess Unit).Alike Eq
      (Task.call _) := Task.alike_call fun _ _ h => by cases h; rfl
  exact Task.alike_ite asks (Task.alike_throw _)

/-- Neither does what is told of the revocation. -/
theorem revokeGrant_alike (status : AccessStatus) :
    (revokeGrant backends access status).Alike Eq (revokeGrant backends access status) := by
  have asks := requestRevocation_alike backends access status
  refine Task.alike_bind_same (Task.alike_attempt asks) fun result => ?_
  cases result with
  | ok => exact Task.alike_publish ..
  | error e => exact Task.alike_ite (Task.alike_pure rfl) (Task.alike_publish ..)

/-- The deletion of a secret and what is told of it name no key pair. -/
theorem deleteSecret_alike : (deleteSecret key access).Alike Eq (deleteSecret key access) := by
  have removes := removeSecret_alike (α := BucketAccess) key.nsOrEmpty access.secretName
  refine Task.alike_bind_same (Task.alike_attempt removes) fun result => ?_
  cases result with
  | ok => exact Task.alike_pure rfl
  | error e => exact Task.alike_publish ..

/-- The removal of a grant names no key pair. -/
theorem disposeGrant_alike :
    (disposeGrant backends key access).Alike Eq (disposeGrant backends key access) := by
  unfold disposeGrant
  cases access.status.filter AccessStatus.accessGranted with
  | none => exact Task.alike_pure rfl
  | some status =>
    refine Task.alike_bind_same (revokeGrant_alike backends access status) fun _ => ?_
    exact deleteSecret_alike key access

/-- The teardown of an access names no key pair. -/
theorem revoke_alike : (revoke backends key).Alike Eq (revoke backends key) := by
  refine Task.alike_bind_same (Task.alike_recordOf key) fun record => ?_
  cases record with
  | none => exact Task.alike_pure rfl
  | some old =>
    refine Task.alike_bind_same (disposeGrant_alike backends key old) fun _ => ?_
    exact Task.alike_forget key

/-- Neither does that of an access in whose place another one has come. -/
theorem revokeSuperseded_alike :
    (revokeSuperseded backends key access).Alike Eq (revokeSuperseded backends key access) := by
  refine Task.alike_bind_same (Task.alike_recordOf key) fun record => ?_
  cases record with
  | none => exact Task.alike_pure rfl
  | some old => exact Task.alike_ite (revoke_alike backends key) (Task.alike_pure rfl)

/-- What is done for a live access depends on the key pair in the secret only. -/
theorem grantLive_alike :
    (grantLive backends key access).Alike Eq (grantLive backends key access) := by
  refine Task.alike_bind_same (revokeSuperseded_alike backends key access) fun _ => ?_
  have grants := grant_alike backends key access
  refine Task.alike_bind_same (Task.alike_attempt grants) fun result => ?_
  cases result with
  | ok => exact Task.alike_pure rfl
  | error e => exact Task.alike_bind_same (Task.alike_publish ..) fun _ => Task.alike_throw e

/-- The whole reconcile depends on the key pair in the secret only. -/
theorem reconcileKey_alike : (reconcileKey backends key).Alike Eq (reconcileKey backends key) := by
  refine Task.alike_bind_same (Task.alike_lookup key) fun found => ?_
  cases found with
  | none => exact revoke_alike backends key
  | some access => exact grantLive_alike backends key access

/-- **The reconciler of accesses keeps key pairs to itself**: given different key pairs it makes the
same requests, but for the pairs in the secrets that it creates, and comes to the same end. -/
theorem reconcile_alike (text : String) :
    (reconcile backends text).Alike Eq (reconcile backends text) := by
  have results : ∀ x x' : Except Failure Unit, ResultsAlike Eq x x' → x = x' := fun _ _ h => h.eq
  unfold reconcile
  cases ObjectKey.parse text with
  | ok k => exact (reconcileKey_alike backends k).mono results
  | error e => exact .done rfl

end Accesses

end BucketProvisioning.Reconcile
