import BucketProvisioning.Backend.InMemory
import BucketProvisioning.Backend.Remote
import BucketProvisioning.Proofs.Reconcile.ClaimConduct
import BucketProvisioning.Reconcile.Accesses

/-!
# What a status needs to tell

A status that tells of a bucket or of a grant is all that there is to remove it by, so it has to
*suffice*: no identifier in it is empty, and the backend that holds the thing is served.

Where the identifiers come from is a backend: `Issued` says what one may give, be it in memory or
remote, where a remote one may answer anything of which `likely` says that it may.  Incomplete
answers of a remote backend are refused, with one exception: the account of a grant may be empty.

`claims_suffice` and `accesses_suffice` say that a reconciler writes only statuses that suffice,
whatever the backends answer, but for the account of a grant: that is named as long as no remote
backend leaves it unnamed (`Likely.NamesAccounts`).
-/

set_option autoImplicit false

namespace BucketProvisioning.Backend

open BucketProvisioning BucketProvisioning.Resource

/-- What remote backends may answer. -/
abbrev Likely := (op : Operation) → Remote.Answer op → Prop

/-- No remote backend leaves the account of a grant unnamed. -/
def Likely.NamesAccounts (likely : Likely) : Prop :=
  ∀ bucketId account answer, likely (.grantAccess bucketId account) answer → answer.1 ≠ ""

/-- A backend type gives a result of an operation. -/
inductive Issued (backends : Registry) (likely : Likely) (backendType : String) (op : Operation)
    (result : op.Result) : Prop
  /-- A backend in memory carries the operation out, whatever it keeps. -/
  | inMemory (b : InMemory) (fresh : Credentials)
      (served : backends.get? backendType = some .inMemory)
      (gives : (InMemory.run fresh op b).1 = .ok result)
  /-- A remote backend answers, and the answer is accepted. -/
  | remote (address : String) (answer : Remote.Answer op)
      (served : backends.get? backendType = some (.remote address))
      (may : likely op answer) (accepted : Remote.accept backendType op answer = .ok result)
  /-- Nobody serves the type, so nobody is asked. -/
  | unserved (nobody : backends.get? backendType = none)

section issued

variable {backends : Registry} {likely : Likely} {t : String}

/-- A text with something in front is not empty if that is not. -/
theorem append_ne_empty {s s' : String} (nonempty : s ≠ "") : s ++ s' ≠ "" := by
  intro empty
  exact nonempty (String.append_eq_empty_iff.1 empty).1

/-- A backend type is served if it has a driver. -/
theorem serves_iff : backends.serves t = true ↔ backends.get? t ≠ none := by
  simp [Registry.serves, Registry.get?, Table.contains, Option.isSome_iff_ne_none]

/-- The identifier of a bucket that has been created is not empty. -/
theorem Issued.bucketId {name region bucketId : String}
    (issued : Issued backends likely t (.createBucket name region) bucketId)
    (served : backends.serves t = true) : bucketId ≠ "" := by
  cases issued with
  | inMemory b fresh _ gives =>
    simp only [InMemory.run, InMemory.createBucket] at gives
    split at gives
    · simp at gives
    · obtain rfl : InMemory.bucketIdOf name = bucketId := Except.ok.inj gives
      exact append_ne_empty (append_ne_empty (by decide))
  | remote address answer _ _ accepted =>
    simp only [Remote.accept] at accepted
    split at accepted
    · simp at accepted
    · rename_i nonempty
      rw [← Except.ok.inj accepted]
      exact fun empty => nonempty (String.isEmpty_iff.2 empty)
  | unserved nobody => exact absurd nobody (serves_iff.1 served)

/-- The account to which access has been granted is not empty, as long as accounts are named. -/
theorem Issued.accountId {b account : String} {g : Grant}
    (issued : Issued backends likely t (.grantAccess b account) g)
    (served : backends.serves t = true) (named : likely.NamesAccounts) : g.accountId ≠ "" := by
  cases issued with
  | inMemory b' fresh _ gives =>
    have nonempty : InMemory.accountIdOf account ≠ "" := by
      intro empty
      exact absurd (String.append_eq_empty_iff.1 empty).2 (by decide)
    simp only [InMemory.run, InMemory.grantAccess] at gives
    split at gives
    · split at gives
      · rwa [← Except.ok.inj gives]
      · rwa [← Except.ok.inj gives]
    · simp at gives
  | remote address answer _ may accepted =>
    obtain ⟨accountId, pair⟩ := answer
    simp only [Remote.accept] at accepted
    split at accepted
    · rw [← Except.ok.inj accepted]
      exact named b account _ may
    · simp at accepted
  | unserved nobody => exact absurd nobody (serves_iff.1 served)

end issued

end BucketProvisioning.Backend

namespace BucketProvisioning.Reconcile

open BucketProvisioning BucketProvisioning.Resource BucketProvisioning.Backend

/-! ## What is judged -/

/-- A status tells everything by which the bucket that it tells of can be removed. -/
def ClaimSuffices (backends : Registry) (s : ClaimStatus) : Prop :=
  s.provisioned = true → s.bucketId ≠ "" ∧ backends.serves s.backendType = true

/-- A status tells everything by which the grant and the secret that it tells of can be removed,
the account included if accounts are `named`. -/
def AccessSuffices (backends : Registry) (named : Prop) (s : AccessStatus) : Prop :=
  s.accessGranted = true → s.bucketId ≠ "" ∧ (named → s.accountId ≠ "") ∧ s.secretName ≠ "" ∧
    backends.serves s.backendType = true

/-- A status that a call writes, if it is a status write, suffices. -/
def WritesEnough (backends : Registry) (named : Prop) : Call → Prop
  | .writeClaimStatus _ status => ClaimSuffices backends status
  | .writeAccessStatus _ status => AccessSuffices backends named status
  | _ => True

/-- What a call gives may come of it: a result of an operation is one that the backend issues. -/
def Credible (backends : Registry) (likely : Likely) :
    (c : Call) → Option (Except Failure c.Result) → Prop
  | .backend t op, some (.ok result) => Issued backends likely t op result
  | _, _ => True

/-- The world of a reconcile that only writes statuses that suffice; the stores may give anything,
and other calls too, as long as it is credible. -/
def sufficing (α : Type) (backends : Registry) (likely : Likely) : World α Unit where
  allows _ r :=
    match r with
    | .call c => WritesEnough backends likely.NamesAccounts c
    | _ => True
  answers _ r reply _ :=
    match r, reply with
    | .call c, reply => Credible backends likely c (some reply)
    | _, _ => True

variable {α β γ : Type} {backends : Registry} {likely : Likely}

/-- A task writes only statuses that suffice. -/
abbrev Task.Suffices (backends : Registry) (likely : Likely) (t : Task α β) : Prop :=
  t.Ensures (sufficing α backends likely) () fun _ _ => True

namespace Sufficing

/-- A call that writes enough has a credible reply. -/
theorem ensures_call {c : Call} {Q : Except Failure c.Result → Unit → Prop}
    (may : WritesEnough backends likely.NamesAccounts c)
    (h : ∀ reply, Credible backends likely c (some reply) → Q reply ()) :
    (Task.call c : Task α c.Result).Ensures (sufficing α backends likely) () Q :=
  Task.ensures_call.2 ⟨may, fun reply _ credible => h reply credible⟩

/-- A call suffices if what it writes is enough. -/
theorem call {c : Call} (may : WritesEnough backends likely.NamesAccounts c) :
    (Task.call c : Task α c.Result).Suffices backends likely :=
  ensures_call may fun _ _ => trivial

/-- Whatever the first of two tasks gives, the second writes only what suffices. -/
theorem bind {t : Task α γ} {f : γ → Task α β} (h : t.Suffices backends likely)
    (goesOn : ∀ c, (f c).Suffices backends likely) : (t >>= f).Suffices backends likely := by
  refine Task.ensures_bind.2 (h.mono fun x _ _ => ?_)
  cases x with
  | ok c => exact goesOn c
  | error e => trivial

/-- A choice between tasks that suffice does so. -/
theorem ite {c : Prop} [Decidable c] {t t' : Task α β} (yes : t.Suffices backends likely)
    (no : t'.Suffices backends likely) : (if c then t else t').Suffices backends likely :=
  Task.ensures_ite (fun _ => yes) fun _ => no

/-- A task that is done writes nothing. -/
theorem pure (b : β) : (Pure.pure b : Task α β).Suffices backends likely := trivial

/-- A task that fails writes nothing. -/
theorem throw (e : Failure) : (MonadExcept.throw e : Task α β).Suffices backends likely := trivial

/-- A task suffices whether or not its failure is caught. -/
theorem attempt {t : Task α β} (h : t.Suffices backends likely) :
    (Task.attempt t).Suffices backends likely :=
  Task.ensures_attempt.2 h

/-- Reading a record writes no status. -/
theorem recordOf (k : ObjectKey) : (Task.recordOf k : Task α (Option α)).Suffices backends likely :=
  Task.ensures_recordOf.2 ⟨trivial, fun _ _ _ => trivial⟩

/-- Looking a key up writes no status. -/
theorem lookup (k : ObjectKey) : (Task.lookup k : Task α (Option α)).Suffices backends likely :=
  ⟨trivial, fun _ _ _ => trivial⟩

/-- Writing a record writes no status. -/
theorem remember (k : ObjectKey) (obj : α) :
    (Task.remember k obj : Task α Unit).Suffices backends likely :=
  Task.ensures_remember.2 ⟨trivial, fun _ _ _ => trivial⟩

/-- Erasing a record writes no status. -/
theorem forget (k : ObjectKey) : (Task.forget k : Task α Unit).Suffices backends likely :=
  Task.ensures_forget.2 ⟨trivial, fun _ _ _ => trivial⟩

/-- Publishing an event writes no status. -/
theorem publish {ω : Type} [Object ω] (obj : ω) (e : Event) :
    (Task.publish obj e : Task α Unit).Suffices backends likely :=
  Task.ensures_publish.2 ⟨trivial, fun _ _ _ => trivial⟩

end Sufficing

/-! ## Claims -/

namespace Claims

/-- Deleting a bucket writes no status. -/
theorem suffices_deleteBucket (claim : BucketClaim) (status : ClaimStatus) :
    (deleteBucket backends claim status).Suffices backends likely := by
  have asks : (requestDeletion backends status).Suffices backends likely :=
    Sufficing.ite (Sufficing.call trivial) (Sufficing.throw _)
  refine Sufficing.bind (Sufficing.attempt asks) fun result => ?_
  cases result with
  | ok => exact Sufficing.publish ..
  | error e => exact Sufficing.ite (Sufficing.pure ()) (Sufficing.publish ..)

/-- Tearing a claim down writes no status. -/
theorem suffices_tearDown (key : ObjectKey) : (tearDown backends key).Suffices backends likely := by
  have disposes (claim : BucketClaim) :
      (disposeBucket backends claim).Suffices backends likely := by
    unfold disposeBucket
    split
    · exact Sufficing.pure ()
    · exact Sufficing.ite (Sufficing.publish ..) (suffices_deleteBucket claim _)
  refine Sufficing.bind (Sufficing.recordOf key) fun record => ?_
  cases record with
  | none => exact Sufficing.pure ()
  | some old => exact Sufficing.bind (disposes old) fun _ => Sufficing.forget key

/-- The status of a claim names the bucket that the backend has just created. -/
theorem suffices_provision (key : ObjectKey) (claim : BucketClaim) (c : BucketClass) :
    (provision backends key claim c).Suffices backends likely := by
  refine Task.ensures_bind.2 (Task.ensures_ofExcept.2 ?_)
  cases which : backends.forClass c with
  | error e => trivial
  | ok backendType =>
    have served := serves_of_forClass which
    cases claim.metadata.uid with
    | none => trivial
    | some uid =>
      refine Task.ensures_bind.2 (Sufficing.ensures_call trivial fun reply credible => ?_)
      cases reply with
      | error e => trivial
      | ok bucketId =>
        have named : bucketId ≠ "" := Issued.bucketId credible served
        refine Sufficing.bind (Sufficing.call fun _ => ⟨named, served⟩) fun updated => ?_
        exact Sufficing.bind (Sufficing.remember key updated) fun _ => Sufficing.publish ..

/-- Whatever is written for a live claim is enough. -/
theorem suffices_syncLive (key : ObjectKey) (claim : BucketClaim) :
    (syncLive backends key claim).Suffices backends likely := by
  have syncs : (sync backends key claim).Suffices backends likely := by
    refine Task.ensures_bind.2 (Task.ensures_ofExcept.2 ?_)
    cases claim.spec.check key.text with
    | error e => trivial
    | ok className =>
      refine Sufficing.bind (Sufficing.call trivial) fun c => ?_
      exact Sufficing.ite (Sufficing.remember key claim) (suffices_provision key claim c)
  have clears : (tearDownSuperseded backends key claim).Suffices backends likely := by
    refine Sufficing.bind (Sufficing.recordOf key) fun record => ?_
    cases record with
    | none => exact Sufficing.pure ()
    | some old => exact Sufficing.ite (suffices_tearDown key) (Sufficing.pure ())
  refine Sufficing.bind clears fun _ => Sufficing.bind (Sufficing.attempt syncs) fun result => ?_
  cases result with
  | ok => exact Sufficing.pure ()
  | error e => exact Sufficing.bind (Sufficing.publish ..) fun _ => Sufficing.throw e

end Claims

/-- **A reconcile of a claim writes only statuses that suffice.** -/
theorem claims_suffice (backends : Registry) (likely : Likely) (text : String) :
    (Claims.reconcile backends text).Ensures (sufficing BucketClaim backends likely) ()
      fun _ _ => True := by
  unfold Claims.reconcile
  cases ObjectKey.parse text with
  | error e => trivial
  | ok k =>
    show (Claims.reconcileKey backends k).Suffices backends likely
    refine Sufficing.bind (Sufficing.lookup k) fun found => ?_
    cases found with
    | none => exact Claims.suffices_tearDown k
    | some claim => exact Claims.suffices_syncLive k claim

/-! ## Accesses -/

namespace Accesses

/-- Storing a secret writes no status. -/
theorem suffices_materialize (ns : String) (secret : Secret) :
    (materialize ns secret : Task α Bool).Suffices backends likely := by
  refine Sufficing.bind (Sufficing.call trivial) fun found => ?_
  cases (found : Option Secret) with
  | some _ => exact Sufficing.pure false
  | none => exact Sufficing.bind (Sufficing.call trivial) fun _ => Sufficing.pure true

/-- Deleting a secret writes no status. -/
theorem suffices_deleteSecret (key : ObjectKey) (access : BucketAccess) :
    (deleteSecret key access).Suffices backends likely := by
  have removes : (removeSecret key.nsOrEmpty access.secretName : Task BucketAccess Unit).Suffices
      backends likely := by
    refine Sufficing.bind (Sufficing.attempt (Sufficing.call trivial)) fun result => ?_
    cases (result : Except Failure Unit) with
    | ok => exact Sufficing.pure ()
    | error e => exact Sufficing.ite (Sufficing.pure ()) (Sufficing.throw e)
  refine Sufficing.bind (Sufficing.attempt removes) fun result => ?_
  cases result with
  | ok => exact Sufficing.pure ()
  | error e => exact Sufficing.publish ..

/-- Revoking an access writes no status. -/
theorem suffices_revoke (key : ObjectKey) : (revoke backends key).Suffices backends likely := by
  have revokes (access : BucketAccess) (status : AccessStatus) :
      (revokeGrant backends access status).Suffices backends likely := by
    have asks : (requestRevocation backends access status).Suffices backends likely :=
      Sufficing.ite (Sufficing.call trivial) (Sufficing.throw _)
    refine Sufficing.bind (Sufficing.attempt asks) fun result => ?_
    cases result with
    | ok => exact Sufficing.publish ..
    | error e => exact Sufficing.ite (Sufficing.pure ()) (Sufficing.publish ..)
  have disposes (access : BucketAccess) :
      (disposeGrant backends key access).Suffices backends likely := by
    unfold disposeGrant
    split
    · exact Sufficing.pure ()
    · exact Sufficing.bind (revokes access _) fun _ => suffices_deleteSecret key access
  refine Sufficing.bind (Sufficing.recordOf key) fun record => ?_
  cases record with
  | none => exact Sufficing.pure ()
  | some old => exact Sufficing.bind (disposes old) fun _ => Sufficing.forget key

/-- The secret of an access has a name. -/
theorem secretName_ne_empty (access : BucketAccess) : access.secretName ≠ "" := by
  unfold BucketAccess.secretName
  split
  · rename_i name recorded
    simpa using (Option.filter_eq_some_iff.1 recorded).2
  · exact append_ne_empty (by decide)

/-- The bucket that an access is for is named. -/
theorem named_of_check {spec : AccessSpec} {key bucketId : String} {refs : AccessRefs}
    (checks : spec.check key = .ok refs) (existing : refs.source = .existing bucketId) :
    bucketId ≠ "" := by
  unfold AccessSpec.check at checks
  split at checks
  · simp at checks
  · split at checks
    · rw [← Except.ok.inj checks] at existing
      simp at existing
    · rename_i bucket _ named
      rw [← Except.ok.inj checks] at existing
      obtain rfl := BucketSource.existing.inj existing
      simpa using (Option.filter_eq_some_iff.1 named).2
    · simp at checks
    · simp at checks

/-- The bucket to which access is granted is named, be it by the access or by a claim. -/
theorem named_of_resolveBucket (key : ObjectKey) {source : BucketSource}
    (named : ∀ bucketId, source = .existing bucketId → bucketId ≠ "") :
    (resolveBucket key source).Ensures (sufficing BucketAccess backends likely) ()
      fun x _ => ∀ bucketId, x = .ok bucketId → bucketId ≠ "" := by
  cases source with
  | existing bucketId =>
    rintro _ ⟨⟩
    exact named bucketId rfl
  | claim name =>
    refine Task.ensures_bind.2 (Sufficing.ensures_call trivial fun reply _ => ?_)
    cases reply with
    | error e => exact nofun
    | ok claim =>
      show Task.Ensures _ _ _ _
      cases provisioned : provisionedBucket? claim with
      | none => exact nofun
      | some bucketId =>
        rintro _ ⟨⟩
        unfold provisionedBucket? at provisioned
        split at provisioned
        · split at provisioned
          · rename_i holds
            rw [Bool.and_eq_true] at holds
            rw [← Option.some.inj provisioned]
            simpa using holds.2
          · simp at provisioned
        · simp at provisioned

/-- The status of an access names the bucket, the account that the backend has just given, and the
secret. -/
theorem suffices_recordGrant (key : ObjectKey) (access : BucketAccess) (c : BucketClass)
    {backendType bucketId : String} {g : Grant} (served : backends.serves backendType = true)
    (bucket : bucketId ≠ "") (account : likely.NamesAccounts → g.accountId ≠ "") :
    (recordGrant key access c backendType bucketId g).Suffices backends likely := by
  refine Sufficing.bind (suffices_materialize key.nsOrEmpty _) fun _ => ?_
  refine Sufficing.bind (Sufficing.call ?_) fun updated => ?_
  · exact fun _ => ⟨bucket, account, secretName_ne_empty access, served⟩
  · exact Sufficing.bind (Sufficing.remember key updated) fun _ => Sufficing.publish ..

/-- A grant through a class writes enough, if a bucket that exists has a name. -/
theorem suffices_grantThrough (key : ObjectKey) (access : BucketAccess) (c : BucketClass)
    {source : BucketSource} (named : ∀ bucketId, source = .existing bucketId → bucketId ≠ "") :
    (grantThrough backends key access c source).Suffices backends likely := by
  refine Task.ensures_bind.2 (Task.ensures_ofExcept.2 ?_)
  cases which : backends.forClass c with
  | error e => trivial
  | ok backendType =>
    have served := serves_of_forClass which
    refine Task.ensures_bind.2 ((named_of_resolveBucket key named).mono fun x _ resolved => ?_)
    cases x with
    | error e => trivial
    | ok bucketId =>
      refine Task.ensures_bind.2 (Task.ensures_ofExcept.2 ?_)
      cases accountName c with
      | error e => trivial
      | ok account =>
        refine Task.ensures_bind.2 (Sufficing.ensures_call trivial fun reply credible => ?_)
        cases reply with
        | error e => trivial
        | ok g =>
          have granted : likely.NamesAccounts → g.accountId ≠ "" :=
            Issued.accountId credible served
          exact suffices_recordGrant key access c served (resolved bucketId rfl) granted

/-- Whatever is written for a live access is enough. -/
theorem suffices_grantLive (key : ObjectKey) (access : BucketAccess) :
    (grantLive backends key access).Suffices backends likely := by
  have grants : (grant backends key access).Suffices backends likely := by
    refine Task.ensures_bind.2 (Task.ensures_ofExcept.2 ?_)
    cases checks : access.spec.check key.text with
    | error e => trivial
    | ok refs =>
      refine Sufficing.bind (Sufficing.call trivial) fun c => ?_
      refine Sufficing.ite (Sufficing.remember key access) ?_
      exact suffices_grantThrough key access c fun _ => named_of_check checks
  have clears : (revokeSuperseded backends key access).Suffices backends likely := by
    refine Sufficing.bind (Sufficing.recordOf key) fun record => ?_
    cases record with
    | none => exact Sufficing.pure ()
    | some old => exact Sufficing.ite (suffices_revoke key) (Sufficing.pure ())
  refine Sufficing.bind clears fun _ => Sufficing.bind (Sufficing.attempt grants) fun result => ?_
  cases result with
  | ok => exact Sufficing.pure ()
  | error e => exact Sufficing.bind (Sufficing.publish ..) fun _ => Sufficing.throw e

end Accesses

/-- **A reconcile of an access writes only statuses that suffice.** -/
theorem accesses_suffice (backends : Registry) (likely : Likely) (text : String) :
    (Accesses.reconcile backends text).Ensures (sufficing BucketAccess backends likely) ()
      fun _ _ => True := by
  unfold Accesses.reconcile
  cases ObjectKey.parse text with
  | error e => trivial
  | ok k =>
    show (Accesses.reconcileKey backends k).Suffices backends likely
    refine Sufficing.bind (Sufficing.lookup k) fun found => ?_
    cases found with
    | none => exact Accesses.suffices_revoke k
    | some access => exact Accesses.suffices_grantLive k access

end BucketProvisioning.Reconcile
