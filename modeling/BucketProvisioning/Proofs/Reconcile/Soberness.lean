import BucketProvisioning.Proofs.Reconcile.AccessConduct
import BucketProvisioning.Proofs.Reconcile.Judging

/-!
# The reconcilers are sober

A reconcile writes a status in its last call, and until then the record of its key is the one with
which it began, unless that was one of an object that is gone.  If the write is not confirmed, it
leaves the record alone and fails (`claims_sober`, `accesses_sober`).

Of an access more is known: the secret that is created and the status that is written are those of
the grant that the backend has just given (`accesses_granting`).
-/

set_option autoImplicit false

namespace BucketProvisioning.Reconcile

open BucketProvisioning BucketProvisioning.Resource BucketProvisioning.Backend

variable {backends : Registry} {k : ObjectKey}

/-- An attempt that has taken away the record of an object that is gone is as sober as before. -/
theorem Attempt.Sober.forgetting {α : Type} [Object α] [Managed α] {a : Attempt α} {old : α}
    (calm : a.Sober) (is : a.initial = some old) (gone : Gone a.found old) :
    { a with record := none }.Sober :=
  ⟨calm.unwritten, Or.inr ⟨rfl, old, is, gone⟩⟩

/-! ## Claims -/

namespace Claims

variable {a : Attempt BucketClaim} {claim : BucketClaim}

/-- Disposing of a bucket writes no status. -/
theorem sober_disposeBucket {old : BucketClaim} {Q : Except Failure Unit → Attempt BucketClaim → Prop}
    (calm : a.Sober) (h : ∀ calls, { a with calls }.Sober → Q (.ok ()) { a with calls }) :
    (disposeBucket backends old).Ensures (judging backends (sober BucketClaim) k) a Q := by
  unfold disposeBucket
  split
  · exact h a.calls calm
  rename_i status _
  refine Task.ensures_ite (fun _ => Judging.ensures_publish trivial (h a.calls calm)) fun _ => ?_
  unfold deleteBucket requestDeletion
  refine Task.ensures_bind.2 (Task.ensures_attempt.2 (Task.ensures_ite (fun _ => ?_) fun _ => ?_))
  · refine Judging.ensures_call calm fun reply _ => ?_
    have done := h _ (calm.calling (.backend status.backendType
      (.deleteBucket status.bucketId status.region)) reply rfl)
    cases reply with
    | ok => exact Judging.ensures_publish trivial done
    | error e => exact Task.ensures_ite (fun _ => done) fun _ => Judging.ensures_publish trivial done
  · exact Task.ensures_ite (fun _ => h a.calls calm)
      fun _ => Judging.ensures_publish trivial (h a.calls calm)

/-- A teardown right after the look at the key, of a record of a claim that is gone. -/
theorem sober_tearDown {found record : Option BucketClaim}
    {Q : Except Failure Unit → Attempt BucketClaim → Prop}
    (gone : ∀ old, record = some old → Gone found old)
    (h : ∀ a : Attempt BucketClaim, a.Sober → a.found = found → Q (.ok ()) a) :
    (tearDown backends k).Ensures (judging backends (sober BucketClaim) k) (.opening found record)
      Q := by
  unfold tearDown
  refine Task.ensures_bind.2
    (Judging.ensures_recordOf Attempt.sober_opening.not_failing ?_)
  cases record with
  | none => exact h _ Attempt.sober_opening rfl
  | some old =>
    refine Task.ensures_bind.2 (sober_disposeBucket Attempt.sober_opening fun calls calm => ?_)
    exact Judging.ensures_forget calm.not_failing (h _ (calm.forgetting rfl (gone old rfl)) rfl)

/-- Provisioning writes the status once, and fails if that is not confirmed. -/
theorem sober_provision {c : BucketClass} (calm : a.Sober) :
    (provision backends k claim c).Ensures (judging backends (sober BucketClaim) k) a
      Attempt.Frank := by
  unfold provision
  refine Task.ensures_bind.2 (Task.ensures_ofExcept.2 ?_)
  cases backends.forClass c with
  | error e => exact calm.frank
  | ok backendType =>
    cases claim.metadata.uid with
    | none => exact calm.frank
    | some uid =>
      refine Task.ensures_bind.2 (Judging.ensures_call calm fun reply _ => ?_)
      replace calm := calm.calling (.backend backendType (.createBucket uid c.spec.region)) reply rfl
      cases reply with
      | error e => exact calm.frank
      | ok bucketId =>
        let status := ClaimStatus.ofProvisioned c bucketId backendType
        refine Task.ensures_bind.2 (Judging.ensures_call calm fun reply _ => ?_)
        cases reply with
        | error e => exact calm.frank_failed (.writeClaimStatus claim status) (.error e) e
        | ok updated =>
          have written := calm.written (.writeClaimStatus claim status) (.ok updated) rfl
          refine Task.ensures_bind.2 (Judging.ensures_remember (written _) ?_)
          exact Judging.ensures_publish trivial fun failing => absurd failing (written _)

/-- So does bringing a claim to its desired state. -/
theorem sober_sync (calm : a.Sober) :
    (sync backends k claim).Ensures (judging backends (sober BucketClaim) k) a Attempt.Frank := by
  unfold sync
  refine Task.ensures_bind.2 (Task.ensures_ofExcept.2 ?_)
  cases claim.spec.check k.text with
  | error e => exact calm.frank
  | ok className =>
    refine Task.ensures_bind.2 (Judging.ensures_call calm fun reply _ => ?_)
    replace calm := calm.calling (.getClass className) reply rfl
    cases reply with
    | error e => exact calm.frank
    | ok c =>
      refine Task.ensures_ite (fun _ => ?_) fun _ => sober_provision calm
      exact Judging.ensures_remember calm.not_failing fun failing => absurd failing calm.not_failing

/-- So does whatever is done for a live claim. -/
theorem sober_syncLive {record : Option BucketClaim} :
    (syncLive backends k claim).Ensures (judging backends (sober BucketClaim) k)
      (.opening (some claim) record) Attempt.Frank := by
  unfold syncLive
  rw [tearDownSuperseded_eq]
  refine Task.ensures_bind.2 (Judging.ensures_attend Attempt.sober_opening.not_failing ?_ ?_)
  · intro old is gone
    refine sober_tearDown ?_ fun a calm _ =>
      Judging.ensures_told (fun _ _ => trivial) (sober_sync calm)
    rintro _ is'
    obtain rfl := Option.some.inj (is.symm.trans is')
    exact gone
  · exact Judging.ensures_told (fun _ _ => trivial) (sober_sync Attempt.sober_opening)

end Claims

/-- **A reconcile of a claim is sober.** -/
theorem claims_sober (backends : Registry) :
    Judged backends (Claims.reconcile backends) (sober BucketClaim) fun _ => Attempt.Frank := by
  intro text k next found initial read looks known known'
  simp only [Claims.reconcile, read] at looks
  obtain ⟨-, same⟩ := Program.ask.inj looks
  obtain rfl := eq_of_heq same
  cases found with
  | none => exact Claims.sober_tearDown (fun old is => gone_none (known' old is)) fun a calm _ => calm.frank
  | some claim => exact Claims.sober_syncLive

/-! ## Accesses -/

namespace Accesses

/-- The last call was a grant. -/
def JustGranted (backendType bucketId : String) (g : Grant) (calls : List Called) : Prop :=
  ∃ account earlier,
    calls = ⟨.backend backendType (.grantAccess bucketId account), some (.ok g)⟩ :: earlier

/-- A secret that is created holds the credentials that a backend has just given, and none of its
name was found. -/
def Issues (k : ObjectKey) (access : BucketAccess) (calls : List Called) (ns : String)
    (secret : Secret) : Prop :=
  ∃ t b g endpoint earlier, JustGranted t b g earlier ∧ ns = k.nsOrEmpty ∧
    secret = credentialsSecret access access.secretName b endpoint g.credentials ∧
    calls = ⟨.getSecret k.nsOrEmpty access.secretName, some (.ok none)⟩ :: earlier

/-- A status that is written names the grant that a backend has just given and the secret that was
found thereupon, or has been created for it. -/
def Reports (k : ObjectKey) (access : BucketAccess) (calls : List Called) (status : AccessStatus) :
    Prop :=
  ∃ t b g earlier, JustGranted t b g earlier ∧ status = grantedStatus g b t access.secretName ∧
    ((∃ secret, calls =
        ⟨.getSecret k.nsOrEmpty access.secretName, some (.ok (some secret))⟩ :: earlier) ∨
      ∃ endpoint, calls =
        ⟨.createSecret k.nsOrEmpty
            (credentialsSecret access access.secretName b endpoint g.credentials), some (.ok ())⟩ ::
          ⟨.getSecret k.nsOrEmpty access.secretName, some (.ok none)⟩ :: earlier)

/-- What an attempt at a live access creates and writes is what it has just been granted. -/
def Follows (k : ObjectKey) (a : Attempt BucketAccess) : Call → Prop
  | .createSecret ns secret => ∃ access, a.found = some access ∧ Issues k access a.calls ns secret
  | .writeAccessStatus access status => a.found = some access ∧ Reports k access a.calls status
  | _ => True

/-- What may be requested in an attempt at an access: what is sober, and for what has been granted. -/
def granting : Permits BucketAccess
  | k, a, .call c => a.Sober ∧ Follows k a c
  | k, a, r => sober BucketAccess k a r

variable {a : Attempt BucketAccess} {access : BucketAccess}

/-- Deleting a secret writes no status. -/
theorem granting_deleteSecret {old : BucketAccess}
    {Q : Except Failure Unit → Attempt BucketAccess → Prop} (calm : a.Sober)
    (h : ∀ calls, { a with calls }.Sober → Q (.ok ()) { a with calls }) :
    (deleteSecret k old).Ensures (judging backends granting k) a Q := by
  unfold deleteSecret removeSecret
  refine Task.ensures_bind.2 (Task.ensures_attempt.2 (Task.ensures_bind.2 (Task.ensures_attempt.2
    (Judging.ensures_call ⟨calm, trivial⟩ fun reply _ => ?_))))
  have done := h _ (calm.calling (.deleteSecret k.nsOrEmpty old.secretName) reply rfl)
  cases reply with
  | ok => exact done
  | error e =>
    refine Task.ensures_ite (fun _ => done) fun _ => ?_
    exact Judging.ensures_publish trivial done

/-- Disposing of a grant writes no status. -/
theorem granting_disposeGrant {old : BucketAccess}
    {Q : Except Failure Unit → Attempt BucketAccess → Prop} (calm : a.Sober)
    (h : ∀ calls, { a with calls }.Sober → Q (.ok ()) { a with calls }) :
    (disposeGrant backends k old).Ensures (judging backends granting k) a Q := by
  unfold disposeGrant
  split
  · exact h a.calls calm
  rename_i status _
  unfold revokeGrant requestRevocation
  refine Task.ensures_bind.2 (Task.ensures_bind.2 (Task.ensures_attempt.2
    (Task.ensures_ite (fun _ => ?_) fun _ => ?_)))
  · refine Judging.ensures_call ⟨calm, trivial⟩ fun reply _ => ?_
    have next : (deleteSecret k old).Ensures (judging backends granting k) _ Q :=
      granting_deleteSecret (calm.calling (.backend status.backendType
        (.revokeAccess status.bucketId status.accountId)) reply rfl) h
    cases reply with
    | ok => exact Judging.ensures_publish trivial next
    | error e => exact Task.ensures_ite (fun _ => next) fun _ => Judging.ensures_publish trivial next
  · have next : (deleteSecret k old).Ensures (judging backends granting k) a Q :=
      granting_deleteSecret calm h
    exact Task.ensures_ite (fun _ => next) fun _ => Judging.ensures_publish trivial next

/-- A revocation right after the look at the key, of a record of an access that is gone. -/
theorem granting_revoke {found record : Option BucketAccess}
    {Q : Except Failure Unit → Attempt BucketAccess → Prop}
    (gone : ∀ old, record = some old → Gone found old)
    (h : ∀ a : Attempt BucketAccess, a.Sober → a.found = found → Q (.ok ()) a) :
    (revoke backends k).Ensures (judging backends granting k) (.opening found record) Q := by
  unfold revoke
  refine Task.ensures_bind.2
    (Judging.ensures_recordOf Attempt.sober_opening.not_failing ?_)
  cases record with
  | none => exact h _ Attempt.sober_opening rfl
  | some old =>
    refine Task.ensures_bind.2 (granting_disposeGrant Attempt.sober_opening fun calls calm => ?_)
    exact Judging.ensures_forget calm.not_failing (h _ (calm.forgetting rfl (gone old rfl)) rfl)

/-- The credentials of a grant are stored and the status is written. -/
theorem granting_recordGrant {c : BucketClass} {t b : String} {g : Grant} (calm : a.Sober)
    (there : a.found = some access) (granted : JustGranted t b g a.calls) :
    (recordGrant k access c t b g).Ensures (judging backends granting k) a Attempt.Frank := by
  -- whichever way the secret came about, the status is written next
  have writes (a' : Attempt BucketAccess) (calm : a'.Sober) (there : a'.found = some access)
      (reports : Reports k access a'.calls (grantedStatus g b t access.secretName)) :
      Task.Ensures (judging backends granting k) (do
        let updated : BucketAccess ← Task.call
          (.writeAccessStatus access (grantedStatus g b t access.secretName))
        Task.remember k updated
        Task.publish access (.normal .accessGranted .grant
          ("Credentials stored in secret " ++ access.secretName))) a' Attempt.Frank := by
    refine Task.ensures_bind.2 (Judging.ensures_call ⟨calm, there, reports⟩ fun reply _ => ?_)
    cases reply with
    | error e => exact calm.frank_failed (.writeAccessStatus access _) (.error e) e
    | ok updated =>
      have written := calm.written (.writeAccessStatus access _) (.ok updated) rfl
      refine Task.ensures_bind.2 (Judging.ensures_remember (written _) ?_)
      exact Judging.ensures_publish trivial fun failing => absurd failing (written _)
  let secret := credentialsSecret access access.secretName b c.spec.endpoint? g.credentials
  unfold recordGrant materialize
  refine Task.ensures_bind.2 (Task.ensures_bind.2
    (Judging.ensures_call ⟨calm, trivial⟩ fun reply _ => ?_))
  have read := calm.calling (.getSecret k.nsOrEmpty access.secretName) reply rfl
  cases reply with
  | error e => exact read.frank
  | ok found =>
    cases (found : Option Secret) with
    | some other => exact writes _ read there ⟨t, b, g, a.calls, granted, rfl, Or.inl ⟨other, rfl⟩⟩
    | none =>
      have issues : Issues k access (a.calling (.getSecret k.nsOrEmpty access.secretName)
          (.ok none)).calls k.nsOrEmpty secret := ⟨t, b, g, _, a.calls, granted, rfl, rfl, rfl⟩
      refine Task.ensures_bind.2
        (Judging.ensures_call ⟨read, access, there, issues⟩ fun reply _ => ?_)
      have created := read.calling (.createSecret k.nsOrEmpty secret) reply rfl
      cases reply with
      | error e => exact created.frank
      | ok => exact writes _ created there ⟨t, b, g, a.calls, granted, rfl, Or.inr ⟨_, rfl⟩⟩

/-- Resolving a bucket writes no status. -/
theorem granting_resolveBucket {source : BucketSource}
    {Q : Except Failure String → Attempt BucketAccess → Prop} (calm : a.Sober)
    (h : ∀ result a', a'.found = a.found → a'.Sober → Q result a') :
    (resolveBucket k source).Ensures (judging backends granting k) a Q := by
  unfold resolveBucket
  split
  · exact h _ _ rfl calm
  · rename_i name
    refine Task.ensures_bind.2 (Judging.ensures_call ⟨calm, trivial⟩ fun reply _ => ?_)
    have read := calm.calling (.getClaim k.nsOrEmpty name) reply rfl
    cases reply with
    | error e => exact h _ _ rfl read
    | ok claim =>
      show Task.Ensures (judging backends granting k) _ _ Q
      split
      · exact h _ _ rfl read
      · exact h _ _ rfl read

/-- The bucket is resolved, and access to it granted and recorded. -/
theorem granting_grantThrough {c : BucketClass} {source : BucketSource} (calm : a.Sober)
    (there : a.found = some access) :
    (grantThrough backends k access c source).Ensures (judging backends granting k) a
      Attempt.Frank := by
  unfold grantThrough
  refine Task.ensures_bind.2 (Task.ensures_ofExcept.2 ?_)
  cases backends.forClass c with
  | error e => exact calm.frank
  | ok backendType =>
    refine Task.ensures_bind.2 (granting_resolveBucket calm fun result a same calm => ?_)
    rw [← same] at there
    cases result with
    | error e => exact calm.frank
    | ok bucketId =>
      refine Task.ensures_bind.2 (Task.ensures_ofExcept.2 ?_)
      cases accountName c with
      | error e => exact calm.frank
      | ok account =>
        refine Task.ensures_bind.2 (Judging.ensures_call ⟨calm, trivial⟩ fun reply _ => ?_)
        have granted := calm.calling (.backend backendType (.grantAccess bucketId account)) reply rfl
        cases reply with
        | error e => exact granted.frank
        | ok g => exact granting_recordGrant granted there ⟨account, a.calls, rfl⟩

/-- A grant writes the status once, after the grant and the secret, and fails if that is not
confirmed. -/
theorem granting_grant (calm : a.Sober) (there : a.found = some access) :
    (grant backends k access).Ensures (judging backends granting k) a Attempt.Frank := by
  unfold grant
  refine Task.ensures_bind.2 (Task.ensures_ofExcept.2 ?_)
  cases access.spec.check k.text with
  | error e => exact calm.frank
  | ok refs =>
    refine Task.ensures_bind.2 (Judging.ensures_call ⟨calm, trivial⟩ fun reply _ => ?_)
    have read := calm.calling (.getClass refs.className) reply rfl
    cases reply with
    | error e => exact read.frank
    | ok c =>
      refine Task.ensures_ite (fun _ => ?_) fun _ => granting_grantThrough read there
      exact Judging.ensures_remember read.not_failing fun failing => absurd failing read.not_failing

/-- So does whatever is done for a live access. -/
theorem granting_grantLive {record : Option BucketAccess} :
    (grantLive backends k access).Ensures (judging backends granting k)
      (.opening (some access) record) Attempt.Frank := by
  unfold grantLive
  rw [revokeSuperseded_eq]
  refine Task.ensures_bind.2 (Judging.ensures_attend Attempt.sober_opening.not_failing ?_ ?_)
  · intro old is gone
    refine granting_revoke ?_ fun a calm there =>
      Judging.ensures_told (fun _ _ => trivial) (granting_grant calm there)
    rintro _ is'
    obtain rfl := Option.some.inj (is.symm.trans is')
    exact gone
  · exact Judging.ensures_told (fun _ _ => trivial) (granting_grant Attempt.sober_opening rfl)

end Accesses

/-- **What a reconcile of an access creates and writes is what it has just been granted**, and the
reconcile is sober. -/
theorem accesses_granting (backends : Registry) :
    Judged backends (Accesses.reconcile backends) Accesses.granting fun _ => Attempt.Frank := by
  intro text k next found initial read looks known known'
  simp only [Accesses.reconcile, read] at looks
  obtain ⟨-, same⟩ := Program.ask.inj looks
  obtain rfl := eq_of_heq same
  cases found with
  | none =>
    refine Accesses.granting_revoke (fun old is => gone_none (known' old is)) ?_
    exact fun a calm _ => calm.frank
  | some access => exact Accesses.granting_grantLive

/-- **A reconcile of an access is sober.** -/
theorem accesses_sober (backends : Registry) :
    Judged backends (Accesses.reconcile backends) (sober BucketAccess) fun _ => Attempt.Frank := by
  refine (accesses_granting backends).mono ?_
  intro k a r may
  cases r with
  | call c => exact may.1
  | publish e about => exact trivial
  | store access => exact may

end BucketProvisioning.Reconcile
