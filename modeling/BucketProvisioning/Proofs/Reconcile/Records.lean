import BucketProvisioning.Cluster.State
import BucketProvisioning.Proofs.Reconcile.Ensures
import BucketProvisioning.Reconcile.Accesses
import BucketProvisioning.Reconcile.Claims

/-!
# The record that a reconcile leaves

A reconcile looks its key up and then works on the record of that key and on no other.  Whatever
its calls give, and whether it succeeds or fails: in the end there is no record of the key, or one
of the object that was found, as far as unique identifiers tell (`Fits`).  So what is on record for
an object that is gone, or that another object has taken the place of, has been torn down.

`slot` is the world in which this is said: its state is the record of one key.  The only thing that
is asked of the replies is that a status write that succeeds tells of the object that was written;
`Faithful` says so, and `faithful_writeClaimStatus` that the simulated cluster does.
-/

set_option autoImplicit false
set_option linter.unusedSectionVars false

namespace BucketProvisioning.Reconcile

open BucketProvisioning BucketProvisioning.Resource BucketProvisioning.Backend

/-- A status write that succeeds replies with the object that was written.  The write carries the
version of the copy, so it does not get through to an object that has taken the place of the one
that the copy shows. -/
def Faithful : (c : Call) → Except Failure c.Result → Prop
  | .writeClaimStatus claim _, .ok (updated : BucketClaim) =>
    Object.uid? updated = Object.uid? claim
  | .writeAccessStatus access _, .ok (updated : BucketAccess) =>
    Object.uid? updated = Object.uid? access
  | _, _ => True

variable {α : Type} [Object α]

/-- The world of the record of a key: a program that has looked its key up may read and write that
record, and no other. -/
def slot (k : ObjectKey) : World α (Option α) where
  allows _ r :=
    match r with
    | .store (.lookup _) => False
    | .store (.recordOf k') => k' = k
    | .store (.remember k' _) => k' = k
    | .store (.forget k') => k' = k
    | _ => True
  answers old r reply new :=
    match r with
    | .call c => Faithful c reply ∧ new = old
    | .publish _ _ => new = old
    | .store (.lookup _) => True
    | .store (.recordOf _) => reply = old ∧ new = old
    | .store (.remember _ obj) => new = some obj
    | .store (.forget _) => new = none

/-- Every object has a unique identifier. -/
def Identified (o : Option α) : Prop := ∀ obj, o = some obj → (Object.uid? obj).isSome

/-- Where there is no object, every object has a unique identifier. -/
theorem identified_none : Identified (none : Option α) := nofun

/-- A record is none, or one of the object that was found. -/
def Fits (found record : Option α) : Prop :=
  ∀ old, record = some old → (Object.uid? old).isSome ∧
    ∃ live, found = some live ∧ Object.uid? live = Object.uid? old

/-- A record that fits has a unique identifier. -/
theorem Fits.identified {found record : Option α} (h : Fits found record) : Identified record :=
  fun old is => (h old is).1

/-- It fits that there is no record. -/
theorem fits_none (found : Option α) : Fits found none := nofun

/-- A record of the same object fits. -/
theorem fits_some {live old : α} (identified : (Object.uid? live).isSome)
    (same : Object.uid? old = Object.uid? live) : Fits (some live) (some old) := by
  rintro _ ⟨⟩
  exact ⟨same ▸ identified, live, rfl, same.symm⟩

/-- A record that no live object has taken the place of is one of that object. -/
theorem fits_of_not_superseded {live : α} {record : Option α} (identified : Identified record)
    (kept : ∀ old, record = some old → isSuperseded old live = false) :
    Fits (some live) record := by
  intro old is
  have known := identified old is
  have same := kept old is
  simp only [isSuperseded, known, Bool.true_and, decide_eq_false_iff_not, ne_eq,
    Decidable.not_not] at same
  exact ⟨known, live, rfl, same.symm⟩

/-! ## Tasks on one record -/

namespace Slot

variable {k : ObjectKey} {old : Option α} {β : Type}

/-- A call leaves the record alone. -/
theorem ensures_call {c : Call} {Q : Except Failure c.Result → Option α → Prop}
    (h : ∀ reply, Faithful c reply → Q reply old) :
    (Task.call c : Task α c.Result).Ensures (slot k) old Q := by
  refine Task.ensures_call.2 ⟨trivial, ?_⟩
  rintro reply _ ⟨faithful, rfl⟩
  exact h reply faithful

/-- The record is read as it is. -/
theorem ensures_recordOf {Q : Except Failure (Option α) → Option α → Prop} (h : Q (.ok old) old) :
    (Task.recordOf k : Task α (Option α)).Ensures (slot k) old Q := by
  refine Task.ensures_recordOf.2 ⟨rfl, ?_⟩
  rintro _ _ ⟨rfl, rfl⟩
  exact h

/-- What is remembered is the record. -/
theorem ensures_remember {obj : α} {Q : Except Failure Unit → Option α → Prop}
    (h : Q (.ok ()) (some obj)) : (Task.remember k obj : Task α Unit).Ensures (slot k) old Q := by
  refine Task.ensures_remember.2 ⟨rfl, ?_⟩
  rintro _ _ rfl
  exact h

/-- What is forgotten leaves no record. -/
theorem ensures_forget {Q : Except Failure Unit → Option α → Prop} (h : Q (.ok ()) none) :
    (Task.forget k : Task α Unit).Ensures (slot k) old Q := by
  refine Task.ensures_forget.2 ⟨rfl, ?_⟩
  rintro _ _ rfl
  exact h

/-- An event leaves the record alone. -/
theorem ensures_publish {ω : Type} [Object ω] {obj : ω} {e : Event}
    {Q : Except Failure Unit → Option α → Prop} (h : Q (.ok ()) old) :
    (Task.publish obj e : Task α Unit).Ensures (slot k) old Q := by
  refine Task.ensures_publish.2 ⟨trivial, ?_⟩
  rintro _ _ rfl
  exact h

/-- What both reconcilers do about the record of an earlier object in whose place a live one has
come. -/
def attend (k : ObjectKey) (live : α) (teardown : Task α Unit) : Task α Unit := do
  match ← Task.recordOf k with
  | some old => if isSuperseded old live then teardown else return ()
  | none => return ()

/-- If the teardown takes the record away, a record that is left is one of the live object. -/
theorem ensures_attend {live : α} {teardown : Task α Unit} (identified : Identified old)
    (erases : ∀ Q : Except Failure Unit → Option α → Prop, Q (.ok ()) none →
      teardown.Ensures (slot k) old Q)
    {Q : Except Failure Unit → Option α → Prop}
    (h : ∀ record, Fits (some live) record → Q (.ok ()) record) :
    (attend k live teardown).Ensures (slot k) old Q := by
  unfold attend
  refine Task.ensures_bind.2 (ensures_recordOf ?_)
  cases old with
  | none => exact h none (fits_none _)
  | some earlier =>
    refine Task.ensures_ite (fun _ => ?_) fun kept => ?_
    · exact erases Q (h none (fits_none _))
    · refine h _ (fits_of_not_superseded identified ?_)
      rintro _ ⟨⟩
      exact Bool.not_eq_true _ ▸ kept

end Slot

/-! ## Claims -/

namespace Claims

variable {backends : Registry} {k : ObjectKey} {old : Option BucketClaim}
variable {Q : Except Failure Unit → Option BucketClaim → Prop}

/-- Asking for the deletion of a bucket leaves the record alone. -/
theorem ensures_requestDeletion {status : ClaimStatus} (h : ∀ result, Q result old) :
    (requestDeletion backends status).Ensures (slot k) old Q := by
  unfold requestDeletion
  refine Task.ensures_ite (fun _ => ?_) (fun _ => h _)
  exact Slot.ensures_call fun reply _ => h reply

/-- Whatever comes of the deletion of a bucket, the teardown goes on. -/
theorem ensures_deleteBucket {claim : BucketClaim} {status : ClaimStatus} (h : Q (.ok ()) old) :
    (deleteBucket backends claim status).Ensures (slot k) old Q := by
  unfold deleteBucket
  refine Task.ensures_bind.2 (Task.ensures_attempt.2 (ensures_requestDeletion ?_))
  intro result
  cases result with
  | ok => exact Slot.ensures_publish h
  | error e =>
    by_cases absent : e.isNotFound = true
    · simp only [absent, if_true]
      exact h
    · simp only [absent]
      exact Slot.ensures_publish h

/-- Disposing of a bucket leaves the record alone and does not fail. -/
theorem ensures_disposeBucket {claim : BucketClaim} (h : Q (.ok ()) old) :
    (disposeBucket backends claim).Ensures (slot k) old Q := by
  unfold disposeBucket
  split
  · exact h
  · split
    · exact Slot.ensures_publish h
    · exact ensures_deleteBucket h

/-- A teardown succeeds and leaves no record. -/
theorem ensures_tearDown (h : Q (.ok ()) none) :
    (tearDown backends k).Ensures (slot k) old Q := by
  unfold tearDown
  refine Task.ensures_bind.2 (Slot.ensures_recordOf ?_)
  cases old with
  | none => exact h
  | some claim =>
    refine Task.ensures_bind.2 (ensures_disposeBucket ?_)
    exact Slot.ensures_forget h

/-- The record that a provisioning leaves is the one that it found or is of the claim. -/
theorem ensures_provision {claim : BucketClaim} {c : BucketClass}
    (kept : ∀ result, Q result old)
    (written : ∀ result updated, Object.uid? updated = Object.uid? claim →
      Q result (some updated)) :
    (provision backends k claim c).Ensures (slot k) old Q := by
  unfold provision
  refine Task.ensures_bind.2 (Task.ensures_ofExcept.2 ?_)
  cases backends.forClass c with
  | error e => exact kept _
  | ok backendType =>
    show Task.Ensures (slot k) _ old Q
    split
    · exact kept _
    · refine Task.ensures_bind.2 (Slot.ensures_call fun reply _ => ?_)
      cases reply with
      | error e => exact kept _
      | ok bucketId =>
        refine Task.ensures_bind.2 (Slot.ensures_call fun reply faithful => ?_)
        cases reply with
        | error e => exact kept _
        | ok updated =>
          refine Task.ensures_bind.2 (Slot.ensures_remember ?_)
          exact Slot.ensures_publish (written _ updated faithful)

/-- Bringing a claim to its desired state leaves the record alone or puts a version of the claim on
it. -/
theorem ensures_sync {claim : BucketClaim} (kept : ∀ result, Q result old)
    (written : ∀ result updated, Object.uid? updated = Object.uid? claim →
      Q result (some updated)) :
    (sync backends k claim).Ensures (slot k) old Q := by
  unfold sync
  refine Task.ensures_bind.2 (Task.ensures_ofExcept.2 ?_)
  cases claim.spec.check k.text with
  | error e => exact kept _
  | ok className =>
    refine Task.ensures_bind.2 (Slot.ensures_call fun reply _ => ?_)
    cases reply with
    | error e => exact kept _
    | ok c =>
      show Task.Ensures (slot k) _ old Q
      split
      · exact Slot.ensures_remember (written _ claim rfl)
      · exact ensures_provision kept written

/-- The teardown for a claim in whose place another one has come is that of a slot. -/
theorem tearDownSuperseded_eq (claim : BucketClaim) :
    tearDownSuperseded backends k claim = Slot.attend k claim (tearDown backends k) := by
  unfold tearDownSuperseded Slot.attend
  refine congrArg (Task.recordOf k >>= ·) (funext fun found => ?_)
  cases found <;> rfl

/-- In the end the record of a live claim is one of that claim, if there is any. -/
theorem ensures_syncLive {claim : BucketClaim} (identified : Identified old)
    (live : (Object.uid? claim).isSome)
    (h : ∀ result record, Fits (some claim) record → Q result record) :
    (syncLive backends k claim).Ensures (slot k) old Q := by
  unfold syncLive
  rw [tearDownSuperseded_eq]
  refine Task.ensures_bind.2 (Slot.ensures_attend identified (fun _ => ensures_tearDown) ?_)
  intro record fits
  have synced : (sync backends k claim).Ensures (slot k) record fun _ left =>
      Fits (some claim) left :=
    ensures_sync (fun _ => fits) fun _ updated same => fits_some live same
  refine Task.ensures_bind.2 (Task.ensures_attempt.2 (synced.mono ?_))
  intro result left fits
  cases result with
  | ok => exact h _ left fits
  | error e => exact Task.ensures_bind.2 (Slot.ensures_publish (h _ left fits))

end Claims

/-! ## Accesses -/

section secrets

variable {k : ObjectKey} {old : Option α} {ns : String}

/-- Storing a secret leaves the record alone. -/
theorem ensures_materialize {secret : Secret} {Q : Except Failure Bool → Option α → Prop}
    (h : ∀ result, Q result old) : (materialize ns secret).Ensures (slot k) old Q := by
  unfold materialize
  refine Task.ensures_bind.2 (Slot.ensures_call fun reply _ => ?_)
  cases reply with
  | error e => exact h _
  | ok found =>
    cases (found : Option Secret) with
    | some _ => exact h _
    | none =>
      refine Task.ensures_bind.2 (Slot.ensures_call fun reply _ => ?_)
      cases reply <;> exact h _

/-- Removing a secret leaves the record alone. -/
theorem ensures_removeSecret {name : String} {Q : Except Failure Unit → Option α → Prop}
    (h : ∀ result, Q result old) : (removeSecret ns name).Ensures (slot k) old Q := by
  unfold removeSecret
  refine Task.ensures_bind.2 (Task.ensures_attempt.2 (Slot.ensures_call fun reply _ => ?_))
  cases reply with
  | ok => exact h _
  | error e => exact Task.ensures_ite (fun _ => h _) (fun _ => h _)

end secrets

namespace Accesses

variable {backends : Registry} {k : ObjectKey} {old : Option BucketAccess}
variable {Q : Except Failure Unit → Option BucketAccess → Prop}

/-- Asking for a revocation leaves the record alone. -/
theorem ensures_requestRevocation {access : BucketAccess} {status : AccessStatus}
    (h : ∀ result, Q result old) :
    (requestRevocation backends access status).Ensures (slot k) old Q := by
  unfold requestRevocation
  refine Task.ensures_ite (fun _ => ?_) (fun _ => h _)
  exact Slot.ensures_call fun reply _ => h reply

/-- Whatever comes of the revocation of a grant, the teardown goes on. -/
theorem ensures_revokeGrant {access : BucketAccess} {status : AccessStatus} (h : Q (.ok ()) old) :
    (revokeGrant backends access status).Ensures (slot k) old Q := by
  unfold revokeGrant
  refine Task.ensures_bind.2 (Task.ensures_attempt.2 (ensures_requestRevocation ?_))
  intro result
  cases result with
  | ok => exact Slot.ensures_publish h
  | error e => exact Task.ensures_ite (fun _ => h) fun _ => Slot.ensures_publish h

/-- The same goes for the deletion of a secret. -/
theorem ensures_deleteSecret {access : BucketAccess} (h : Q (.ok ()) old) :
    (deleteSecret k access).Ensures (slot k) old Q := by
  unfold deleteSecret
  refine Task.ensures_bind.2 (Task.ensures_attempt.2 (ensures_removeSecret ?_))
  intro result
  cases result with
  | ok => exact h
  | error e => exact Slot.ensures_publish h

/-- Disposing of a grant leaves the record alone and does not fail. -/
theorem ensures_disposeGrant {access : BucketAccess} (h : Q (.ok ()) old) :
    (disposeGrant backends k access).Ensures (slot k) old Q := by
  unfold disposeGrant
  split
  · exact h
  · refine Task.ensures_bind.2 (ensures_revokeGrant ?_)
    exact ensures_deleteSecret h

/-- A revocation succeeds and leaves no record. -/
theorem ensures_revoke (h : Q (.ok ()) none) : (revoke backends k).Ensures (slot k) old Q := by
  unfold revoke
  refine Task.ensures_bind.2 (Slot.ensures_recordOf ?_)
  cases old with
  | none => exact h
  | some access =>
    refine Task.ensures_bind.2 (ensures_disposeGrant ?_)
    exact Slot.ensures_forget h

/-- Resolving a bucket leaves the record alone. -/
theorem ensures_resolveBucket {source : BucketSource}
    {Q : Except Failure String → Option BucketAccess → Prop} (h : ∀ result, Q result old) :
    (resolveBucket k source).Ensures (slot k) old Q := by
  unfold resolveBucket
  split
  · exact h _
  · refine Task.ensures_bind.2 (Slot.ensures_call fun reply _ => ?_)
    cases reply with
    | error e => exact h _
    | ok claim =>
      show Task.Ensures (slot k) _ old Q
      split
      · exact h _
      · exact h _

/-- Recording a grant leaves the record alone or puts a version of the access on it. -/
theorem ensures_recordGrant {access : BucketAccess} {c : BucketClass}
    {backendType bucketId : String} {g : Grant} (kept : ∀ result, Q result old)
    (written : ∀ result updated, Object.uid? updated = Object.uid? access →
      Q result (some updated)) :
    (recordGrant k access c backendType bucketId g).Ensures (slot k) old Q := by
  unfold recordGrant
  refine Task.ensures_bind.2 (ensures_materialize ?_)
  intro result
  cases result with
  | error e => exact kept _
  | ok _ =>
    refine Task.ensures_bind.2 (Slot.ensures_call fun reply faithful => ?_)
    cases reply with
    | error e => exact kept _
    | ok updated =>
      refine Task.ensures_bind.2 (Slot.ensures_remember ?_)
      exact Slot.ensures_publish (written _ updated faithful)

/-- So does granting through a class. -/
theorem ensures_grantThrough {access : BucketAccess} {c : BucketClass} {source : BucketSource}
    (kept : ∀ result, Q result old)
    (written : ∀ result updated, Object.uid? updated = Object.uid? access →
      Q result (some updated)) :
    (grantThrough backends k access c source).Ensures (slot k) old Q := by
  unfold grantThrough
  refine Task.ensures_bind.2 (Task.ensures_ofExcept.2 ?_)
  cases backends.forClass c with
  | error e => exact kept _
  | ok backendType =>
    refine Task.ensures_bind.2 (ensures_resolveBucket fun result => ?_)
    cases result with
    | error e => exact kept _
    | ok bucketId =>
      refine Task.ensures_bind.2 (Task.ensures_ofExcept.2 ?_)
      cases accountName c with
      | error e => exact kept _
      | ok account =>
        refine Task.ensures_bind.2 (Slot.ensures_call fun reply _ => ?_)
        cases reply with
        | error e => exact kept _
        | ok g => exact ensures_recordGrant kept written

/-- The record that granting an access leaves is the one that it found or is of the access. -/
theorem ensures_grant {access : BucketAccess} (kept : ∀ result, Q result old)
    (written : ∀ result updated, Object.uid? updated = Object.uid? access →
      Q result (some updated)) :
    (grant backends k access).Ensures (slot k) old Q := by
  unfold grant
  refine Task.ensures_bind.2 (Task.ensures_ofExcept.2 ?_)
  cases access.spec.check k.text with
  | error e => exact kept _
  | ok refs =>
    refine Task.ensures_bind.2 (Slot.ensures_call fun reply _ => ?_)
    cases reply with
    | error e => exact kept _
    | ok c =>
      show Task.Ensures (slot k) _ old Q
      split
      · exact Slot.ensures_remember (written _ access rfl)
      · exact ensures_grantThrough kept written

/-- The teardown for an access in whose place another one has come is that of a slot. -/
theorem revokeSuperseded_eq (access : BucketAccess) :
    revokeSuperseded backends k access = Slot.attend k access (revoke backends k) := by
  unfold revokeSuperseded Slot.attend
  refine congrArg (Task.recordOf k >>= ·) (funext fun found => ?_)
  cases found <;> rfl

/-- In the end the record of a live access is one of that access, if there is any. -/
theorem ensures_grantLive {access : BucketAccess} (identified : Identified old)
    (live : (Object.uid? access).isSome)
    (h : ∀ result record, Fits (some access) record → Q result record) :
    (grantLive backends k access).Ensures (slot k) old Q := by
  unfold grantLive
  rw [revokeSuperseded_eq]
  refine Task.ensures_bind.2 (Slot.ensures_attend identified (fun _ => ensures_revoke) ?_)
  intro record fits
  have granted : (grant backends k access).Ensures (slot k) record fun _ left =>
      Fits (some access) left :=
    ensures_grant (fun _ => fits) fun _ updated same => fits_some live same
  refine Task.ensures_bind.2 (Task.ensures_attempt.2 (granted.mono ?_))
  intro result left fits
  cases result with
  | ok => exact h _ left fits
  | error e => exact Task.ensures_bind.2 (Slot.ensures_publish (h _ left fits))

end Accesses

/-! ## Both kinds -/

/-- How a program is expected to treat the record of its key: a text that is no key is dropped, and
once a key has been looked up, the record that is left fits what was found. -/
structure Settles (reconcile : String → Program α (Except Failure Unit)) : Prop where
  /-- A text that is no key is dropped. -/
  drops : ∀ text e, ObjectKey.parse text = .error e → ∃ outcome, reconcile text = .done outcome
  /-- A key is looked up once, and then its record is settled. -/
  settles : ∀ text k, ObjectKey.parse text = .ok k →
    ∃ next, reconcile text = .ask (.store (.lookup k)) next ∧
      ∀ found record, Identified found → Identified record →
        (next (.ok found)).Ensures (slot k) record fun _ left => Fits found left

/-- A reconcile of a claim leaves no record that does not fit. -/
theorem claims_settle (backends : Registry) : Settles (Claims.reconcile backends) where
  drops text e read := ⟨.ok (), by simp only [Claims.reconcile, read]⟩
  settles text k read := by
    refine ⟨_, by simp only [Claims.reconcile, read]; rfl, ?_⟩
    intro found record live identified
    cases found with
    | none => exact Claims.ensures_tearDown (fits_none _)
    | some claim =>
      exact Claims.ensures_syncLive identified (live claim rfl) fun _ _ fits => fits

/-- A reconcile of an access leaves no record that does not fit. -/
theorem accesses_settle (backends : Registry) : Settles (Accesses.reconcile backends) where
  drops text e read := ⟨.ok (), by simp only [Accesses.reconcile, read]⟩
  settles text k read := by
    refine ⟨_, by simp only [Accesses.reconcile, read]; rfl, ?_⟩
    intro found record live identified
    cases found with
    | none => exact Accesses.ensures_revoke (fits_none _)
    | some access =>
      exact Accesses.ensures_grantLive identified (live access rfl) fun _ _ fits => fits

/-! ## What the cluster replies -/

section cluster

variable {c : Cluster} {ω : Type} [Object ω]

/-- The stored object that a copy stands for has its key and its version. -/
theorem findStored_eq_ok {store : Store ω} {copy stored : ω} {k : ObjectKey}
    (h : Cluster.findStored store copy = .ok (k, stored)) :
    ObjectKey.ofObject? copy = some k ∧ store.get? k = some stored ∧
      Cluster.current stored copy = true := by
  unfold Cluster.findStored at h
  split at h
  · simp at h
  · rename_i k' is
    split at h
    · simp at h
    · rename_i found there
      by_cases same : Cluster.current found copy = true
      · obtain ⟨rfl, rfl⟩ : k' = k ∧ found = stored := by simpa [same] using h
        exact ⟨is, there, same⟩
      · simp [same] at h

/-- The cluster is faithful to a copy of a claim whose version no other claim of its key has. -/
theorem faithful_writeClaimStatus {claim : BucketClaim} (status : ClaimStatus)
    (versioned : ∀ k stored, ObjectKey.ofObject? claim = some k → c.claims.get? k = some stored →
      Cluster.current stored claim = true → Object.uid? stored = Object.uid? claim) :
    Faithful (.writeClaimStatus claim status) (c.act (.writeClaimStatus claim status)).1 := by
  have reply : (c.act (.writeClaimStatus claim status)).1 =
      (Cluster.findStored c.claims claim).map fun r =>
        ({ r.2 with
            metadata := r.2.metadata.rewritten
            status := some status } : BucketClaim) := by
    simp only [Cluster.act]
    cases Cluster.findStored c.claims claim <;> rfl
  rw [reply]
  cases found : Cluster.findStored c.claims claim with
  | error e => trivial
  | ok r =>
    obtain ⟨is, there, same⟩ := findStored_eq_ok found
    exact versioned r.1 r.2 is there same

/-- The same goes for accesses. -/
theorem faithful_writeAccessStatus {access : BucketAccess} (status : AccessStatus)
    (versioned : ∀ k stored, ObjectKey.ofObject? access = some k →
      c.accesses.get? k = some stored → Cluster.current stored access = true →
      Object.uid? stored = Object.uid? access) :
    Faithful (.writeAccessStatus access status) (c.act (.writeAccessStatus access status)).1 := by
  have reply : (c.act (.writeAccessStatus access status)).1 =
      (Cluster.findStored c.accesses access).map fun r =>
        ({ r.2 with
            metadata := r.2.metadata.rewritten
            status := some status } : BucketAccess) := by
    simp only [Cluster.act]
    cases Cluster.findStored c.accesses access <;> rfl
  rw [reply]
  cases found : Cluster.findStored c.accesses access with
  | error e => trivial
  | ok r =>
    obtain ⟨is, there, same⟩ := findStored_eq_ok found
    exact versioned r.1 r.2 is there same

end cluster
end BucketProvisioning.Reconcile
