import BucketProvisioning.Proofs.Reconcile.Conduct

/-!
# How claims are reconciled

A claim is built by creating its bucket and writing the status that names it, and removed by
deleting the bucket that the status names, unless the status says that it has to be kept.
`claims_conduct` says that the reconciler keeps to what an attempt at a claim may do.
-/

set_option autoImplicit false

namespace BucketProvisioning.Reconcile

open BucketProvisioning BucketProvisioning.Resource BucketProvisioning.Backend

/-- The backend type of a class is served. -/
theorem serves_of_forClass {backends : Registry} {c : BucketClass} {backendType : String}
    (h : backends.forClass c = .ok backendType) : backends.serves backendType = true := by
  unfold Registry.forClass at h
  split at h
  · simp at h
  · rename_i t _
    by_cases served : backends.serves t = true
    · obtain rfl : t = backendType := by simpa [served] using h
      exact served
    · simp [served] at h

namespace Claims

/-- The call that removes the bucket of a claim: none if it was not created, has to be kept, or is
held by a backend that is not served. -/
def removal (backends : Registry) (claim : BucketClaim) : List Call :=
  match claim.status.filter ClaimStatus.provisioned with
  | some status =>
    if status.deletionPolicy.isRetain then []
    else if backends.serves status.backendType then
      [.backend status.backendType (.deleteBucket status.bucketId status.region)]
    else []
  | none => []

/-- The calls that may be made for a live claim: its class is read; if it has no bucket yet, one is
created under the claim's unique identifier, and right after that the status is written, with the
identifier that the backend gave to the bucket. -/
def Tends (backends : Registry) (claim : BucketClaim) (calls : List Called) : Call → Prop
  | .getClass _ => True
  | .backend _ (.createBucket name _) =>
    claim.isProvisioned = false ∧ Object.uid? claim = some name
  | .writeClaimStatus copy status =>
    copy = claim ∧ claim.isProvisioned = false ∧ status.provisioned = true ∧
      backends.serves status.backendType = true ∧
      ∃ name earlier, Object.uid? claim = some name ∧
        calls = ⟨.backend status.backendType (.createBucket name status.region),
          some (.ok status.bucketId)⟩ :: earlier
  | _ => False

/-- The claim and the status that a call writes. -/
def written? : Call → Option (BucketClaim × ClaimStatus)
  | .writeClaimStatus claim status => some (claim, status)
  | _ => none

/-- The claim that a confirmed status write tells of. -/
def confirmed? : (c : Call) → Except Failure c.Result → Option BucketClaim
  | .writeClaimStatus _ _, .ok (updated : BucketClaim) => some updated
  | _, _ => none

/-- What is called to remove what was built for a claim: the deletion of the bucket, if the policy
asks for it and the backend type is served. -/
theorem mem_removal {backends : Registry} {claim : BucketClaim} {c : Call} :
    c ∈ removal backends claim ↔ ∃ status, claim.status = some status ∧
      status.provisioned = true ∧ status.deletionPolicy = .delete ∧
      backends.serves status.backendType = true ∧
      c = .backend status.backendType (.deleteBucket status.bucketId status.region) := by
  unfold removal
  cases is : claim.status with
  | none => simp
  | some status =>
    cases provisioned : status.provisioned <;> cases policy : status.deletionPolicy <;>
      cases served : backends.serves status.backendType <;>
      simp [Option.filter, provisioned, policy, served, DeletionPolicy.isRetain]

end Claims

instance : Managed BucketClaim where
  Status := ClaimStatus
  status? := BucketClaim.status
  built := ClaimStatus.provisioned
  written? := Claims.written?
  confirmed? := Claims.confirmed?
  removal backends _ claim := Claims.removal backends claim
  Tends backends _ claim calls c := Claims.Tends backends claim calls c
  written_of_confirmed := by
    intro c reply obj told
    unfold Claims.confirmed? at told
    split at told
    · rfl
    · simp at told
  written_of_removal := by
    intro backends _ claim c mem
    obtain ⟨status, -, -, -, -, rfl⟩ := Claims.mem_removal.1 mem
    rfl
  written_of_tends := by
    intro backends _ live calls c copy status tends written
    cases c <;> simp only [Claims.written?, Option.some.injEq, Prod.mk.injEq, reduceCtorEq] at written
    obtain ⟨rfl, rfl⟩ := written
    obtain ⟨same, unbuilt, built, -⟩ := tends
    exact ⟨same, unbuilt, built⟩
  tends_of_removal := by
    intro backends _ claim c mem _ live calls
    obtain ⟨status, -, -, -, -, rfl⟩ := Claims.mem_removal.1 mem
    exact id
  removal_congr := by
    intro backends _ obj obj' _ _ same
    replace same : obj.status = obj'.status := same
    simp only [Claims.removal, same]

namespace Claims

variable {backends : Registry} {k : ObjectKey} {Q : Except Failure Unit → Attempt BucketClaim → Prop}

/-- The bucket of a claim that is gone is disposed of: whatever comes of it, the calls that remove
the bucket have been made. -/
theorem conducts_disposeBucket {found : Option BucketClaim} {old : BucketClaim}
    (gone : Gone found old)
    (h : ∀ calls, (∀ called ∈ calls, (called.confirmed? : Option BucketClaim) = none) →
      (∀ c ∈ removal backends old, ∃ reply, ⟨c, some reply⟩ ∈ calls) →
      Q (.ok ()) ⟨found, some old, some old, calls⟩) :
    (disposeBucket backends old).Ensures (conduct backends k) (.opening found (some old)) Q := by
  have nothing : ∀ called ∈ ([] : List Called), (called.confirmed? : Option BucketClaim) = none :=
    fun _ mem => absurd mem List.not_mem_nil
  unfold disposeBucket
  split
  · rename_i unbuilt
    exact h [] nothing (by simp [removal, unbuilt])
  · rename_i status built
    by_cases kept : status.deletionPolicy.isRetain = true
    · rw [if_pos kept]
      exact Conduct.ensures_publish (h [] nothing (by simp [removal, built, kept]))
    · rw [if_neg kept]
      unfold deleteBucket requestDeletion
      refine Task.ensures_bind.2 (Task.ensures_attempt.2 (Task.ensures_ite ?_ ?_))
      · intro served
        -- the only call of a teardown
        have only : removal backends old =
            [.backend status.backendType (.deleteBucket status.bucketId status.region)] := by
          simp [removal, built, kept, served]
        have may : (Attempt.opening found (some old)).Removes backends k
            (.backend status.backendType (.deleteBucket status.bucketId status.region)) := by
          refine ⟨old, rfl, gone, ?_, ?_⟩
          · show _ ∈ removal backends old
            simp [only]
          · rintro ⟨_, mem, -⟩
            exact absurd mem List.not_mem_nil
        refine Conduct.ensures_call (Attempt.kept_of_unwritten nothing) (Or.inl may) fun reply _ => ?_
        have done := h [⟨_, some reply⟩] (by simp [Called.confirmed?, Managed.confirmed?, confirmed?])
          (by
            intro c mem
            rw [only, List.mem_singleton] at mem
            subst mem
            exact ⟨reply, List.mem_cons_self⟩)
        cases reply with
        | ok => exact Conduct.ensures_publish done
        | error e => exact Task.ensures_ite (fun _ => done) fun _ => Conduct.ensures_publish done
      · intro unserved
        have done := h [] nothing (by simp [removal, built, kept, unserved])
        exact Task.ensures_ite (fun _ => done) fun _ => Conduct.ensures_publish done

/-- A teardown clears the way. -/
theorem conducts_tearDown {found record : Option BucketClaim}
    (gone : ∀ old, record = some old → Gone found old)
    (h : ∀ a : Attempt BucketClaim, a.found = found → a.Cleared backends k → Q (.ok ()) a) :
    (tearDown backends k).Ensures (conduct backends k) (.opening found record) Q := by
  unfold tearDown
  refine Task.ensures_bind.2 (Conduct.ensures_recordOf ?_)
  cases record with
  | none => exact h _ rfl (Attempt.cleared_opening (fits_none _))
  | some old =>
    have lost := gone old rfl
    refine Task.ensures_bind.2 (conducts_disposeBucket lost fun calls unwritten made => ?_)
    refine Conduct.ensures_forget ⟨old, rfl, lost, made⟩ (h _ rfl ⟨fits_none _, unwritten, ?_⟩)
    rintro _ ⟨⟩ _
    exact made

/-- A bucket is created and the status that names it is written. -/
theorem conducts_provision {a : Attempt BucketClaim} {claim : BucketClaim} {c : BucketClass}
    (cleared : a.Cleared backends k) (there : a.found = some claim)
    (unbuilt : claim.isProvisioned = false)
    (h : ∀ outcome a', Ends backends k outcome a' → Q outcome a') :
    (provision backends k claim c).Ensures (conduct backends k) a Q := by
  unfold provision
  refine Task.ensures_bind.2 (Task.ensures_ofExcept.2 ?_)
  cases which : backends.forClass c with
  | error e => exact h _ _ cleared.fails
  | ok backendType =>
    cases identified : claim.metadata.uid with
    | none => exact h _ _ cleared.fails
    | some uid =>
      have named : Object.uid? claim = some uid := identified
      have mayCreate : a.Attends backends k
          (.backend backendType (.createBucket uid c.spec.region)) :=
        ⟨claim, there, cleared.fits, unbuilt, named⟩
      refine Task.ensures_bind.2 (Conduct.ensures_call
        (Attempt.kept_of_unwritten cleared.unwritten) (Or.inr mayCreate) fun reply _ => ?_)
      have created := cleared.calling (.backend _ (.createBucket _ _)) reply rfl
      cases reply with
      | error e => exact h _ _ created.fails
      | ok bucketId =>
        let status := ClaimStatus.ofProvisioned c bucketId backendType
        have mayWrite : (a.calling (.backend backendType (.createBucket uid c.spec.region))
            (.ok bucketId)).Attends backends k (.writeClaimStatus claim status) :=
          ⟨claim, there, created.fits, rfl, unbuilt, rfl, serves_of_forClass which, uid, a.calls,
            named, rfl⟩
        refine Task.ensures_bind.2 (Conduct.ensures_call
          (Attempt.kept_of_unwritten created.unwritten) (Or.inr mayWrite) fun reply lawful => ?_)
        cases reply with
        | error e =>
          exact h _ _ (created.calling (.writeClaimStatus _ _) (.error e) rfl).fails
        | ok updated =>
          obtain ⟨sameUid, sameKey, written⟩ := lawful updated claim status rfl rfl
          have may : ((a.calling (.backend backendType (.createBucket uid c.spec.region))
              (.ok bucketId)).calling (.writeClaimStatus claim status) (.ok updated)).Remembers
              (updated : BucketClaim) :=
            ⟨isBuilt_of_status written rfl, created.fits, claim, there, sameUid, sameKey,
              Or.inr ⟨_, List.mem_cons_self, rfl⟩⟩
          refine Task.ensures_bind.2 (Conduct.ensures_remember may ?_)
          exact Conduct.ensures_publish
            (h _ _ (created.ends_written there (by rw [named]; rfl) sameUid rfl))

/-- A live claim is conducted properly to its desired state, once the way is clear. -/
theorem conducts_sync {a : Attempt BucketClaim} {claim : BucketClaim}
    (cleared : a.Cleared backends k) (there : a.found = some claim)
    (identified : (Object.uid? claim).isSome)
    (h : ∀ outcome a', Ends backends k outcome a' → Q outcome a') :
    (sync backends k claim).Ensures (conduct backends k) a Q := by
  unfold sync
  refine Task.ensures_bind.2 (Task.ensures_ofExcept.2 ?_)
  cases claim.spec.check k.text with
  | error e => exact h _ _ cleared.fails
  | ok className =>
    have mayRead : a.Attends backends k (.getClass className) := ⟨claim, there, cleared.fits, trivial⟩
    refine Task.ensures_bind.2 (Conduct.ensures_call
      (Attempt.kept_of_unwritten cleared.unwritten) (Or.inr mayRead) fun reply _ => ?_)
    have read := cleared.calling (.getClass className) reply rfl
    cases reply with
    | error e => exact h _ _ read.fails
    | ok c =>
      refine Task.ensures_ite (fun built => ?_) fun unbuilt => ?_
      · refine Conduct.ensures_remember ⟨built, read.fits, claim, there, rfl, rfl, Or.inl rfl⟩ ?_
        exact h _ _ (read.ends there identified)
      · exact conducts_provision read there (Bool.not_eq_true _ ▸ unbuilt) h

/-- A live claim is attended to. -/
theorem conducts_syncLive {claim : BucketClaim} {record : Option BucketClaim}
    (identified : Identified record) (live : (Object.uid? claim).isSome)
    (h : ∀ outcome a, Ends backends k outcome a → Q outcome a) :
    (syncLive backends k claim).Ensures (conduct backends k) (.opening (some claim) record) Q := by
  unfold syncLive
  rw [tearDownSuperseded_eq]
  refine Task.ensures_bind.2 (Conduct.ensures_attend identified ?_ fun a there cleared => ?_)
  · intro old is gone Q clears
    refine conducts_tearDown ?_ clears
    rintro _ is'
    obtain rfl := Option.some.inj (is.symm.trans is')
    exact gone
  · have synced := conducts_sync (Q := Ends backends k) cleared there live fun _ _ ends => ends
    refine Task.ensures_bind.2 (Task.ensures_attempt.2 (synced.mono ?_))
    intro outcome a' ends
    cases outcome with
    | ok => exact h _ _ ends
    | error e => exact Task.ensures_bind.2 (Conduct.ensures_publish (h _ _ ends))

end Claims

/-- **A reconcile of a claim keeps to what it may do.** -/
theorem claims_conduct (backends : Registry) : Conducts backends (Claims.reconcile backends) where
  drops text e read := ⟨.ok (), by simp only [Claims.reconcile, read]⟩
  conducts text k read := by
    refine ⟨_, by simp only [Claims.reconcile, read]; rfl, ?_⟩
    intro found record live identified
    cases found with
    | none =>
      refine Claims.conducts_tearDown (fun old is => gone_none (identified old is)) ?_
      intro a there cleared
      refine ⟨cleared.fits, Attempt.kept_of_unwritten cleared.unwritten, cleared.removed, ?_⟩
      intro _ found
      simp [there] at found
    | some claim =>
      exact Claims.conducts_syncLive identified (live claim rfl) fun _ _ ends => ends

end BucketProvisioning.Reconcile
