import BucketProvisioning.Proofs.Cluster.Retrying

/-!
# Retries of a claim

An attempt at a claim may stop before its bucket has been created, between that and the status
write, or after it.  `ClaimStage` lists what is held then, and `claims_converging` says that attempts
lead from stage to stage.
-/

set_option autoImplicit false

namespace BucketProvisioning.Cluster

open BucketProvisioning BucketProvisioning.Reconcile BucketProvisioning.Resource
open BucketProvisioning.Backend

/-! ## What a claim asks for -/

/-- A bucket of a class. -/
structure ClaimOrder where
  /-- The class. -/
  bucketClass : BucketClass
  /-- The backend type of the class. -/
  backendType : String
  /-- What the bucket is created for. -/
  uid : String

namespace ClaimOrder

/-- The call that creates the bucket. -/
def creation (o : ClaimOrder) : Call :=
  .backend o.backendType (.createBucket o.uid o.bucketClass.spec.region)

/-- The status that names the bucket. -/
def status (o : ClaimOrder) : ClaimStatus :=
  .ofProvisioned o.bucketClass (InMemory.bucketIdOf o.uid) o.backendType

/-- A claim as it is stored with that status. -/
def claim (o : ClaimOrder) (claim : BucketClaim) : BucketClaim :=
  { claim with metadata := claim.metadata.rewritten, status := some o.status }

/-- What is held once the bucket has been created. -/
def created (o : ClaimOrder) (h : Holdings BucketClaim) : Holdings BucketClaim :=
  { h with cluster := (h.cluster.act o.creation).2 }

/-- What is held once the status has been written. -/
def done (o : ClaimOrder) (h : Holdings BucketClaim) (k : ObjectKey) (claim : BucketClaim) :
    Holdings BucketClaim where
  cluster := { (h.cluster.act o.creation).2 with
    claims := h.cluster.claims.insert k (o.claim claim) }
  records := h.records.insert k (o.claim claim)

end ClaimOrder

/-- What a claim asks for, if its specification is valid and its class is there. -/
def claimOrder (backends : Registry) (cluster : Cluster) (k : ObjectKey) (claim : BucketClaim) :
    Except Failure ClaimOrder :=
  match claim.spec.check k.text with
  | .error e => .error e
  | .ok className =>
    match (cluster.act (.getClass className)).1 with
    | .error e => .error e
    | .ok (c : BucketClass) =>
      match backends.forClass c, claim.metadata.uid with
      | .error e, _ => .error e
      | .ok _, none => .error (.internal "claim" (k.text ++ " has no uid"))
      | .ok backendType, some uid => .ok ⟨c, backendType, uid⟩

/-- A claim for which nothing has been done yet. -/
structure ClaimUntouched (backends : Registry) (k : ObjectKey) (claim : BucketClaim)
    (first : Holdings BucketClaim) : Prop where
  /-- It has its key. -/
  named : ObjectKey.ofObject? claim = some k
  /-- The API server has it. -/
  stored : first.cluster.claims.get? k = some claim
  /-- It has no status. -/
  unbuilt : claim.status = none
  /-- It is not on record. -/
  unrecorded : first.records.get? k = none
  /-- Its unique identifier is no empty text. -/
  identified : claim.metadata.uid ≠ some ""
  /-- The backend of its class is kept in memory. -/
  kept : ∀ o, claimOrder backends first.cluster k claim = .ok o →
    first.cluster.backends.contains o.backendType = true

/-- What attempts at a claim may leave behind, and the claim that is live then. -/
inductive ClaimStage (backends : Registry) (k : ObjectKey) (claim : BucketClaim)
    (first : Holdings BucketClaim) : Holdings BucketClaim → BucketClaim → Prop
  /-- Nothing has been done. -/
  | untouched : ClaimStage backends k claim first first claim
  /-- The bucket has been created. -/
  | created {o : ClaimOrder} (asked : claimOrder backends first.cluster k claim = .ok o) :
    ClaimStage backends k claim first (o.created first) claim
  /-- The status has been written. -/
  | done {o : ClaimOrder} (asked : claimOrder backends first.cluster k claim = .ok o) :
    ClaimStage backends k claim first (o.done first k claim) (o.claim claim)

/-- What is held in the end. -/
def claimLast (backends : Registry) (k : ObjectKey) (claim : BucketClaim)
    (first : Holdings BucketClaim) : Holdings BucketClaim :=
  match claimOrder backends first.cluster k claim with
  | .ok o => o.done first k claim
  | .error _ => first

section

variable {backends : Registry} {k : ObjectKey} {claim live : BucketClaim}
  {first h : Holdings BucketClaim} {o : ClaimOrder} {failing : Prop} {may : Call → Bool}
  {Q : Except Failure Unit → Holdings BucketClaim → Prop} {text : String} {e : Failure}

/-- Nothing else is asked for. -/
theorem claimOrder_ok {cluster : Cluster} (asked : claimOrder backends cluster k claim = .ok o) :
    ∃ className, claim.spec.check k.text = .ok className ∧
      (cluster.act (.getClass className)).1 = .ok o.bucketClass ∧
      backends.forClass o.bucketClass = .ok o.backendType ∧ claim.metadata.uid = some o.uid := by
  unfold claimOrder at asked
  cases checked : claim.spec.check k.text with
  | error e => simp [checked] at asked
  | ok className =>
    cases found : (cluster.act (.getClass className)).1 with
    | error e => simp [checked, found] at asked
    | ok c =>
      cases which : backends.forClass c with
      | error e => simp [checked, found, which] at asked
      | ok backendType =>
        cases named : claim.metadata.uid with
        | none => simp [checked, found, which, named] at asked
        | some uid =>
          obtain rfl : (⟨c, backendType, uid⟩ : ClaimOrder) = o := by
            simpa [checked, found, which, named] using asked
          exact ⟨className, rfl, found, which, rfl⟩

/-- A live claim is synced after it has taken no other's place. -/
theorem ensures_reconcileClaim (read : ObjectKey.parse text = .ok k)
    (fits : ∀ old, h.records.get? k = some old → Object.uid? old = Object.uid? live)
    (synced : (Claims.sync backends k live).Ensures (trying k live failing may) h Q) :
    (Claims.reconcile backends text).Ensures (trying k live failing may) h Q := by
  have is : Claims.reconcile backends text = (Claims.reconcileKey backends k).run := by
    simp only [Claims.reconcile, read]
  rw [is]
  refine Task.ensures_bind.2 (Trying.ensures_lookup ?_)
  show (Claims.syncLive backends k live).Ensures _ h Q
  unfold Claims.syncLive
  rw [Claims.tearDownSuperseded_eq]
  exact Task.ensures_bind.2 (Trying.ensures_attend fits (Trying.ensures_told synced))

/-! ## From stage to stage -/

/-- A claim that asks for nothing that there is gets nothing. -/
theorem sync_refused (refused : claimOrder backends first.cluster k claim = .error e)
    (unbuilt : claim.status = none) (readable : ∀ c, reads c = true → may c = true) :
    (Claims.sync backends k claim).Ensures (trying k live failing may) first fun x h' =>
      h' = first ∧ (¬ failing → x = .error e) := by
  unfold claimOrder at refused
  unfold Claims.sync
  refine Task.ensures_bind.2 (Task.ensures_ofExcept.2 ?_)
  cases checked : claim.spec.check k.text with
  | error e' =>
    obtain rfl : e' = e := by simpa [checked] using refused
    exact ⟨rfl, fun _ => rfl⟩
  | ok className =>
    refine Task.ensures_bind.2 (Trying.ensures_call (readable _ rfl)
      (fun fails _ => ⟨rfl, fun sure => absurd fails sure⟩) ?_)
    cases found : (first.cluster.act (.getClass className)).1 with
    | error e' =>
      obtain rfl : e' = e := by simpa [checked, found] using refused
      exact ⟨rfl, fun _ => rfl⟩
    | ok c =>
      have fresh : claim.isProvisioned = false := by
        unfold BucketClaim.isProvisioned
        rw [unbuilt]
        rfl
      refine Task.ensures_ite (fun built => absurd built (fresh ▸ Bool.false_ne_true)) fun _ => ?_
      unfold Claims.provision
      refine Task.ensures_bind.2 (Task.ensures_ofExcept.2 ?_)
      cases which : backends.forClass c with
      | error e' =>
        obtain rfl : e' = e := by simpa [checked, found, which] using refused
        exact ⟨rfl, fun _ => rfl⟩
      | ok backendType =>
        cases named : claim.metadata.uid with
        | none =>
          obtain rfl : .internal "claim" (k.text ++ " has no uid") = e := by
            simpa [checked, found, which, named] using refused
          exact ⟨rfl, fun _ => rfl⟩
        | some uid => simp [checked, found, which, named] at refused

/-- The creation of a bucket does not concern the API server. -/
theorem created_frame :
    (o.created first).cluster.classes = first.cluster.classes ∧
      (o.created first).cluster.claims = first.cluster.claims := by
  obtain ⟨backends, issued, is⟩ := runBackend_eq first.cluster o.backendType
    (.createBucket o.uid o.bucketClass.spec.region)
  show (first.cluster.runBackend _ _).2.classes = _ ∧ (first.cluster.runBackend _ _).2.claims = _
  rw [is]
  exact ⟨rfl, rfl⟩

/-- The bucket is created. -/
theorem act_creation (start : ClaimUntouched backends k claim first)
    (asked : claimOrder backends first.cluster k claim = .ok o) :
    (first.cluster.act o.creation).1 = .ok (InMemory.bucketIdOf o.uid) ∧
      ∃ b, (o.created first).cluster.backends.get? o.backendType = some b ∧
        b.hasBucket (InMemory.bucketIdOf o.uid) = true := by
  obtain ⟨_, -, -, -, named⟩ := claimOrder_ok asked
  have filled : o.uid.isEmpty = false := by
    rw [String.isEmpty_eq_false_iff]
    rintro empty
    exact start.identified (named.trans (congrArg some empty))
  obtain ⟨b, is⟩ := Option.isSome_iff_exists.1 (start.kept o asked)
  obtain ⟨replied, left⟩ := runBackend_of_get is (.createBucket o.uid o.bucketClass.spec.region)
  have made : (b.createBucket o.uid o.bucketClass.spec.region).1 =
      .ok (InMemory.bucketIdOf o.uid) := by
    simp [InMemory.createBucket, filled]
  refine ⟨replied.trans made, _, left, ?_⟩
  show (b.createBucket o.uid o.bucketClass.spec.region).2.hasBucket _ = true
  rw [InMemory.hasBucket_createBucket]
  simp [filled]

/-- The status is written to the claim that is stored. -/
theorem act_writeStatus (start : ClaimUntouched backends k claim first) :
    (o.created first).cluster.act (.writeClaimStatus claim o.status) =
      (.ok (o.claim claim), (o.done first k claim).cluster) := by
  have same : (o.created first).cluster.claims = first.cluster.claims := created_frame.2
  have found : findStored first.cluster.claims claim = .ok (k, claim) := by
    simp [findStored, start.named, start.stored, current]
  simp only [act, same, found]
  rfl

/-- As long as its status has not been written, a claim gets what it asks for. -/
theorem sync_ordered (start : ClaimUntouched backends k claim first)
    (asked : claimOrder backends first.cluster k claim = .ok o)
    (begun : h = first ∨ h = o.created first) :
    (Claims.sync backends k claim).Ensures (trying k live failing fun _ => true) h fun x h' =>
      (∃ live', ClaimStage backends k claim first h' live') ∧
        (¬ failing → x = .ok () ∧ h' = o.done first k claim) := by
  obtain ⟨className, checked, found, which, named⟩ := claimOrder_ok asked
  have stage : ClaimStage backends k claim first h claim := by
    rcases begun with rfl | rfl
    · exact .untouched
    · exact .created asked
  have reading : h.cluster.act (.getClass className) = (.ok o.bucketClass, h.cluster) := by
    have same : h.cluster.classes = first.cluster.classes := by
      rcases begun with rfl | rfl
      · rfl
      · exact created_frame.1
    rw [act_getClass same, found]
  have creating : h.cluster.act o.creation =
      (.ok (InMemory.bucketIdOf o.uid), (o.created first).cluster) := by
    have once : first.cluster.act o.creation =
        (.ok (InMemory.bucketIdOf o.uid), (o.created first).cluster) :=
      Prod.ext (act_creation start asked).1 rfl
    have builds : Builds (.createBucket o.uid o.bucketClass.spec.region) := trivial
    rcases begun with rfl | rfl
    · exact once
    · exact (runBackend_again first.cluster o.backendType builds).trans once
  have records : h.records = first.records := by
    rcases begun with rfl | rfl <;> rfl
  -- wherever the attempt fails, it has reached a stage
  have stops : ∀ {h' live' e}, ClaimStage backends k claim first h' live' → failing →
      (∃ live', ClaimStage backends k claim first h' live') ∧
        (¬ failing → (Except.error e : Except Failure Unit) = .ok () ∧ h' = o.done first k claim) :=
    fun stage fails => ⟨⟨_, stage⟩, fun sure => absurd fails sure⟩
  have fresh : claim.isProvisioned = false := by
    unfold BucketClaim.isProvisioned
    rw [start.unbuilt]
    rfl
  unfold Claims.sync
  refine Task.ensures_bind.2 (Task.ensures_ofExcept.2 ?_)
  rw [checked]
  refine Task.ensures_bind.2 (Trying.ensures_acting rfl reading rfl
    (fun fails e => stops stage fails) ?_)
  refine Task.ensures_ite (fun built => absurd built (fresh ▸ Bool.false_ne_true)) fun _ => ?_
  unfold Claims.provision
  refine Task.ensures_bind.2 (Task.ensures_ofExcept.2 ?_)
  simp only [which, named]
  refine Task.ensures_bind.2 (Trying.ensures_acting rfl creating records.symm
    (fun fails e => stops stage fails) ?_)
  -- the status is written to what is stored, and what the write tells of is put on record
  let written : Holdings BucketClaim := ⟨(o.done first k claim).cluster, first.records⟩
  have writing : (o.created first).cluster.act (.writeClaimStatus claim o.status) =
      (.ok (o.claim claim), written.cluster) := act_writeStatus start
  refine Task.ensures_bind.2 (Trying.ensures_acting rfl writing rfl
    (fun fails e => stops (.created asked) fails) ?_)
  refine Task.ensures_bind.2 (Trying.ensures_remember (Trying.ensures_publish ?_))
  exact ⟨⟨_, .done asked⟩, fun _ => ⟨rfl, rfl⟩⟩

/-- Once its status has been written, a claim is only put on record again. -/
theorem sync_done (asked : claimOrder backends first.cluster k claim = .ok o)
    (readable : ∀ c, reads c = true → may c = true) :
    (Claims.sync backends k (o.claim claim)).Ensures (trying k live failing may)
      (o.done first k claim) fun x h' =>
        h' = o.done first k claim ∧ (¬ failing → x = .ok ()) := by
  obtain ⟨className, checked, found, -⟩ := claimOrder_ok asked
  have reading : (o.done first k claim).cluster.act (.getClass className) =
      (.ok o.bucketClass, (o.done first k claim).cluster) := by
    have same : (o.done first k claim).cluster.classes = first.cluster.classes := created_frame.1
    rw [act_getClass same, found]
  unfold Claims.sync
  refine Task.ensures_bind.2 (Task.ensures_ofExcept.2 ?_)
  rw [show (o.claim claim).spec.check k.text = .ok className from checked]
  refine Task.ensures_bind.2 (Trying.ensures_acting (readable _ rfl) reading rfl
    (fun fails _ => ⟨rfl, fun sure => absurd fails sure⟩) ?_)
  refine Task.ensures_ite (fun _ => ?_) fun unbuilt => absurd rfl unbuilt
  refine Trying.ensures_remember ⟨?_, fun _ => rfl⟩
  unfold ClaimOrder.done
  simp

/-! ## Convergence -/

/-- The live claim is the one that the API server has. -/
theorem stored_of_claimStage (start : ClaimUntouched backends k claim first)
    (stage : ClaimStage backends k claim first h live) : h.cluster.claims.get? k = some live := by
  cases stage with
  | untouched => exact start.stored
  | created asked =>
    rw [created_frame.2]
    exact start.stored
  | done asked => exact Table.get?_insert_self _ _ _

/-- What is on record is the live claim. -/
theorem fits_of_claimStage (start : ClaimUntouched backends k claim first)
    (stage : ClaimStage backends k claim first h live) {old : BucketClaim}
    (recorded : h.records.get? k = some old) : Object.uid? old = Object.uid? live := by
  cases stage with
  | untouched => simp [start.unrecorded] at recorded
  | created asked => simp [ClaimOrder.created, start.unrecorded] at recorded
  | done asked =>
    obtain rfl := Option.some.inj ((Table.get?_insert_self _ _ _).symm.trans recorded)
    rfl

/-- **Attempts at a claim lead from stage to stage.** -/
theorem claims_converging (read : ObjectKey.parse text = .ok k)
    (start : ClaimUntouched backends k claim first) :
    Converging (fun backends => Claims.reconcile backends text) backends k
      (ClaimStage backends k claim first)
      ((claimOrder backends first.cluster k claim).map fun _ => ())
      (claimLast backends k claim first) where
  stored _ _ stage := stored_of_claimStage start stage
  attempts h live failing stage := by
    refine ensures_reconcileClaim read (fun _ => fits_of_claimStage start stage) ?_
    unfold claimLast
    cases asked : claimOrder backends first.cluster k claim with
    | error e =>
      cases stage with
      | untouched =>
        refine (sync_refused asked start.unbuilt fun _ _ => rfl).mono ?_
        rintro x _ ⟨rfl, sure⟩
        exact ⟨⟨_, .untouched⟩, fun surely => ⟨sure surely, rfl⟩⟩
      | created asked' => simp [asked] at asked'
      | done asked' => simp [asked] at asked'
    | ok o =>
      cases stage with
      | untouched => exact sync_ordered start asked (Or.inl rfl)
      | created asked' =>
        obtain rfl := Except.ok.inj (asked.symm.trans asked')
        exact sync_ordered start asked (Or.inr rfl)
      | done asked' =>
        obtain rfl := Except.ok.inj (asked.symm.trans asked')
        refine (sync_done asked fun _ _ => rfl).mono ?_
        rintro x _ ⟨rfl, sure⟩
        exact ⟨⟨_, .done asked⟩, fun surely => ⟨sure surely, rfl⟩⟩
  rests live failing stage := by
    refine ensures_reconcileClaim read (fun _ => fits_of_claimStage start stage) ?_
    have stored := stored_of_claimStage start stage
    unfold claimLast at stored ⊢
    cases asked : claimOrder backends first.cluster k claim with
    | error e =>
      rw [asked] at stored
      obtain rfl := Option.some.inj (start.stored.symm.trans stored)
      exact (sync_refused asked start.unbuilt fun _ => id).mono fun _ _ same => same.1
    | ok o =>
      rw [asked] at stored
      obtain rfl := Option.some.inj ((Table.get?_insert_self _ _ _).symm.trans stored)
      exact (sync_done asked fun _ => id).mono fun _ _ same => same.1

end

end BucketProvisioning.Cluster
