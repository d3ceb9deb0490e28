import BucketProvisioning.Proofs.Cluster.Retrying

/-!
# Retries of an access

An attempt at an access may stop before access has been granted, before the credentials have been
stored, before the status write, or after it.  `AccessStage` lists what is held then, and
`accesses_converging` says that attempts lead from stage to stage.  Since an access that is granted
again is given the key pair that it was given before, the secret and the backend have the same one
from the moment at which the secret is created.
-/

set_option autoImplicit false

namespace BucketProvisioning.Cluster

open BucketProvisioning BucketProvisioning.Reconcile BucketProvisioning.Resource
open BucketProvisioning.Backend

/-! ## What an access asks for -/

/-- Access of an account to a bucket. -/
structure AccessOrder where
  /-- The class. -/
  bucketClass : BucketClass
  /-- The backend type of the class. -/
  backendType : String
  /-- The bucket. -/
  bucketId : String
  /-- The account of the class. -/
  account : String

namespace AccessOrder

/-- The call that grants the access. -/
def granting (o : AccessOrder) : Call := .backend o.backendType (.grantAccess o.bucketId o.account)

/-- What the backend issues. -/
def grant (o : AccessOrder) (h : Holdings BucketAccess) : Grant :=
  match (h.cluster.act o.granting).1 with
  | .ok (g : Grant) => g
  | .error _ => default

/-- The secret with what the backend issues. -/
def secret (o : AccessOrder) (h : Holdings BucketAccess) (access : BucketAccess) : Secret :=
  credentialsSecret access access.secretName o.bucketId o.bucketClass.spec.endpoint?
    (o.grant h).credentials

/-- The status that names the grant and the secret. -/
def status (o : AccessOrder) (h : Holdings BucketAccess) (access : BucketAccess) : AccessStatus :=
  Accesses.grantedStatus (o.grant h) o.bucketId o.backendType access.secretName

/-- An access as it is stored with that status. -/
def access (o : AccessOrder) (h : Holdings BucketAccess) (access : BucketAccess) : BucketAccess :=
  { access with metadata := access.metadata.rewritten, status := some (o.status h access) }

/-- What is held once the access has been granted. -/
def granted (o : AccessOrder) (h : Holdings BucketAccess) : Holdings BucketAccess :=
  { h with cluster := (h.cluster.act o.granting).2 }

/-- What is held once the secret has been created. -/
def stored (o : AccessOrder) (h : Holdings BucketAccess) (k : ObjectKey) (access : BucketAccess) :
    Holdings BucketAccess :=
  { h with cluster :=
      { (h.cluster.act o.granting).2 with
        secrets := h.cluster.secrets.insert (.namespaced k.nsOrEmpty access.secretName)
          (o.secret h access) } }

/-- What is held once the status has been written. -/
def done (o : AccessOrder) (h : Holdings BucketAccess) (k : ObjectKey) (access : BucketAccess) :
    Holdings BucketAccess where
  cluster := { (o.stored h k access).cluster with
    accesses := h.cluster.accesses.insert k (o.access h access) }
  records := h.records.insert k (o.access h access)

end AccessOrder

/-- The bucket that an access is for. -/
def sourceBucket (cluster : Cluster) (k : ObjectKey) : BucketSource → Except Failure String
  | .existing bucketId => .ok bucketId
  | .claim name =>
    match (cluster.act (.getClaim k.nsOrEmpty name)).1 with
    | .error e => .error e
    | .ok (claim : BucketClaim) =>
      match Accesses.provisionedBucket? claim with
      | some bucketId => .ok bucketId
      | none => .error (.internal "access" ("BucketClaim " ++ name ++ " is not provisioned yet"))

/-- What an access asks for, if its specification is valid and its class and its bucket are
there. -/
def accessOrder (backends : Registry) (cluster : Cluster) (k : ObjectKey) (access : BucketAccess) :
    Except Failure AccessOrder :=
  match access.spec.check k.text with
  | .error e => .error e
  | .ok refs =>
    match (cluster.act (.getClass refs.className)).1 with
    | .error e => .error e
    | .ok (c : BucketClass) =>
      match backends.forClass c, sourceBucket cluster k refs.source, Accesses.accountName c with
      | .error e, _, _ => .error e
      | .ok _, .error e, _ => .error e
      | .ok _, .ok _, .error e => .error e
      | .ok backendType, .ok bucketId, .ok account => .ok ⟨c, backendType, bucketId, account⟩

/-- An access for which nothing has been done yet. -/
structure AccessUntouched (backends : Registry) (k : ObjectKey) (access : BucketAccess)
    (first : Holdings BucketAccess) : Prop where
  /-- It has its key. -/
  named : ObjectKey.ofObject? access = some k
  /-- The API server has it. -/
  stored : first.cluster.accesses.get? k = some access
  /-- It has no status. -/
  unbuilt : access.status = none
  /-- It is not on record. -/
  unrecorded : first.records.get? k = none
  /-- It has no secret. -/
  unkept : first.cluster.secrets.get? (.namespaced k.nsOrEmpty access.secretName) = none
  /-- Its bucket is kept in memory. -/
  kept : ∀ o, accessOrder backends first.cluster k access = .ok o →
    ∃ b, first.cluster.backends.get? o.backendType = some b ∧ b.hasBucket o.bucketId = true

/-- What attempts at an access may leave behind, and the access that is live then. -/
inductive AccessStage (backends : Registry) (k : ObjectKey) (access : BucketAccess)
    (first : Holdings BucketAccess) : Holdings BucketAccess → BucketAccess → Prop
  /-- Nothing has been done. -/
  | untouched : AccessStage backends k access first first access
  /-- The access has been granted. -/
  | granted {o : AccessOrder} (asked : accessOrder backends first.cluster k access = .ok o) :
    AccessStage backends k access first (o.granted first) access
  /-- The secret has been created. -/
  | stored {o : AccessOrder} (asked : accessOrder backends first.cluster k access = .ok o) :
    AccessStage backends k access first (o.stored first k access) access
  /-- The status has been written. -/
  | done {o : AccessOrder} (asked : accessOrder backends first.cluster k access = .ok o) :
    AccessStage backends k access first (o.done first k access) (o.access first access)

/-- What is held in the end. -/
def accessLast (backends : Registry) (k : ObjectKey) (access : BucketAccess)
    (first : Holdings BucketAccess) : Holdings BucketAccess :=
  match accessOrder backends first.cluster k access with
  | .ok o => o.done first k access
  | .error _ => first

section

variable {backends : Registry} {k : ObjectKey} {access live : BucketAccess}
  {first h : Holdings BucketAccess} {o : AccessOrder} {failing : Prop} {may : Call → Bool}
  {Q : Except Failure Unit → Holdings BucketAccess → Prop} {text : String} {e : Failure}

/-- Nothing else is asked for. -/
theorem accessOrder_ok {cluster : Cluster} (asked : accessOrder backends cluster k access = .ok o) :
    ∃ refs, access.spec.check k.text = .ok refs ∧
      (cluster.act (.getClass refs.className)).1 = .ok o.bucketClass ∧
      backends.forClass o.bucketClass = .ok o.backendType ∧
      sourceBucket cluster k refs.source = .ok o.bucketId ∧
      Accesses.accountName o.bucketClass = .ok o.account := by
  unfold accessOrder at asked
  cases checked : access.spec.check k.text with
  | error e => simp [checked] at asked
  | ok refs =>
    cases found : (cluster.act (.getClass refs.className)).1 with
    | error e => simp [checked, found] at asked
    | ok c =>
      cases which : backends.forClass c with
      | error e => simp [checked, found, which] at asked
      | ok backendType =>
        cases source : sourceBucket cluster k refs.source with
        | error e => simp [checked, found, which, source] at asked
        | ok bucketId =>
          cases billed : Accesses.accountName c with
          | error e => simp [checked, found, which, source, billed] at asked
          | ok account =>
            obtain rfl : (⟨c, backendType, bucketId, account⟩ : AccessOrder) = o := by
              simpa [checked, found, which, source, billed] using asked
            exact ⟨refs, rfl, found, which, source, billed⟩

/-- A live access is attended to after it has taken no other's place. -/
theorem ensures_reconcileAccess (read : ObjectKey.parse text = .ok k)
    (fits : ∀ old, h.records.get? k = some old → Object.uid? old = Object.uid? live)
    (granted : (Accesses.grant backends k live).Ensures (trying k live failing may) h Q) :
    (Accesses.reconcile backends text).Ensures (trying k live failing may) h Q := by
  have is : Accesses.reconcile backends text = (Accesses.reconcileKey backends k).run := by
    simp only [Accesses.reconcile, read]
  rw [is]
  refine Task.ensures_bind.2 (Trying.ensures_lookup ?_)
  show (Accesses.grantLive backends k live).Ensures _ h Q
  unfold Accesses.grantLive
  rw [Accesses.revokeSuperseded_eq]
  exact Task.ensures_bind.2 (Trying.ensures_attend fits (Trying.ensures_told granted))

/-- The bucket of an access is resolved as the claims say. -/
theorem ensures_resolveBucket {source : BucketSource} (cluster : Cluster)
    {Q : Except Failure String → Holdings BucketAccess → Prop}
    (readable : ∀ c, reads c = true → may c = true) (same : h.cluster.claims = cluster.claims)
    (failed : failing → ∀ e, Q (.error e) h) (next : Q (sourceBucket cluster k source) h) :
    (Accesses.resolveBucket k source).Ensures (trying k live failing may) h Q := by
  unfold Accesses.resolveBucket
  cases source with
  | existing bucketId => exact next
  | claim name =>
    refine Task.ensures_bind.2 (Trying.ensures_acting (readable _ rfl) (act_getClaim same _ _) rfl
      failed ?_)
    cases found : (cluster.act (.getClaim k.nsOrEmpty name)).1 with
    | error e =>
      simp only [sourceBucket, found] at next
      exact next
    | ok claim =>
      cases built : Accesses.provisionedBucket? claim with
      | none =>
        simp only [sourceBucket, found, built] at next ⊢
        exact next
      | some bucketId =>
        simp only [sourceBucket, found, built] at next ⊢
        exact next

/-! ## From stage to stage -/

/-- An access that asks for nothing that there is gets nothing. -/
theorem grant_refused (refused : accessOrder backends first.cluster k access = .error e)
    (unbuilt : access.status = none) (readable : ∀ c, reads c = true → may c = true) :
    (Accesses.grant backends k access).Ensures (trying k live failing may) first fun x h' =>
      h' = first ∧ (¬ failing → x = .error e) := by
  have stops : ∀ e', failing → first = first ∧
      (¬ failing → (Except.error e' : Except Failure Unit) = .error e) :=
    fun _ fails => ⟨rfl, fun sure => absurd fails sure⟩
  unfold accessOrder at refused
  unfold Accesses.grant
  refine Task.ensures_bind.2 (Task.ensures_ofExcept.2 ?_)
  cases checked : access.spec.check k.text with
  | error e' =>
    obtain rfl : e' = e := by simpa [checked] using refused
    exact ⟨rfl, fun _ => rfl⟩
  | ok refs =>
    refine Task.ensures_bind.2 (Trying.ensures_call (readable _ rfl) (fun fails e' => stops e' fails) ?_)
    cases found : (first.cluster.act (.getClass refs.className)).1 with
    | error e' =>
      obtain rfl : e' = e := by simpa [checked, found] using refused
      exact ⟨rfl, fun _ => rfl⟩
    | ok c =>
      have fresh : access.isGranted = false := by
        unfold BucketAccess.isGranted
        rw [unbuilt]
        rfl
      refine Task.ensures_ite (fun built => absurd built (fresh ▸ Bool.false_ne_true)) fun _ => ?_
      unfold Accesses.grantThrough
      refine Task.ensures_bind.2 (Task.ensures_ofExcept.2 ?_)
      cases which : backends.forClass c with
      | error e' =>
        obtain rfl : e' = e := by simpa [checked, found, which] using refused
        exact ⟨rfl, fun _ => rfl⟩
      | ok backendType =>
        refine Task.ensures_bind.2 (ensures_resolveBucket first.cluster readable rfl
          (fun fails e' => stops e' fails) ?_)
        cases source : sourceBucket first.cluster k refs.source with
        | error e' =>
          obtain rfl : e' = e := by simpa [checked, found, which, source] using refused
          exact ⟨rfl, fun _ => rfl⟩
        | ok bucketId =>
          refine Task.ensures_bind.2 (Task.ensures_ofExcept.2 ?_)
          cases billed : Accesses.accountName c with
          | error e' =>
            obtain rfl : e' = e := by simpa [checked, found, which, source, billed] using refused
            exact ⟨rfl, fun _ => rfl⟩
          | ok account => simp [checked, found, which, source, billed] at refused

/-- A grant and its secret do not concern the API server. -/
theorem granted_frame :
    (o.granted first).cluster.classes = first.cluster.classes ∧
      (o.granted first).cluster.claims = first.cluster.claims ∧
      (o.granted first).cluster.accesses = first.cluster.accesses ∧
      (o.granted first).cluster.secrets = first.cluster.secrets := by
  obtain ⟨backends, issued, is⟩ := runBackend_eq first.cluster o.backendType
    (.grantAccess o.bucketId o.account)
  show (first.cluster.runBackend _ _).2.classes = _ ∧ (first.cluster.runBackend _ _).2.claims = _ ∧
    (first.cluster.runBackend _ _).2.accesses = _ ∧ (first.cluster.runBackend _ _).2.secrets = _
  rw [is]
  exact ⟨rfl, rfl, rfl, rfl⟩

/-- The access is granted, and the backend keeps the key pair. -/
theorem act_granting (start : AccessUntouched backends k access first)
    (asked : accessOrder backends first.cluster k access = .ok o) :
    first.cluster.act o.granting = (.ok (o.grant first), (o.granted first).cluster) ∧
      ∃ b, (o.granted first).cluster.backends.get? o.backendType = some b ∧
        b.grants.get? (o.bucketId, (o.grant first).accountId) =
          some (o.grant first).credentials := by
  obtain ⟨b, is, there⟩ := start.kept o asked
  obtain ⟨replied, left⟩ := runBackend_of_get is (.grantAccess o.bucketId o.account)
  obtain ⟨g, issued⟩ : ∃ g,
      (b.grantAccess first.cluster.freshCredentials o.bucketId o.account).1 = .ok g := by
    simp only [InMemory.grantAccess, there, if_true]
    split
    · exact ⟨_, rfl⟩
    · exact ⟨_, rfl⟩
  have told : (first.cluster.act o.granting).1 = .ok g := replied.trans issued
  have given : o.grant first = g := by
    unfold AccessOrder.grant
    rw [told]
  rw [given]
  exact ⟨Prod.ext told rfl, _, left, InMemory.grants_grantAccess issued⟩

/-- An access that has been granted is found, whether or not its secret has been created. -/
theorem act_granting_again (start : AccessUntouched backends k access first)
    (asked : accessOrder backends first.cluster k access = .ok o) :
    (o.granted first).cluster.act o.granting = (.ok (o.grant first), (o.granted first).cluster) ∧
      (o.stored first k access).cluster.act o.granting =
        (.ok (o.grant first), (o.stored first k access).cluster) := by
  have builds : Builds (.grantAccess o.bucketId o.account) := trivial
  have once : first.cluster.runBackend o.backendType (.grantAccess o.bucketId o.account) =
      (.ok (o.grant first), (o.granted first).cluster) := (act_granting start asked).1
  have again : (o.granted first).cluster.runBackend o.backendType
      (.grantAccess o.bucketId o.account) = (.ok (o.grant first), (o.granted first).cluster) :=
    (runBackend_again first.cluster o.backendType builds).trans once
  refine ⟨again, ?_⟩
  refine (runBackend_withSecrets (o.granted first).cluster _ o.backendType _).trans ?_
  rw [again]
  rfl

/-- The secret is looked for and created, or found. -/
theorem ensures_materialize (start : AccessUntouched backends k access first)
    (begun : h = o.granted first ∨ h = o.stored first k access)
    {Q : Except Failure Bool → Holdings BucketAccess → Prop}
    (failed : failing → ∀ e, Q (.error e) h)
    (next : ∀ made, Q (.ok made) (o.stored first k access)) :
    (materialize k.nsOrEmpty (o.secret first access)).Ensures
      (trying k live failing fun _ => true) h Q := by
  unfold materialize
  rcases begun with rfl | rfl
  · have absent : (o.granted first).cluster.secrets.get?
        (.namespaced k.nsOrEmpty access.secretName) = none := by
      rw [granted_frame.2.2.2]
      exact start.unkept
    have missing : (o.granted first).cluster.act (.getSecret k.nsOrEmpty access.secretName) =
        (.ok none, (o.granted first).cluster) :=
      Prod.ext (congrArg Except.ok absent) rfl
    have creating : (o.granted first).cluster.act (.createSecret k.nsOrEmpty (o.secret first access)) =
        (.ok (), (o.stored first k access).cluster) := by
      refine (act_createSecret absent).trans (Prod.ext rfl ?_)
      dsimp only
      rw [granted_frame.2.2.2]
      rfl
    refine Task.ensures_bind.2 (Trying.ensures_acting rfl missing rfl failed ?_)
    exact Task.ensures_bind.2 (Trying.ensures_acting rfl creating rfl failed (next true))
  · have found : (o.stored first k access).cluster.act (.getSecret k.nsOrEmpty access.secretName) =
        (.ok (some (o.secret first access)), (o.stored first k access).cluster) :=
      Prod.ext (congrArg Except.ok (Table.get?_insert_self _ _ _)) rfl
    refine Task.ensures_bind.2 (Trying.ensures_acting rfl found rfl failed ?_)
    exact next false

/-- The status is written to the access that is stored. -/
theorem act_writeAccessStatus (start : AccessUntouched backends k access first) :
    (o.stored first k access).cluster.act (.writeAccessStatus access (o.status first access)) =
      (.ok (o.access first access), (o.done first k access).cluster) := by
  have same : (o.stored first k access).cluster.accesses = first.cluster.accesses :=
    granted_frame.2.2.1
  have found : findStored first.cluster.accesses access = .ok (k, access) := by
    simp [findStored, start.named, start.stored, current]
  simp only [act, same, found]
  rfl

/-- As long as its status has not been written, an access gets what it asks for. -/
theorem grant_ordered (start : AccessUntouched backends k access first)
    (asked : accessOrder backends first.cluster k access = .ok o)
    (begun : h = first ∨ h = o.granted first ∨ h = o.stored first k access) :
    (Accesses.grant backends k access).Ensures (trying k live failing fun _ => true) h fun x h' =>
      (∃ live', AccessStage backends k access first h' live') ∧
        (¬ failing → x = .ok () ∧ h' = o.done first k access) := by
  obtain ⟨refs, checked, found, which, source, billed⟩ := accessOrder_ok asked
  have stage : AccessStage backends k access first h access := by
    rcases begun with rfl | rfl | rfl
    · exact .untouched
    · exact .granted asked
    · exact .stored asked
  have frame : h.cluster.classes = first.cluster.classes ∧
      h.cluster.claims = first.cluster.claims := by
    rcases begun with rfl | rfl | rfl
    · exact ⟨rfl, rfl⟩
    · exact ⟨granted_frame.1, granted_frame.2.1⟩
    · exact ⟨granted_frame.1, granted_frame.2.1⟩
  have reading : h.cluster.act (.getClass refs.className) = (.ok o.bucketClass, h.cluster) := by
    rw [act_getClass frame.1, found]
  -- a grant that is given again leaves the secret alone
  obtain ⟨h', granting, records, begun'⟩ : ∃ h' : Holdings BucketAccess,
      h.cluster.act o.granting = (.ok (o.grant first), h'.cluster) ∧ h'.records = h.records ∧
        (h' = o.granted first ∨ h' = o.stored first k access) := by
    rcases begun with rfl | rfl | rfl
    · exact ⟨_, (act_granting start asked).1, rfl, Or.inl rfl⟩
    · exact ⟨_, (act_granting_again start asked).1, rfl, Or.inl rfl⟩
    · exact ⟨_, (act_granting_again start asked).2, rfl, Or.inr rfl⟩
  have stage' : AccessStage backends k access first h' access := by
    rcases begun' with rfl | rfl
    · exact .granted asked
    · exact .stored asked
  -- wherever the attempt fails, it has reached a stage
  have stops : ∀ {h' live' e}, AccessStage backends k access first h' live' → failing →
      (∃ live', AccessStage backends k access first h' live') ∧
        (¬ failing → (Except.error e : Except Failure Unit) = .ok () ∧ h' = o.done first k access) :=
    fun stage fails => ⟨⟨_, stage⟩, fun sure => absurd fails sure⟩
  have fresh : access.isGranted = false := by
    unfold BucketAccess.isGranted
    rw [start.unbuilt]
    rfl
  unfold Accesses.grant
  refine Task.ensures_bind.2 (Task.ensures_ofExcept.2 ?_)
  rw [checked]
  refine Task.ensures_bind.2 (Trying.ensures_acting rfl reading rfl
    (fun fails e => stops stage fails) ?_)
  refine Task.ensures_ite (fun built => absurd built (fresh ▸ Bool.false_ne_true)) fun _ => ?_
  unfold Accesses.grantThrough
  refine Task.ensures_bind.2 (Task.ensures_ofExcept.2 ?_)
  rw [which]
  refine Task.ensures_bind.2 (ensures_resolveBucket first.cluster (fun _ _ => rfl) frame.2
    (fun fails e => stops stage fails) ?_)
  rw [source]
  refine Task.ensures_bind.2 (Task.ensures_ofExcept.2 ?_)
  rw [billed]
  refine Task.ensures_bind.2 (Trying.ensures_acting rfl granting records
    (fun fails e => stops stage fails) ?_)
  unfold Accesses.recordGrant
  refine Task.ensures_bind.2 (ensures_materialize start begun'
    (fun fails e => stops stage' fails) fun _ => ?_)
  -- the status is written to what is stored, and what the write tells of is put on record
  let written : Holdings BucketAccess := ⟨(o.done first k access).cluster, first.records⟩
  have writing : (o.stored first k access).cluster.act
      (.writeAccessStatus access (o.status first access)) =
      (.ok (o.access first access), written.cluster) := act_writeAccessStatus start
  refine Task.ensures_bind.2 (Trying.ensures_acting rfl writing rfl
    (fun fails e => stops (.stored asked) fails) ?_)
  refine Task.ensures_bind.2 (Trying.ensures_remember (Trying.ensures_publish ?_))
  exact ⟨⟨_, .done asked⟩, fun _ => ⟨rfl, rfl⟩⟩

/-- Once its status has been written, an access is only put on record again. -/
theorem grant_done (asked : accessOrder backends first.cluster k access = .ok o)
    (readable : ∀ c, reads c = true → may c = true) :
    (Accesses.grant backends k (o.access first access)).Ensures (trying k live failing may)
      (o.done first k access) fun x h' =>
        h' = o.done first k access ∧ (¬ failing → x = .ok ()) := by
  obtain ⟨refs, checked, found, -⟩ := accessOrder_ok asked
  have reading : (o.done first k access).cluster.act (.getClass refs.className) =
      (.ok o.bucketClass, (o.done first k access).cluster) := by
    have same : (o.done first k access).cluster.classes = first.cluster.classes := granted_frame.1
    rw [act_getClass same, found]
  unfold Accesses.grant
  refine Task.ensures_bind.2 (Task.ensures_ofExcept.2 ?_)
  rw [show (o.access first access).spec.check k.text = .ok refs from checked]
  refine Task.ensures_bind.2 (Trying.ensures_acting (readable _ rfl) reading rfl
    (fun fails _ => ⟨rfl, fun sure => absurd fails sure⟩) ?_)
  refine Task.ensures_ite (fun _ => ?_) fun unbuilt => absurd rfl unbuilt
  refine Trying.ensures_remember ⟨?_, fun _ => rfl⟩
  unfold AccessOrder.done
  simp

/-! ## Convergence -/

/-- The live access is the one that the API server has. -/
theorem stored_of_accessStage (start : AccessUntouched backends k access first)
    (stage : AccessStage backends k access first h live) :
    h.cluster.accesses.get? k = some live := by
  cases stage with
  | untouched => exact start.stored
  | granted asked =>
    rw [granted_frame.2.2.1]
    exact start.stored
  | @stored o asked =>
    show (o.granted first).cluster.accesses.get? k = _
    rw [granted_frame.2.2.1]
    exact start.stored
  | done asked => exact Table.get?_insert_self _ _ _

/-- What is on record is the live access. -/
theorem fits_of_accessStage (start : AccessUntouched backends k access first)
    (stage : AccessStage backends k access first h live) {old : BucketAccess}
    (recorded : h.records.get? k = some old) : Object.uid? old = Object.uid? live := by
  cases stage with
  | untouched => simp [start.unrecorded] at recorded
  | granted asked => simp [AccessOrder.granted, start.unrecorded] at recorded
  | stored asked => simp [AccessOrder.stored, start.unrecorded] at recorded
  | done asked =>
    obtain rfl := Option.some.inj ((Table.get?_insert_self _ _ _).symm.trans recorded)
    rfl

/-- **Attempts at an access lead from stage to stage.** -/
theorem accesses_converging (read : ObjectKey.parse text = .ok k)
    (start : AccessUntouched backends k access first) :
    Converging (fun backends => Accesses.reconcile backends text) backends k
      (AccessStage backends k access first)
      ((accessOrder backends first.cluster k access).map fun _ => ())
      (accessLast backends k access first) where
  stored _ _ stage := stored_of_accessStage start stage
  attempts h live failing stage := by
    refine ensures_reconcileAccess read (fun _ => fits_of_accessStage start stage) ?_
    unfold accessLast
    cases asked : accessOrder backends first.cluster k access with
    | error e =>
      cases stage with
      | untouched =>
        refine (grant_refused asked start.unbuilt fun _ _ => rfl).mono ?_
        rintro x _ ⟨rfl, sure⟩
        exact ⟨⟨_, .untouched⟩, fun surely => ⟨sure surely, rfl⟩⟩
      | granted asked' | stored asked' | done asked' => simp [asked] at asked'
    | ok o =>
      cases stage with
      | untouched => exact grant_ordered start asked (Or.inl rfl)
      | granted asked' =>
        obtain rfl := Except.ok.inj (asked.symm.trans asked')
        exact grant_ordered start asked (Or.inr (Or.inl rfl))
      | stored asked' =>
        obtain rfl := Except.ok.inj (asked.symm.trans asked')
        exact grant_ordered start asked (Or.inr (Or.inr rfl))
      | done asked' =>
        obtain rfl := Except.ok.inj (asked.symm.trans asked')
        refine (grant_done asked fun _ _ => rfl).mono ?_
        rintro x _ ⟨rfl, sure⟩
        exact ⟨⟨_, .done asked⟩, fun surely => ⟨sure surely, rfl⟩⟩
  rests live failing stage := by
    refine ensures_reconcileAccess read (fun _ => fits_of_accessStage start stage) ?_
    have stored := stored_of_accessStage start stage
    unfold accessLast at stored ⊢
    cases asked : accessOrder backends first.cluster k access with
    | error e =>
      rw [asked] at stored
      obtain rfl := Option.some.inj (start.stored.symm.trans stored)
      exact (grant_refused asked start.unbuilt fun _ => id).mono fun _ _ same => same.1
    | ok o =>
      rw [asked] at stored
      obtain rfl := Option.some.inj ((Table.get?_insert_self _ _ _).symm.trans stored)
      exact (grant_done asked fun _ => id).mono fun _ _ same => same.1

end

end BucketProvisioning.Cluster
