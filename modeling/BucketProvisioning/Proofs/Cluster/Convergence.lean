import BucketProvisioning.Proofs.Cluster.AccessRetries
import BucketProvisioning.Proofs.Cluster.ClaimRetries
import BucketProvisioning.Proofs.Engine.Rehearsal

/-!
# Retries converge

A claim or an access for which nothing has been done yet is reconciled again and again, with calls
failing at any point.  `retries_converge` says that the first attempt in which no call fails leaves
what a single such attempt would have left, and that all later ones leave it alone.

What is asked for need not be there: a claim without a class gets nothing, however often it is
reconciled.  If everything is there, the theorem says what a single attempt leaves.
-/

set_option autoImplicit false

namespace BucketProvisioning.Cluster

open BucketProvisioning BucketProvisioning.Reconcile BucketProvisioning.Resource
open BucketProvisioning.Backend BucketProvisioning.Engine
open Session

variable {s : Session} {text : String} {k : ObjectKey} {claim : BucketClaim} {access : BucketAccess}

/-- A session in which a claim has been given what it asked for. -/
structure ClaimOrder.Given (o : ClaimOrder) (k : ObjectKey) (claim : BucketClaim) (s : Session) :
    Prop where
  /-- The backend has the bucket. -/
  built : ∃ b, s.cluster.backends.get? o.backendType = some b ∧
    b.hasBucket (InMemory.bucketIdOf o.uid) = true
  /-- The API server has the claim with its status. -/
  written : s.cluster.claims.get? k = some (o.claim claim)
  /-- So has the record. -/
  recorded : s.claims.records.get? k = some (o.claim claim)

/-- A session in which an access has been given what it asked for, with a grant of the backend. -/
structure AccessOrder.Given (o : AccessOrder) (k : ObjectKey) (access : BucketAccess) (g : Grant)
    (s : Session) : Prop where
  /-- The backend keeps the key pair of the grant. -/
  granted : ∃ b, s.cluster.backends.get? o.backendType = some b ∧
    b.grants.get? (o.bucketId, g.accountId) = some g.credentials
  /-- The secret has the same key pair. -/
  stored : s.cluster.secrets.get? (.namespaced k.nsOrEmpty access.secretName) =
    some (credentialsSecret access access.secretName o.bucketId o.bucketClass.spec.endpoint?
      g.credentials)
  /-- The API server and the record have the access with a status that names both. -/
  written : ∃ updated : BucketAccess, s.cluster.accesses.get? k = some updated ∧
    s.accesses.records.get? k = some updated ∧
    updated.status = some (Accesses.grantedStatus g o.bucketId o.backendType access.secretName)

/-- A single attempt at a claim creates its bucket and writes its status. -/
theorem attempt_claim (read : ObjectKey.parse text = .ok k)
    (start : ClaimUntouched s.backends k claim (s.holdings BucketClaim)) (sees : s.Sees k claim)
    {o : ClaimOrder} (asked : claimOrder s.backends s.cluster k claim = .ok o) :
    (attempt (reconcileClaim text) [] s).1 = .ok () ∧
      o.Given k claim (attempt (reconcileClaim text) [] s).2 := by
  have asked' : claimOrder s.backends (s.holdings BucketClaim).cluster k claim = .ok o := asked
  obtain ⟨outcome, held, cluster, -⟩ :=
    (claims_converging read start).attempt_sure ⟨rfl, claim, .untouched, sees⟩
  rw [asked'] at outcome
  unfold claimLast at held cluster
  rw [asked'] at held cluster
  have records := congrArg Holdings.records held
  rw [reconcileClaim_eq]
  refine ⟨outcome, ?_, ?_, ?_⟩
  · rw [cluster]
    exact (act_creation start asked').2
  · rw [cluster]
    exact Table.get?_insert_self _ _ _
  · exact (congrArg (Table.get? · k) records).trans (Table.get?_insert_self _ _ _)

/-- A single attempt at an access grants it, stores what the backend has issued, and writes its
status. -/
theorem attempt_access (read : ObjectKey.parse text = .ok k)
    (start : AccessUntouched s.backends k access (s.holdings BucketAccess))
    (sees : s.Sees k access) {o : AccessOrder}
    (asked : accessOrder s.backends s.cluster k access = .ok o) :
    (attempt (reconcileAccess text) [] s).1 = .ok () ∧
      ∃ g, o.Given k access g (attempt (reconcileAccess text) [] s).2 := by
  have asked' : accessOrder s.backends (s.holdings BucketAccess).cluster k access = .ok o := asked
  obtain ⟨outcome, held, cluster, -⟩ :=
    (accesses_converging read start).attempt_sure ⟨rfl, access, .untouched, sees⟩
  rw [asked'] at outcome
  unfold accessLast at held cluster
  rw [asked'] at held cluster
  have records := congrArg Holdings.records held
  rw [reconcileAccess_eq]
  refine ⟨outcome, o.grant (s.holdings BucketAccess), ?_, ?_,
    o.access (s.holdings BucketAccess) access, ?_, ?_, rfl⟩
  · rw [cluster]
    exact (act_granting start asked').2
  · rw [cluster]
    exact Table.get?_insert_self _ _ _
  · rw [cluster]
    exact Table.get?_insert_self _ _ _
  · exact (congrArg (Table.get? · k) records).trans (Table.get?_insert_self _ _ _)

/-- **Retries converge.**  For a claim or an access that is live and the same at the API server and
in the cache, has no status and is not on record, and whose backend is kept in memory (for an
access: with its bucket there and no secret of its name): however many attempts are made, with
whatever calls failing without effect and the cache brought up to date in between, one more attempt
in which no call fails leaves the same as a single such attempt, and later attempts change nothing
and only read.  If what is asked for is there, the single attempt succeeds and gives it; for an
access, the secret then has the key pair that the backend keeps. -/
theorem retries_converge (s : Session) {text : String} {k : ObjectKey}
    (read : ObjectKey.parse text = .ok k) :
    (∀ claim, ClaimUntouched s.backends k claim (s.holdings BucketClaim) → s.Sees k claim →
      s.Converges BucketClaim k (reconcileClaim text) ∧
      ∀ o, claimOrder s.backends s.cluster k claim = .ok o →
        (attempt (reconcileClaim text) [] s).1 = .ok () ∧
          o.Given k claim (attempt (reconcileClaim text) [] s).2) ∧
    (∀ access, AccessUntouched s.backends k access (s.holdings BucketAccess) → s.Sees k access →
      s.Converges BucketAccess k (reconcileAccess text) ∧
      ∀ o, accessOrder s.backends s.cluster k access = .ok o →
        (attempt (reconcileAccess text) [] s).1 = .ok () ∧
          ∃ g, o.Given k access g (attempt (reconcileAccess text) [] s).2) := by
  constructor
  · intro claim start sees
    have converges := (claims_converging read start).converges ⟨rfl, claim, .untouched, sees⟩
    exact ⟨converges, fun o asked => attempt_claim read start sees asked⟩
  · intro access start sees
    have converges := (accesses_converging read start).converges ⟨rfl, access, .untouched, sees⟩
    exact ⟨converges, fun o asked => attempt_access read start sees asked⟩

/-- A session with a claim and an access for which nothing has been done yet. -/
def newSession : Session where
  cluster := {
    classes := .ofList [("c", someClass)]
    claims := .ofList [(.namespaced "n" "a", newClaim)]
    accesses := .ofList [(.namespaced "n" "a", newAccess)]
    backends := .ofList [("fake", { buckets := .ofList [("b", "")] })] }
  backends := oneType
  claims := { cache := { objects := .ofList [(.namespaced "n" "a", newClaim)], synced := true } }
  accesses := { cache := { objects := .ofList [(.namespaced "n" "a", newAccess)], synced := true } }

/-- An order to make one call of a name fail. -/
def oneFailure (name : String) : Fault where
  name := name
  trouble := .failure conflict
  left := 1
  afterEffect := false

/-- The claim is provisioned after a failed status write.  The access is granted at the third attempt,
the first two having failed at the creation of the secret and at the status write. -/
theorem retries_converge_after_failures :
    ObjectKey.parse "n/a" = .ok (.namespaced "n" "a") ∧
      (attempt (reconcileClaim "n/a") [] (newSession.retried BucketClaim (.namespaced "n" "a")
        (reconcileClaim "n/a") [[oneFailure "update_claim_status"]])).1 = .ok () ∧
      (attempt (reconcileAccess "n/a") [] (newSession.retried BucketAccess (.namespaced "n" "a")
        (reconcileAccess "n/a")
        [[oneFailure "secret_create"], [oneFailure "update_access_status"]])).1 = .ok () := by
  have read : ObjectKey.parse "n/a" = .ok (.namespaced "n" "a") := rfl
  obtain ⟨claims, accesses⟩ := retries_converge newSession read
  have mild : ∀ name, Mild [oneFailure name] := fun _ => List.forall_mem_singleton.2 rfl
  refine ⟨read, ?_, ?_⟩
  · have asked : claimOrder newSession.backends newSession.cluster (.namespaced "n" "a") newClaim =
        .ok ⟨someClass, "fake", "u"⟩ := rfl
    obtain ⟨converges, once⟩ := claims newClaim
      ⟨rfl, rfl, rfl, rfl, by decide, by
        intro o is
        obtain rfl := Except.ok.inj (asked.symm.trans is)
        rfl⟩ rfl
    exact (converges.same _ (List.forall_mem_singleton.2 (mild _))).1.trans (once _ asked).1
  · have asked : accessOrder newSession.backends newSession.cluster (.namespaced "n" "a")
        newAccess = .ok ⟨someClass, "fake", "b", "account-s"⟩ := rfl
    obtain ⟨converges, once⟩ := accesses newAccess
      ⟨rfl, rfl, rfl, rfl, rfl, by
        intro o is
        obtain rfl := Except.ok.inj (asked.symm.trans is)
        exact ⟨_, rfl, rfl⟩⟩ rfl
    have milds := List.forall_mem_cons.2
      ⟨mild "secret_create", List.forall_mem_singleton.2 (mild "update_access_status")⟩
    exact (converges.same _ milds).1.trans (once _ asked).1

end BucketProvisioning.Cluster
