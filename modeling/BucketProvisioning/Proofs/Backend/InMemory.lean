import BucketProvisioning.Backend.InMemory

/-!
# What operations do to a backend in memory

Every operation is described by which buckets and which grants there are after it.  For buckets and
for grants alike there is one operation that brings one about, and few that take one away.  These two
operations can be repeated: what is there already is found.
-/

set_option autoImplicit false

namespace BucketProvisioning

namespace Table

variable {κ α : Type} [DecidableEq κ] {t : Table κ α} {k k' : κ}

/-- Every key but the erased one is there as before. -/
theorem contains_erase : (t.erase k).contains k' = (!decide (k' = k) && t.contains k') := by
  unfold contains
  rw [get?_erase]
  split <;> simp [*]

/-- The written key is there, and every other one as before. -/
theorem contains_insert {a : α} :
    (t.insert k a).contains k' = (decide (k' = k) || t.contains k') := by
  unfold contains
  rw [get?_insert]
  split <;> simp [*]

/-- Filtering by keys keeps the values of the keys that are kept. -/
theorem get?_filter {p : κ → Bool} :
    (t.filter fun k _ => p k).get? k' = if p k' then t.get? k' else none := by
  obtain ⟨es⟩ := t
  induction es with
  | nil => simp [get?, filter]
  | cons e es ih =>
    simp only [get?, filter] at ih ⊢
    by_cases kept : p e.1 = true <;> by_cases here : e.1 = k' <;> simp_all

/-- A table may be filtered by keys alone. -/
theorem contains_filter {p : κ → Bool} :
    (t.filter fun k _ => p k).contains k' = (p k' && t.contains k') := by
  unfold contains
  rw [get?_filter]
  split <;> simp [*]

/-- Of two writes under one key only the second counts. -/
@[simp] theorem insert_insert (t : Table κ α) (k : κ) (a b : α) :
    (t.insert k a).insert k b = t.insert k b := by
  simp [insert, erase, List.filter_append]

end Table

namespace Backend.InMemory

open BucketProvisioning.Resource

variable {b : InMemory} {fresh : Credentials} {op : Operation}
variable {bucketId accountId name region id account : String}

/-- Whether an account has been granted access to a bucket. -/
def hasGrant (b : InMemory) (bucketId accountId : String) : Bool :=
  b.grants.contains (bucketId, accountId)

/-- Different buckets have different identifiers. -/
theorem bucketIdOf_injective {name name' : String} (same : bucketIdOf name = bucketIdOf name') :
    name = name' := by
  simpa [bucketIdOf] using same

/-- A bucket is named after what it is created for. -/
theorem eq_bucketIdOf (created : (b.createBucket name region).1 = .ok id) : id = bucketIdOf name := by
  unfold createBucket at created
  split at created
  · simp at created
  · exact (Except.ok.inj created).symm

/-! ## Each operation -/

/-- Creating a bucket brings about the one of the name, unless the name is empty. -/
@[simp] theorem hasBucket_createBucket :
    (b.createBucket name region).2.hasBucket id =
      (b.hasBucket id || (!name.isEmpty && decide (id = bucketIdOf name))) := by
  unfold createBucket
  by_cases empty : name.isEmpty = true
  · simp [empty]
  · by_cases there : b.hasBucket (bucketIdOf name) = true
    · by_cases here : id = bucketIdOf name <;> simp [empty, there, here]
    · simp only [empty, there, Bool.false_eq_true, if_false, Bool.not_false, Bool.true_and]
      rw [hasBucket, Table.contains_insert, Bool.or_comm, ← hasBucket]

/-- Deleting a bucket takes away that one only. -/
@[simp] theorem hasBucket_deleteBucket :
    (b.deleteBucket bucketId).2.hasBucket id = (!decide (id = bucketId) && b.hasBucket id) := by
  unfold deleteBucket
  by_cases there : b.hasBucket bucketId = true
  · rw [if_pos there, hasBucket, Table.contains_erase, ← hasBucket]
  · rw [if_neg there]
    by_cases here : id = bucketId <;> simp [here, there]

/-- A grant leaves the buckets alone. -/
@[simp] theorem hasBucket_grantAccess :
    (b.grantAccess fresh bucketId account).2.hasBucket id = b.hasBucket id := by
  unfold grantAccess
  split
  · dsimp only
    split <;> rfl
  · rfl

/-- A revocation leaves the buckets alone. -/
@[simp] theorem hasBucket_revokeAccess :
    (b.revokeAccess bucketId accountId).2.hasBucket id = b.hasBucket id := by
  unfold revokeAccess
  split <;> rfl

/-- Creating a bucket leaves the grants alone. -/
@[simp] theorem hasGrant_createBucket :
    (b.createBucket name region).2.hasGrant bucketId accountId = b.hasGrant bucketId accountId := by
  unfold createBucket
  split
  · rfl
  · dsimp only
    split <;> rfl

/-- Deleting a bucket takes away the grants for it, if it was there. -/
@[simp] theorem hasGrant_deleteBucket :
    (b.deleteBucket id).2.hasGrant bucketId accountId =
      (!(b.hasBucket id && decide (bucketId = id)) && b.hasGrant bucketId accountId) := by
  unfold deleteBucket
  by_cases there : b.hasBucket id = true
  · have filtered : (b.grants.filter fun g _ => decide (g.1 ≠ id)).contains (bucketId, accountId) =
        (decide (bucketId ≠ id) && b.hasGrant bucketId accountId) :=
      Table.contains_filter (p := fun g : String × String => decide (g.1 ≠ id))
    rw [if_pos there, hasGrant, filtered, there]
    simp
  · simp [there]

/-- Granting access brings about the grant for the account, if the bucket is there. -/
@[simp] theorem hasGrant_grantAccess :
    (b.grantAccess fresh id account).2.hasGrant bucketId accountId =
      ((b.hasBucket id && decide ((bucketId, accountId) = (id, accountIdOf account))) ||
        b.hasGrant bucketId accountId) := by
  unfold grantAccess
  by_cases there : b.hasBucket id = true
  · rw [if_pos there, there, Bool.true_and]
    dsimp only
    split
    · rename_i found
      by_cases here : (bucketId, accountId) = (id, accountIdOf account)
      · simp [hasGrant, here, Table.contains, found]
      · simp [here]
    · rw [hasGrant, Table.contains_insert, ← hasGrant]
  · simp [there]

/-- A revocation takes away the one grant. -/
@[simp] theorem hasGrant_revokeAccess :
    (b.revokeAccess id account).2.hasGrant bucketId accountId =
      (!decide ((bucketId, accountId) = (id, account)) && b.hasGrant bucketId accountId) := by
  unfold revokeAccess
  by_cases there : b.grants.contains (id, account) = true
  · rw [if_pos there, hasGrant, Table.contains_erase, ← hasGrant]
  · rw [if_neg there]
    by_cases here : (bucketId, accountId) = (id, account)
    · simp [hasGrant, here, there]
    · simp [here]

/-! ## Operations that are repeated -/

/-- A bucket that is created again is found. -/
@[simp] theorem createBucket_again (b : InMemory) (name region : String) :
    (b.createBucket name region).2.createBucket name region = b.createBucket name region := by
  by_cases empty : name.isEmpty = true
  · simp [createBucket, empty]
  · have there : (b.createBucket name region).2.hasBucket (bucketIdOf name) = true := by
      rw [hasBucket_createBucket]
      simp [empty]
    refine Prod.ext ?_ ?_
    · simp [createBucket, empty]
    · generalize (b.createBucket name region).2 = b' at there ⊢
      simp [createBucket, empty, there]

/-- An access that is granted again is found, and no other key pair is issued. -/
@[simp] theorem grantAccess_again (b : InMemory) (fresh fresh' : Credentials)
    (bucketId account : String) :
    (b.grantAccess fresh bucketId account).2.grantAccess fresh' bucketId account =
      b.grantAccess fresh bucketId account := by
  by_cases there : b.hasBucket bucketId = true
  · cases found : b.grants.get? (bucketId, accountIdOf account) with
    | none =>
      have granted : b.grantAccess fresh bucketId account =
          (.ok ⟨accountIdOf account, fresh⟩,
            { b with grants := b.grants.insert (bucketId, accountIdOf account) fresh }) := by
        simp [grantAccess, there, found]
      have there' : ({ b with grants := b.grants.insert (bucketId, accountIdOf account) fresh } :
          InMemory).hasBucket bucketId = true := there
      rw [granted, grantAccess, if_pos there']
      simp
    | some credentials => simp [grantAccess, there, found]
  · simp [grantAccess, there]

/-- What an access is granted with is kept. -/
theorem grants_grantAccess {b : InMemory} {fresh : Credentials} {bucketId account : String}
    {g : Grant} (granted : (b.grantAccess fresh bucketId account).1 = .ok g) :
    (b.grantAccess fresh bucketId account).2.grants.get? (bucketId, g.accountId) =
      some g.credentials := by
  by_cases there : b.hasBucket bucketId = true
  · cases found : b.grants.get? (bucketId, accountIdOf account) with
    | none =>
      simp only [grantAccess, there, found, if_true] at granted ⊢
      obtain rfl := Except.ok.inj granted
      exact Table.get?_insert_self _ _ _
    | some credentials =>
      simp only [grantAccess, there, found, if_true] at granted ⊢
      obtain rfl := Except.ok.inj granted
      exact found
  · simp [grantAccess, there] at granted

/-! ## Any operation -/

/-- Only its creation brings a bucket about. -/
theorem created_of_hasBucket (absent : b.hasBucket bucketId = false)
    (there : (run fresh op b).2.hasBucket bucketId = true) :
    ∃ name region, op = .createBucket name region ∧ bucketIdOf name = bucketId := by
  cases op <;> simp [run, absent] at there
  exact ⟨_, _, rfl, there.2.symm⟩

/-- Only a grant brings a grant about. -/
theorem granted_of_hasGrant (absent : b.hasGrant bucketId accountId = false)
    (there : (run fresh op b).2.hasGrant bucketId accountId = true) :
    ∃ account, op = .grantAccess bucketId account ∧ accountIdOf account = accountId := by
  cases op <;> simp [run, absent] at there
  obtain ⟨-, rfl, rfl⟩ := there
  exact ⟨_, rfl, rfl⟩

/-- Only its revocation and the deletion of the bucket take a grant away. -/
theorem lost_of_hasGrant (there : b.hasGrant bucketId accountId = true)
    (absent : (run fresh op b).2.hasGrant bucketId accountId = false) :
    op = .revokeAccess bucketId accountId ∨ ∃ region, op = .deleteBucket bucketId region := by
  cases op <;> simp [run, there] at absent
  · obtain ⟨-, rfl⟩ := absent
    exact Or.inr ⟨_, rfl⟩
  · obtain ⟨rfl, rfl⟩ := absent
    exact Or.inl rfl

end Backend.InMemory

end BucketProvisioning
