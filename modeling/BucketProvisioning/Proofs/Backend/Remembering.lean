import BucketProvisioning.Proofs.Backend.InMemory
import BucketProvisioning.Proofs.History

/-!
# What a backend in memory remembers

The tables of a backend in memory hold what its calls have left behind.  Which buckets and grants
there are is said here by the history of the calls alone: what was created or granted, and has not
been deleted or revoked since.  A call counts for what it was answered, so a deletion that fails
deletes nothing.

* `hasBucket_run` and `hasGrant_run`: what a single call brings about and takes away, read off the
  call and its answer.
* `Recalls.call`: tables that agree with a history agree with it after one more call.
* `recalls_diary`: so they do after any calls.
* `tables_tell_history`: the laws of the tables, for every list of calls.
-/

set_option autoImplicit false

namespace BucketProvisioning

namespace Table

variable {κ α : Type} [DecidableEq κ] {t : Table κ α} {k : κ}

omit [DecidableEq κ] in
/-- The keys of a part of a table are distinct. -/
theorem nodup_keys_filter {p : κ → α → Bool} (distinct : t.keys.Nodup) :
    (t.filter p).keys.Nodup :=
  distinct.sublist (List.filter_sublist.map Prod.fst)

end Table

namespace Backend.InMemory

open BucketProvisioning.Resource

/-! ## Calls and their answers -/

/-- A call: an operation, and the key pair that is drawn if a new grant needs one. -/
structure Call where
  /-- What is asked for. -/
  op : Operation
  /-- The key pair of a new grant. -/
  fresh : Credentials

/-- A call that has been answered. -/
structure Answered where
  /-- What was asked for. -/
  op : Operation
  /-- What it was answered. -/
  result : Except Failure op.Result

namespace Answered

/-- It was answered with a result, and not with a failure. -/
def Succeeds (a : Answered) : Prop := ∃ x, a.result = .ok x

/-- A bucket of this name was created, or found. -/
def Creates (name : String) (a : Answered) : Prop :=
  (∃ region, a.op = .createBucket name region) ∧ a.Succeeds

/-- The bucket was deleted. -/
def Deletes (bucketId : String) (a : Answered) : Prop :=
  (∃ region, a.op = .deleteBucket bucketId region) ∧ a.Succeeds

/-- An account was granted access to a bucket, and this was issued for it. -/
def Issues (bucketId account : String) (g : Grant) (a : Answered) : Prop :=
  a = ⟨.grantAccess bucketId account, .ok g⟩

/-- Access to a bucket was granted under the identifier of an account. -/
def Grants (bucketId accountId : String) (a : Answered) : Prop :=
  ∃ account g, a.Issues bucketId account g ∧ g.accountId = accountId

/-- The grant was revoked. -/
def Revokes (bucketId accountId : String) (a : Answered) : Prop :=
  a.op = .revokeAccess bucketId accountId ∧ a.Succeeds

/-- The grant was revoked, or its bucket deleted. -/
def Withdraws (bucketId accountId : String) (a : Answered) : Prop :=
  a.Revokes bucketId accountId ∨ a.Deletes bucketId

end Answered

open Answered

/-- An operation with what a backend answers. -/
def answered (fresh : Credentials) (op : Operation) (b : InMemory) : Answered :=
  ⟨op, (run fresh op b).1⟩

/-- What an operation needs to succeed. -/
def Allows (b : InMemory) : Operation → Prop
  | .createBucket name _ => name ≠ ""
  | .deleteBucket bucketId _ => b.hasBucket bucketId = true
  | .grantAccess bucketId _ => b.hasBucket bucketId = true
  | .revokeAccess bucketId accountId => b.hasGrant bucketId accountId = true

variable {b : InMemory} {fresh : Credentials} {op : Operation} {e : Failure}
variable {name bucketId accountId account : String} {g : Grant}

/-! ## What an answer says -/

/-- What is allowed succeeds. -/
theorem run_of_allows (fresh : Credentials) (allowed : b.Allows op) :
    ∃ x, (run fresh op b).1 = .ok x := by
  cases op with
  | createBucket name region =>
    have named : ¬ name.isEmpty = true := fun empty => allowed (by simpa using empty)
    have created : (b.createBucket name region).1 = .ok (bucketIdOf name) := by
      rw [createBucket, if_neg named]
    exact ⟨bucketIdOf name, created⟩
  | deleteBucket bucketId region =>
    have there : b.hasBucket bucketId = true := allowed
    have deleted : (b.deleteBucket bucketId).1 = .ok () := by rw [deleteBucket, if_pos there]
    exact ⟨(), deleted⟩
  | grantAccess bucketId account =>
    have there : b.hasBucket bucketId = true := allowed
    cases found : b.grants.get? (bucketId, accountIdOf account) with
    | some credentials =>
      have granted : (b.grantAccess fresh bucketId account).1 =
          .ok ⟨accountIdOf account, credentials⟩ := by simp [grantAccess, there, found]
      exact ⟨_, granted⟩
    | none =>
      have granted : (b.grantAccess fresh bucketId account).1 =
          .ok ⟨accountIdOf account, fresh⟩ := by simp [grantAccess, there, found]
      exact ⟨_, granted⟩
  | revokeAccess bucketId accountId =>
    have there : b.grants.contains (bucketId, accountId) = true := allowed
    have revoked : (b.revokeAccess bucketId accountId).1 = .ok () := by
      rw [revokeAccess, if_pos there]
    exact ⟨(), revoked⟩

/-- What is not allowed fails and changes nothing. -/
theorem run_of_not_allows (fresh : Credentials) (refused : ¬ b.Allows op) :
    ∃ e, run fresh op b = (.error e, b) := by
  cases op with
  | createBucket name region =>
    have empty : name.isEmpty = true := by simpa [Allows] using refused
    exact ⟨_, if_pos empty⟩
  | deleteBucket bucketId region => exact ⟨_, if_neg refused⟩
  | grantAccess bucketId account => exact ⟨_, if_neg refused⟩
  | revokeAccess bucketId accountId => exact ⟨_, if_neg refused⟩

/-- An operation succeeds exactly if it is allowed. -/
theorem succeeds_answered : (answered fresh op b).Succeeds ↔ b.Allows op := by
  by_cases allowed : b.Allows op
  · exact iff_of_true (run_of_allows fresh allowed) allowed
  · obtain ⟨e, failed⟩ := run_of_not_allows fresh allowed
    refine iff_of_false ?_ allowed
    rintro ⟨x, given⟩
    have given' : (run fresh op b).1 = .ok x := given
    rw [failed] at given'
    cases given'

/-- An operation that fails changes nothing. -/
theorem run_of_error (failed : (run fresh op b).1 = .error e) : (run fresh op b).2 = b := by
  by_cases allowed : b.Allows op
  · obtain ⟨x, given⟩ := run_of_allows fresh allowed
    rw [given] at failed
    cases failed
  · obtain ⟨e', refused⟩ := run_of_not_allows fresh allowed
    rw [refused]

/-- A call creates a bucket exactly if it asks for one with a name. -/
theorem creates_answered :
    (answered fresh op b).Creates name ↔
      (∃ region, op = .createBucket name region) ∧ name ≠ "" := by
  refine and_congr_right ?_
  rintro ⟨region, rfl⟩
  exact succeeds_answered

/-- A call deletes a bucket exactly if it asks for that and the bucket is there. -/
theorem deletes_answered :
    (answered fresh op b).Deletes bucketId ↔
      (∃ region, op = .deleteBucket bucketId region) ∧ b.hasBucket bucketId = true := by
  refine and_congr_right ?_
  rintro ⟨region, rfl⟩
  exact succeeds_answered

/-- A call revokes a grant exactly if it asks for that and the grant is there. -/
theorem revokes_answered :
    (answered fresh op b).Revokes bucketId accountId ↔
      op = .revokeAccess bucketId accountId ∧ b.hasGrant bucketId accountId = true := by
  refine and_congr_right ?_
  rintro rfl
  exact succeeds_answered

/-- A call issues a grant exactly if it asks for one and is given it. -/
theorem issues_answered :
    (answered fresh op b).Issues bucketId account g ↔
      op = .grantAccess bucketId account ∧ (b.grantAccess fresh bucketId account).1 = .ok g := by
  unfold Issues answered
  constructor
  · intro same
    obtain ⟨rfl, result⟩ := Answered.mk.inj same
    exact ⟨rfl, eq_of_heq result⟩
  · rintro ⟨rfl, result⟩
    exact congrArg _ result

/-- What is issued belongs to the account that is derived from the name. -/
theorem accountId_of_issued (issued : (b.grantAccess fresh bucketId account).1 = .ok g) :
    g.accountId = accountIdOf account := by
  unfold grantAccess at issued
  split at issued
  · dsimp only at issued
    split at issued
    · rw [← Except.ok.inj issued]
    · rw [← Except.ok.inj issued]
  · cases issued

/-- A grant is given under the identifier of an account if there is the bucket, whatever is issued
for it. -/
theorem grants_answered :
    (answered fresh op b).Grants bucketId accountId ↔
      (∃ account, op = .grantAccess bucketId account ∧ accountIdOf account = accountId) ∧
        b.hasBucket bucketId = true := by
  unfold Grants
  simp only [issues_answered]
  constructor
  · rintro ⟨account, g, ⟨rfl, issued⟩, rfl⟩
    have there : b.Allows (.grantAccess bucketId account) := succeeds_answered.1 ⟨g, issued⟩
    exact ⟨⟨account, rfl, (accountId_of_issued issued).symm⟩, there⟩
  · rintro ⟨⟨account, rfl, rfl⟩, there⟩
    have allowed : b.Allows (.grantAccess bucketId account) := there
    obtain ⟨g, issued⟩ := run_of_allows fresh allowed
    exact ⟨account, g, ⟨rfl, issued⟩, accountId_of_issued issued⟩

/-! ## What an operation leaves behind -/

/-- **Buckets after an operation**: those that it created, and those that were there and that it did
not delete. -/
theorem hasBucket_run :
    (run fresh op b).2.hasBucket bucketId = true ↔
      (∃ name, bucketId = bucketIdOf name ∧ (answered fresh op b).Creates name) ∨
        (¬ (answered fresh op b).Deletes bucketId ∧ b.hasBucket bucketId = true) := by
  simp only [creates_answered, deletes_answered]
  cases op with
  | createBucket name region =>
    have created : (∃ name', bucketId = bucketIdOf name' ∧
        (∃ r, Operation.createBucket name region = .createBucket name' r) ∧ name' ≠ "") ↔
          ¬ name = "" ∧ bucketId = bucketIdOf name := by
      constructor
      · rintro ⟨_, here, ⟨_, ⟨⟩⟩, named⟩
        exact ⟨named, here⟩
      · rintro ⟨named, here⟩
        exact ⟨name, here, ⟨region, rfl⟩, named⟩
    rw [created, or_comm]
    simp [run]
  | deleteBucket id region =>
    by_cases here : id = bucketId
    · subst here
      simp [run]
    · have other : ¬ bucketId = id := fun same => here same.symm
      simp [run, here, other]
  | grantAccess id account => simp [run]
  | revokeAccess id accountId => simp [run]

/-- **Grants after an operation**: those that it gave, and those that were there and that it did not
withdraw. -/
theorem hasGrant_run :
    (run fresh op b).2.hasGrant bucketId accountId = true ↔
      (answered fresh op b).Grants bucketId accountId ∨
        (¬ (answered fresh op b).Withdraws bucketId accountId ∧
          b.hasGrant bucketId accountId = true) := by
  unfold Withdraws
  simp only [grants_answered, revokes_answered, deletes_answered]
  cases op with
  | createBucket name region => simp [run]
  | deleteBucket id region =>
    by_cases here : id = bucketId
    · subst here
      simp [run]
    · have other : ¬ bucketId = id := fun same => here same.symm
      simp [run, here, other]
  | grantAccess id account =>
    by_cases here : id = bucketId
    · subst here
      have named : accountId = accountIdOf account ↔ accountIdOf account = accountId := eq_comm
      simp [run, named, and_comm]
    · have other : ¬ bucketId = id := fun same => here same.symm
      simp [run, here, other]
  | revokeAccess id account =>
    by_cases here : id = bucketId ∧ account = accountId
    · obtain ⟨rfl, rfl⟩ := here
      simp [run]
    · have other : ¬ (bucketId = id ∧ accountId = account) := by
        rintro ⟨rfl, rfl⟩
        exact here ⟨rfl, rfl⟩
      simp [run, here, other]

/-- Deleting a bucket leaves the grants on all others as they are. -/
theorem grants_deleteBucket_of_ne {other : String} (elsewhere : other ≠ bucketId)
    (accountId : String) :
    (b.deleteBucket bucketId).2.grants.get? (other, accountId) =
      b.grants.get? (other, accountId) := by
  unfold deleteBucket
  split
  · have kept : decide (other ≠ bucketId) = true := decide_eq_true elsewhere
    refine (Table.get?_filter (p := fun g : String × String => decide (g.1 ≠ bucketId))).trans ?_
    exact if_pos kept
  · rfl

/-- Revoking a grant leaves all others as they are. -/
theorem grants_revokeAccess_of_ne {other : String × String}
    (elsewhere : other ≠ (bucketId, accountId)) :
    (b.revokeAccess bucketId accountId).2.grants.get? other = b.grants.get? other := by
  unfold revokeAccess
  split
  · exact Table.get?_erase_of_ne _ elsewhere
  · rfl

/-- A grant that is not withdrawn keeps its key pair. -/
theorem grants_run_of_kept (kept : ¬ (answered fresh op b).Withdraws bucketId accountId)
    {credentials : Credentials} (there : b.grants.get? (bucketId, accountId) = some credentials) :
    (run fresh op b).2.grants.get? (bucketId, accountId) = some credentials := by
  unfold Withdraws at kept
  rw [revokes_answered, deletes_answered, not_or] at kept
  obtain ⟨unrevoked, undeleted⟩ := kept
  cases op with
  | createBucket name region =>
    simp only [run, createBucket]
    split
    · exact there
    · dsimp only
      split
      · exact there
      · exact there
  | deleteBucket id region =>
    by_cases here : bucketId = id
    · subst here
      have absent : ¬ b.hasBucket bucketId = true := fun found => undeleted ⟨⟨region, rfl⟩, found⟩
      rw [run, deleteBucket, if_neg absent]
      exact there
    · exact (grants_deleteBucket_of_ne here accountId).trans there
  | grantAccess id account =>
    simp only [run, grantAccess]
    split
    · split
      · exact there
      · rename_i missing
        have other : (bucketId, accountId) ≠ (id, accountIdOf account) := by
          intro same
          rw [← same, there] at missing
          cases missing
        exact (Table.get?_insert_of_ne _ _ other).trans there
    · exact there
  | revokeAccess id account =>
    have other : (bucketId, accountId) ≠ (id, account) := by
      rintro ⟨⟩
      exact unrevoked ⟨rfl, by simp [hasGrant, Table.contains, there]⟩
    exact (grants_revokeAccess_of_ne other).trans there

/-- No grant is listed twice. -/
theorem nodup_run (distinct : b.grants.keys.Nodup) : (run fresh op b).2.grants.keys.Nodup := by
  cases op with
  | createBucket name region =>
    simp only [run, createBucket]
    split
    · exact distinct
    · dsimp only
      split
      · exact distinct
      · exact distinct
  | deleteBucket id region =>
    simp only [run, deleteBucket]
    split
    · exact Table.nodup_keys_filter distinct
    · exact distinct
  | grantAccess id account =>
    simp only [run, grantAccess]
    split
    · split
      · exact distinct
      · exact Table.nodup_keys_insert _ _ _ distinct
    · exact distinct
  | revokeAccess id account =>
    simp only [run, revokeAccess]
    split
    · exact Table.nodup_keys_erase _ _ distinct
    · exact distinct

/-- A grant that is there is found, whatever key pair has been drawn. -/
theorem grantAccess_of_there (housed : b.hasBucket bucketId = true) {credentials : Credentials}
    (there : b.grants.get? (bucketId, accountIdOf account) = some credentials)
    (fresh : Credentials) :
    b.grantAccess fresh bucketId account = (.ok ⟨accountIdOf account, credentials⟩, b) := by
  rw [grantAccess, if_pos housed]
  simp only [there]

/-! ## Histories -/

/-- A backend and the calls that it has answered, the latest first. -/
structure Diary where
  /-- The backend. -/
  backend : InMemory := {}
  /-- The calls and their answers. -/
  history : List Answered := []

/-- A call is carried out and its answer noted. -/
def Diary.call (d : Diary) (c : Call) : Diary :=
  ⟨(run c.fresh c.op d.backend).2, answered c.fresh c.op d.backend :: d.history⟩

/-- The diary of a new backend after some calls. -/
def diary (calls : List Call) : Diary := calls.foldl Diary.call {}

/-- The tables of a backend agree with a history. -/
structure Recalls (b : InMemory) (h : List Answered) : Prop where
  /-- There are the buckets that were created and not deleted since. -/
  bucket : ∀ bucketId, b.hasBucket bucketId = true ↔
    ∃ name, name ≠ "" ∧ bucketId = bucketIdOf name ∧ Since (Creates name) (Deletes bucketId) h
  /-- There are the grants that were given and not withdrawn since. -/
  grant : ∀ bucketId accountId, b.hasGrant bucketId accountId = true ↔
    Since (Grants bucketId accountId) (Withdraws bucketId accountId) h
  /-- Every grant is on a bucket. -/
  housed : ∀ bucketId accountId,
    b.hasGrant bucketId accountId = true → b.hasBucket bucketId = true
  /-- No grant is listed twice. -/
  distinct : b.grants.keys.Nodup
  /-- A grant has the key pair that was issued for it. -/
  issued : ∀ bucketId account g,
    Since (Issues bucketId account g) (Withdraws bucketId g.accountId) h →
      g.accountId = accountIdOf account ∧
        b.grants.get? (bucketId, g.accountId) = some g.credentials

/-- Empty tables tell of an empty history. -/
theorem recalls_nothing : Recalls {} [] where
  bucket bucketId := by simp [hasBucket, Table.contains, Table.get?]
  grant bucketId accountId := by simp [hasGrant, Table.contains, Table.get?]
  housed bucketId accountId there := by simp [hasGrant, Table.contains, Table.get?] at there
  distinct := List.nodup_nil
  issued bucketId account g since := absurd since not_since_nil

/-- Tables that agree with a history agree with it after one more call. -/
theorem Recalls.call {h : List Answered} (recalls : Recalls b h) (fresh : Credentials)
    (op : Operation) : Recalls (run fresh op b).2 (answered fresh op b :: h) where
  bucket bucketId := by
    simp only [since_cons]
    rw [hasBucket_run, recalls.bucket]
    constructor
    · rintro (⟨name, here, created⟩ | ⟨kept, name, named, here, since⟩)
      · exact ⟨name, (creates_answered.1 created).2, here, Or.inl created⟩
      · exact ⟨name, named, here, Or.inr ⟨kept, since⟩⟩
    · rintro ⟨name, named, here, created | ⟨kept, since⟩⟩
      · exact Or.inl ⟨name, here, created⟩
      · exact Or.inr ⟨kept, name, named, here, since⟩
  grant bucketId accountId := by
    rw [since_cons, hasGrant_run, recalls.grant]
  housed bucketId accountId there := by
    rw [hasGrant_run] at there
    rw [hasBucket_run]
    rcases there with given | ⟨kept, earlier⟩
    · obtain ⟨⟨account, rfl, -⟩, there⟩ := grants_answered.1 given
      refine Or.inr ⟨?_, there⟩
      rintro ⟨⟨_, ⟨⟩⟩, -⟩
    · exact Or.inr ⟨fun deleted => kept (Or.inr deleted), recalls.housed _ _ earlier⟩
  distinct := nodup_run recalls.distinct
  issued bucketId account g since := by
    rw [since_cons] at since
    rcases since with issued | ⟨kept, earlier⟩
    · obtain ⟨rfl, given⟩ := issues_answered.1 issued
      exact ⟨accountId_of_issued given, grants_grantAccess given⟩
    · obtain ⟨derived, there⟩ := recalls.issued _ _ _ earlier
      exact ⟨derived, grants_run_of_kept kept there⟩

/-- The tables of a new backend agree with the calls that it has answered. -/
theorem recalls_diary (calls : List Call) :
    Recalls (diary calls).backend (diary calls).history := by
  suffices run : ∀ d : Diary, Recalls d.backend d.history →
      Recalls (calls.foldl Diary.call d).backend (calls.foldl Diary.call d).history from
    run {} recalls_nothing
  induction calls with
  | nil => exact fun d recalls => recalls
  | cons c calls ih => exact fun d recalls => ih (d.call c) (recalls.call c.fresh c.op)

/-- An operation takes grants on a bucket away: it deletes the bucket, or revokes one of them. -/
def TakesFrom (bucketId : String) : Operation → Prop
  | .deleteBucket id _ => id = bucketId
  | .revokeAccess id _ => id = bucketId
  | _ => False

/-- **The tables tell the history.**  After any calls, starting with a backend that has nothing:

* there is a bucket exactly if it is called `fake-` and a name that is not empty, and one of that
  name was created and it has not been deleted since;
* there is a grant exactly if it was given and neither it was revoked nor its bucket deleted since;
  its bucket then exists, and so many grants are counted;
* who asks for such a grant again is given what was issued for it, and nothing changes;
* deleting a bucket and revoking a grant leave the grants on all other buckets as they are;
* a call that fails changes nothing. -/
theorem tables_tell_history (calls : List Call) :
    let b := (diary calls).backend
    let h := (diary calls).history
    (∀ bucketId, b.hasBucket bucketId = true ↔
      ∃ name, name ≠ "" ∧ bucketId = "fake-" ++ name ∧
        Since (Creates name) (Deletes bucketId) h) ∧
    (∀ bucketId accountId, b.hasGrant bucketId accountId = true ↔
      Since (Grants bucketId accountId) (Withdraws bucketId accountId) h) ∧
    (∀ bucketId accountId,
      b.hasGrant bucketId accountId = true → b.hasBucket bucketId = true) ∧
    (∃ granted : List (String × String), granted.Nodup ∧
      (∀ g, g ∈ granted ↔ Since (Grants g.1 g.2) (Withdraws g.1 g.2) h) ∧
      b.grantCount = granted.length) ∧
    (∀ bucketId account g,
      Since (Issues bucketId account g) (Withdraws bucketId g.accountId) h →
        g.accountId = account ++ "-id" ∧
          ∀ fresh, b.grantAccess fresh bucketId account = (.ok g, b)) ∧
    (∀ bucketId op, TakesFrom bucketId op → ∀ fresh other, other ≠ bucketId →
      ∀ accountId, (run fresh op b).2.grants.get? (other, accountId) =
        b.grants.get? (other, accountId)) ∧
    (∀ fresh op e, (run fresh op b).1 = .error e → (run fresh op b).2 = b) := by
  intro b h
  have recalls : Recalls b h := recalls_diary calls
  refine ⟨recalls.bucket, recalls.grant, recalls.housed, ?_, ?_, ?_, ?_⟩
  · refine ⟨b.grants.keys, recalls.distinct, ?_, ?_⟩
    · intro g
      exact (Table.mem_keys _ g).trans (recalls.grant g.1 g.2)
    · exact (List.length_map _).symm
  · intro bucketId account g since
    obtain ⟨derived, there⟩ := recalls.issued bucketId account g since
    refine ⟨derived, ?_⟩
    intro fresh
    have granted : b.hasGrant bucketId g.accountId = true := by
      simp [hasGrant, Table.contains, there]
    obtain ⟨accountId, credentials⟩ := g
    obtain rfl : accountId = accountIdOf account := derived
    exact grantAccess_of_there (recalls.housed _ _ granted) there fresh
  · intro bucketId op takes fresh other elsewhere accountId
    cases op with
    | deleteBucket id region =>
      obtain rfl : id = bucketId := takes
      exact grants_deleteBucket_of_ne elsewhere accountId
    | revokeAccess id account =>
      obtain rfl : id = bucketId := takes
      refine grants_revokeAccess_of_ne ?_
      rintro ⟨⟩
      exact elsewhere rfl
    | createBucket name region => exact takes.elim
    | grantAccess id account => exact takes.elim
  · intro fresh op e failed
    exact run_of_error failed

/-- Two buckets are created and granted to one account; the first is deleted, and then a grant on it
is revoked that is no longer there. -/
def twoBuckets : List Call :=
  [⟨.createBucket "a" "r1", default⟩, ⟨.createBucket "b" "r1", default⟩,
   ⟨.grantAccess "fake-a" "c", ⟨"AK1", "SK1"⟩⟩, ⟨.grantAccess "fake-b" "c", ⟨"AK2", "SK2"⟩⟩,
   ⟨.deleteBucket "fake-a" "r2", default⟩, ⟨.revokeAccess "fake-a" "c-id", default⟩]

/-- The grant on the second bucket is still there, and is found with the key pair that was issued
for it.  It would survive another attempt to delete the first bucket, and that attempt would change
nothing. -/
theorem tables_tell_history_of_two :
    (diary twoBuckets).backend.hasBucket "fake-a" = false ∧
    (diary twoBuckets).backend.hasGrant "fake-b" "c-id" = true ∧
    (diary twoBuckets).backend.hasBucket "fake-b" = true ∧
    (diary twoBuckets).backend.grantAccess ⟨"AK3", "SK3"⟩ "fake-b" "c" =
      (.ok ⟨"c-id", ⟨"AK2", "SK2"⟩⟩, (diary twoBuckets).backend) ∧
    (run default (.deleteBucket "fake-a" "r1") (diary twoBuckets).backend).2.grants.get?
        ("fake-b", "c-id") = (diary twoBuckets).backend.grants.get? ("fake-b", "c-id") ∧
    (run default (.deleteBucket "fake-a" "r1") (diary twoBuckets).backend).2 =
      (diary twoBuckets).backend := by
  obtain ⟨buckets, -, housed, -, again, apart, failed⟩ := tables_tell_history twoBuckets
  have granted : (diary twoBuckets).backend.hasGrant "fake-b" "c-id" = true := by decide
  have gone : (diary twoBuckets).backend.hasBucket "fake-a" = false := by decide
  have since : Since (Issues "fake-b" "c" ⟨"c-id", ⟨"AK2", "SK2"⟩⟩) (Withdraws "fake-b" "c-id")
      (diary twoBuckets).history := by
    refine ⟨[_, _], _, [_, _, _], rfl, rfl, ?_⟩
    simp [Withdraws, revokes_answered, deletes_answered]
  refine ⟨gone, granted, housed _ _ granted, (again _ _ _ since).2 _, ?_, ?_⟩
  · exact apart "fake-a" (.deleteBucket "fake-a" "r1") rfl default "fake-b" (by decide) "c-id"
  · exact failed default _ (.missing "bucket" "fake-a") rfl

end Backend.InMemory

end BucketProvisioning
