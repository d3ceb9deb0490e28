import BucketProvisioning.Proofs.Engine.Rehearsal

/-!
# Which buckets are deleted

A bucket that is deleted by mistake is lost, so a deletion has to be *due*: it is that of a bucket
that was created for a certain claim and recorded in its status, the policy is to delete it, the
claim was seen at the key and has departed since, and nothing was deleted for it before.

`deletions_are_due` says this of every deletion in every run over an API server that had no status
stored at first, and that nobody else's bucket is affected.
-/

set_option autoImplicit false

namespace BucketProvisioning.Engine

open BucketProvisioning BucketProvisioning.Reconcile BucketProvisioning.Backend
open BucketProvisioning.Queue
open BucketProvisioning.Resource

variable {backends : Registry} {notes : List (Note BucketClaim)}

/-- The call that deletes a bucket. -/
def deletion (backendType bucketId region : String) : Call :=
  .backend backendType (.deleteBucket bucketId region)

/-- A bucket was created for the claim with a unique identifier that lives at a key, and right
after that a status was written that names it, both in an attempt that had found the claim without
a bucket. -/
def Provided (k : ObjectKey) (u : String) (status : ClaimStatus) (notes : List (Note BucketClaim)) :
    Prop :=
  ∃ later live reply on earlier calls,
    notes = later ++ .called k ⟨.writeClaimStatus live status, reply⟩ on :: earlier ∧
    (attemptAt k on earlier).found = some live ∧ Object.uid? live = some u ∧
    live.isProvisioned = false ∧
    (attemptAt k on earlier).calls =
      ⟨.backend status.backendType (.createBucket u status.region), some (.ok status.bucketId)⟩ ::
        calls

/-- The deletion of a bucket for a key is due: it is the bucket of the claim with a unique
identifier, whose status is `status`. -/
structure Due (server : ApiServer BucketClaim) (k : ObjectKey) (u : String) (status : ClaimStatus)
    (notes : List (Note BucketClaim)) : Prop where
  /-- The bucket was created for the claim, and the status was written. -/
  provided : Provided k u status notes
  /-- The server has stored the status as that of the claim. -/
  stored : ∃ claim ∈ server.past, ObjectKey.ofObject? claim = some k ∧
    Object.uid? claim = some u ∧ claim.status = some status
  /-- The policy is to delete the bucket. -/
  policy : status.deletionPolicy = .delete
  /-- The last look at the key, into a complete cache, found nothing or another claim, and an
  earlier look had shown the claim. -/
  departed : ∃ later found initial earlier, notes = later ++ .lookedUp k found initial :: earlier ∧
    (∀ found initial, .lookedUp k found initial ∉ later) ∧ ¬ Shows u found ∧ Saw k u earlier
  /-- Nothing has been deleted for the claim yet. -/
  first : ∀ k' t b r reply old, .called k' ⟨deletion t b r, reply⟩ (some old) ∈ notes →
    Object.uid? old ≠ some u
  /-- Whatever claim has a status that names the bucket is this claim, and shows this status. -/
  own : ∀ claim ∈ server.past, ∀ s, claim.status = some s → s.provisioned = true →
    s.backendType = status.backendType → s.bucketId = status.bucketId →
      Object.uid? claim = some u ∧ s = status
  /-- No claim of which the last look showed a status that names the bucket is live. -/
  apart : ∀ k' claim s, (attemptAt k' none notes).found = some claim → claim.status = some s →
    s.provisioned = true → s.backendType = status.backendType → s.bucketId ≠ status.bucketId

/-- Backends give different buckets different identifiers. -/
def Distinct (notes : List (Note BucketClaim)) : Prop :=
  ∀ k k' t name name' r r' b on on',
    .called k ⟨.backend t (.createBucket name r), some (.ok b)⟩ on ∈ notes →
    .called k' ⟨.backend t (.createBucket name' r'), some (.ok b)⟩ on' ∈ notes → name = name'

/-- A bucket that was provided was created by a call that is noted. -/
theorem Provided.created {k : ObjectKey} {u : String} {status : ClaimStatus}
    (h : Provided k u status notes) :
    ∃ on, .called k ⟨.backend status.backendType (.createBucket u status.region),
      some (.ok status.bucketId)⟩ on ∈ notes := by
  obtain ⟨later, live, reply, on, earlier, calls, rfl, -, -, -, called⟩ := h
  obtain ⟨on', mem⟩ := calls_attemptAt (called ▸ List.mem_cons_self)
  exact ⟨on', List.mem_append_right _ (List.mem_cons_of_mem _ mem)⟩

/-- What was written as the status of a claim names a bucket that was created for it. -/
theorem provided_of_written {claim : BucketClaim} {status : ClaimStatus}
    (h : Written backends notes claim) (is : claim.status = some status) :
    ∃ k u, ObjectKey.ofObject? claim = some k ∧ Object.uid? claim = some u ∧
      Provided k u status notes ∧ backends.serves status.backendType = true := by
  obtain ⟨k, later, ⟨c, reply⟩, on, earlier, live, status', rfl, written, found, -, tends, place,
    same, is'⟩ := h
  obtain rfl : status = status' := Option.some.inj (is.symm.trans is')
  -- only a call of one form writes the status of a claim
  cases c <;> simp only [Managed.written?, Claims.written?, Option.some.injEq, Prod.mk.injEq,
    reduceCtorEq] at written
  obtain ⟨rfl, rfl⟩ := written
  obtain ⟨-, unbuilt, -, served, u, calls, named, called⟩ := tends
  exact ⟨k, u, place, same.trans named,
    ⟨later, _, reply, on, earlier, calls, rfl, found, named, unbuilt, called⟩, served⟩

/-- A deletion that is made to remove the bucket of a claim is that of the bucket which the status of
the claim names. -/
theorem removal_of_deletion {k : ObjectKey} {claim : BucketClaim} {t b r : String}
    (h : deletion t b r ∈ removal backends k claim) :
    ∃ status, claim.status = some status ∧ status.provisioned = true ∧
      status.deletionPolicy = .delete ∧ status.backendType = t ∧ status.bucketId = b ∧
      status.region = r := by
  obtain ⟨status, is, built, policy, -, same⟩ := Claims.mem_removal.1 h
  simp only [deletion, Call.backend.injEq, Operation.deleteBucket.injEq] at same
  exact ⟨status, is, built, policy, same.1.symm, same.2.1.symm, same.2.2.symm⟩

/-- No attempt at a live claim deletes a bucket. -/
theorem untended_deletion (t b r : String) : Untended BucketClaim backends (deletion t b r) :=
  fun _ _ _ => id

section claims

variable {past : List BucketClaim} {s : ApiServer BucketClaim} {claim claim' : BucketClaim}
variable {status status' : ClaimStatus}

/-- What is said of a claim with a status that says so has been built. -/
theorem isBuilt_of_provisioned (is : claim.status = some status)
    (provisioned : status.provisioned = true) : isBuilt claim = true := by
  simp [isBuilt, Managed.status?, Managed.built, is, provisioned]

/-- Claims of which the statuses name one bucket are one claim, with one status. -/
theorem same_of_bucket (accounted : Accounted backends past s notes)
    (blank : ∀ claim ∈ past, isBuilt claim = false) (distinct : Distinct notes)
    (mem : claim ∈ s.past) (is : claim.status = some status) (built : status.provisioned = true)
    (mem' : claim' ∈ s.past) (is' : claim'.status = some status')
    (built' : status'.provisioned = true) (sameType : status'.backendType = status.backendType)
    (sameBucket : status'.bucketId = status.bucketId) :
    Object.uid? claim' = Object.uid? claim ∧ status' = status := by
  have whole := isBuilt_of_provisioned is built
  have whole' := isBuilt_of_provisioned is' built'
  obtain ⟨k, u, -, named, provided, -⟩ :=
    provided_of_written (accounted.written_of_blank blank mem whole) is
  obtain ⟨k', u', -, named', provided', -⟩ :=
    provided_of_written (accounted.written_of_blank blank mem' whole') is'
  obtain ⟨on, created⟩ := provided.created
  obtain ⟨on', created'⟩ := provided'.created
  rw [sameType, sameBucket] at created'
  obtain rfl := distinct k' k _ u' u _ _ _ on' on created' created
  have same := named'.trans named.symm
  refine ⟨same, Option.some.inj ?_⟩
  rw [← is, ← is']
  exact accounted.sound.statuses claim' mem' claim mem same whole' whole

end claims

/-- A deletion that is noted is due. -/
theorem Story.due {start o : ApiServer BucketClaim} {records : Records BucketClaim}
    {later earlier : List (Note BucketClaim)} {k : ObjectKey} {t b r : String}
    {reply : Option (Except Failure (deletion t b r).Result)} {on : Option BucketClaim}
    (story : Story (apiServer BucketClaim) backends start records
      (later ++ .called k ⟨deletion t b r, reply⟩ on :: earlier) o)
    (sound : start.Sound) (blank : ∀ claim ∈ start.past, isBuilt claim = false)
    (noReturn : NoReturn (later ++ .called k ⟨deletion t b r, reply⟩ on :: earlier))
    (distinct : Distinct (later ++ .called k ⟨deletion t b r, reply⟩ on :: earlier)) :
    ∃ claim u status, on = some claim ∧ Object.uid? claim = some u ∧ claim.status = some status ∧
      status.backendType = t ∧ status.bucketId = b ∧ status.region = r ∧
      Due o k u status earlier := by
  have accounted := story.accounted apiServer_hosts sound
  obtain ⟨claim, u, departing⟩ := story.departing (untended_deletion t b r)
  obtain ⟨status, is, built, delete, rfl, rfl, rfl⟩ := removal_of_deletion departing.removes
  have known : claim ∈ o.past := accounted.noted ((departing.noted.cons).append later)
  have own : ∀ claim' ∈ o.past, ∀ s, claim'.status = some s → s.provisioned = true →
      s.backendType = status.backendType → s.bucketId = status.bucketId →
        Object.uid? claim' = some u ∧ s = status := by
    intro claim' mem' s is' built' sameType sameBucket
    rw [← departing.named]
    exact same_of_bucket accounted blank distinct known is built mem' is' built' sameType sameBucket
  obtain ⟨_, _, _, past, -⟩ := story.before
  have before := past.accounted apiServer_hosts sound
  refine ⟨claim, u, status, departing.is, departing.named, is, rfl, rfl, rfl, ?_,
    ⟨claim, known, departing.place, departing.named, is⟩, delete,
    last_look departing.saw departing.gone, ?_, own, ?_⟩
  · obtain ⟨k', u', place, named, provided, -⟩ := provided_of_written
      (before.written_of_blank blank (before.noted departing.noted) departing.built) is
    obtain rfl := Option.some.inj (departing.place.symm.trans place)
    obtain rfl := Option.some.inj (departing.named.symm.trans named)
    exact provided
  · intro k' t b r reply' old mem named
    obtain rfl := departing.is
    -- the only call that removes something is the very same one
    obtain ⟨rfl, removes, other⟩ := story.once apiServer_hosts sound noReturn
      (untended_deletion _ _ _) (untended_deletion t b r) mem (named.trans departing.named.symm)
    obtain ⟨status', is', -, -, rfl, rfl, rfl⟩ := removal_of_deletion removes
    obtain rfl := Option.some.inj (is.symm.trans is')
    exact other rfl
  · intro k' claim' s found is' built' sameType sameBucket
    obtain ⟨initial, mem'⟩ := found_attemptAt found
    obtain ⟨-, place'⟩ := before.attempt_found found
    have known' : claim' ∈ o.past :=
      accounted.noted ((Noted.cons (Or.inl ⟨initial, mem'⟩)).append later)
    obtain ⟨named', -⟩ := own claim' known' s is' built' sameType sameBucket
    obtain rfl : k' = k := Option.some.inj ((place'.symm.trans (accounted.sound.keys claim' known'
      claim known (named'.trans departing.named.symm))).trans departing.place)
    refine departing.gone ?_
    rw [found_attemptAt_record on]
    exact Option.bind_eq_some_iff.2 ⟨claim', found, named'⟩

/-- **Only deletions that are due are made.**  In every run over an API server that has no status
stored at first, as long as no claim comes back to a key after it has departed and different
buckets have different identifiers: whenever a bucket is deleted, this is done for a key and the
claim on record for it, the bucket is the one that the status of this claim names, and its deletion
is due. -/
theorem deletions_are_due (backends : Registry) (policy : RetryPolicy) (count : Nat)
    {start o : ApiServer BucketClaim} {d d₁ : Desk BucketClaim} {h : Happening BucketClaim}
    {later earlier : Trace BucketClaim} {text t b r : String}
    {reply : Option (Except Failure (deletion t b r).Result)}
    (sound : start.Sound) (blank : ∀ claim ∈ start.past, claim.status = none)
    (run : Run (apiServer BucketClaim) (Claims.reconcile backends) count (.opening policy {}) start
      d (later ++ (d₁, h) :: earlier) o)
    (noReturn : NoReturn (Trace.notes (later ++ (d₁, h) :: earlier)))
    (distinct : Distinct (Trace.notes (later ++ (d₁, h) :: earlier)))
    (deletes : d₁.made? h = some (text, ⟨deletion t b r, reply⟩)) :
    ∃ k claim u status, ObjectKey.parse text = .ok k ∧ d₁.record? k = some claim ∧
      Object.uid? claim = some u ∧ claim.status = some status ∧ status.backendType = t ∧
      status.bucketId = b ∧ status.region = r ∧ Due o k u status earlier.notes := by
  have story := story_of_run (claims_conduct backends) run
  obtain ⟨k, read, split⟩ := noted_of_made (claims_conduct backends) run deletes
  rw [split] at story noReturn distinct
  obtain ⟨claim, u, status, due⟩ := story.due sound
    (fun claim mem => by simp [isBuilt, Managed.status?, blank claim mem]) noReturn distinct
  exact ⟨k, claim, u, status, read, due⟩

/-- The claim that is provisioned once and vanishes does not come back. -/
theorem noReturn_newClaimNotes : NoReturn newClaimNotes :=
  noReturn_of_once (by simp +contextual)

/-- Only one bucket is created there, so no two are confused. -/
theorem distinct_newClaimNotes : Distinct newClaimNotes := by
  intro k k' t name name' r r' b on on' mem mem'
  simp [newClaimNotes] at mem mem'
  rw [mem.2.1.1.2.1, mem'.2.1.1.2.1]

/-- The bucket of a claim that was created and has vanished is deleted, and this is due. -/
theorem deletion_is_due_of_vanished : ∃ d s later d₁ h earlier reply,
    (ApiServer.keeping (.namespaced "n" "a") newClaim).Sound ∧ newClaim.status = none ∧
    Run (apiServer BucketClaim) (Claims.reconcile oneType) 1 (.opening {} {})
      (.keeping (.namespaced "n" "a") newClaim) d (later ++ (d₁, h) :: earlier) s ∧
    NoReturn (Trace.notes (later ++ (d₁, h) :: earlier)) ∧
    Distinct (Trace.notes (later ++ (d₁, h) :: earlier)) ∧
    d₁.made? h = some ("n/a", ⟨deletion "fake" "fake-u" "", reply⟩) ∧
    ∃ claim u status, d₁.record? (.namespaced "n" "a") = some claim ∧
      claim.status = some status ∧ Due s (.namespaced "n" "a") u status (Trace.notes earlier) := by
  obtain ⟨d, trace, p, run, notes, -⟩ := run_newClaim (fun _ => False) (fun _ => False)
  have sound : (ApiServer.keeping (.namespaced "n" "a") newClaim).Sound :=
    ApiServer.keeping_sound (by rfl) rfl (Or.inl rfl)
  have blank : ∀ claim ∈ (ApiServer.keeping (.namespaced "n" "a") newClaim).past,
      claim.status = none := by
    simp [ApiServer.keeping, ApiServer.put]; rfl
  have noted : .called (.namespaced "n" "a") ⟨deletion "fake" "fake-u" "", some (.ok ())⟩
      (some (Plant.withClaimStatus newClaim newClaimStatus)) ∈ trace.notes := by
    rw [notes]
    simp [newClaimNotes, deletion]
  obtain ⟨later, d₁, h, earlier, text, rfl, made, read, -⟩ := made_of_noted noted
  replace run := run.hosted plant_hosts
  have noReturn := notes ▸ noReturn_newClaimNotes
  have distinct := notes ▸ distinct_newClaimNotes
  obtain ⟨k, claim, u, status, read', is, named, has, -, -, -, due⟩ :=
    deletions_are_due oneType {} 1 sound blank run noReturn distinct made
  obtain rfl := Except.ok.inj (read.symm.trans read')
  obtain rfl := ObjectKey.text_of_parse read
  exact ⟨d, _, later, d₁, h, earlier, _, sound, rfl, run, noReturn, distinct, made, claim, u, status,
    is, has, due⟩

end BucketProvisioning.Engine
