import BucketProvisioning.Proofs.Engine.Deletion

/-!
# What is left behind at the backends

A key is *at rest* if nobody is going to look at it: it is not dirty, no worker holds it, and it is
not about to be queued, while the queue is open.  If there is no object at a key at rest, every
object of that key of which the operator knew that everything had been built for it is disposed of
(`disposed_of_run`).  So on backends on which deletions and revocations succeed nothing is left
behind that such an object's status names; `nothing_left_at_backends` says what that means for
buckets and for grants.

The operator knows of a status if its write was confirmed, and also if it was not but a reconcile
has succeeded that found the object with the status.  What it never came to know of stays behind:
`bucket_left_after_refusal` is a run in which the write of the status is refused and the claim
vanishes before the next attempt.
-/

set_option autoImplicit false
set_option linter.unusedSectionVars false

namespace BucketProvisioning.Engine

open BucketProvisioning BucketProvisioning.Reconcile BucketProvisioning.Backend
open BucketProvisioning.Queue
open BucketProvisioning.Resource

section kinds

variable {α ω : Type} [Object α] [Managed α] {O : Outside α ω} {backends : Registry}
variable {reconcile : String → Program α (Except Failure Unit)} {count : Nat}

/-! ## Keys at rest -/

/-- Nobody is going to look at a key. -/
structure Desk.AtRest (d : Desk α) (k : ObjectKey) : Prop where
  /-- The queue is open. -/
  opened : d.queue.keys.shuttingDown = false
  /-- The key is not dirty. -/
  clean : k.text ∉ d.queue.keys.dirty
  /-- No worker holds it. -/
  idle : ∀ i, d.keyOf? i ≠ some k.text
  /-- It is not the next thing that the router queues. -/
  routed : d.routing.head? ≠ some (.enqueue k)

/-- At a quiet desk every key is at rest. -/
theorem Desk.atRest_of_isQuiet {d : Desk α} (quiet : d.isQuiet = true) (k : ObjectKey) :
    d.AtRest k := by
  simp only [isQuiet, Bool.and_eq_true, Bool.not_eq_true', List.isEmpty_iff, List.all_eq_true,
    Option.isNone_iff_eq_none] at quiet
  obtain ⟨⟨⟨⟨opened, clean⟩, -⟩, routed⟩, free⟩ := quiet
  refine ⟨opened, by simp [clean], fun i holds => ?_, by simp [routed]⟩
  obtain ⟨w, is, holds⟩ := Option.bind_eq_some_iff.1 holds
  simp [free w (List.mem_of_getElem? is)] at holds

/-- A look is noted as it is seen, and nothing else is either noted or seen as a look. -/
theorem Desk.looks_agree {d : Desk α} (exclusive : d.Exclusive) (h : Happening α) :
    (∃ k found, d.note? h = some (.lookedUp k found (d.record? k)) ∧
      d.sight? h = some (.lookedUp k found)) ∨
    ((∀ k found initial, d.note? h ≠ some (.lookedUp k found initial)) ∧
      ∀ k found, d.sight? h ≠ some (.lookedUp k found)) := by
  by_cases looks : ∃ i reply text k next, h = .move (.work i reply) ∧
      d.worker? i = some (.busy text (.ask (.store (.lookup k)) next))
  · obtain ⟨i, reply, text, k, next, rfl, was⟩ := looks
    have sync := exclusive.synced (ne_nil_of_worker was)
    have found : d.stores.cache.lookup k = .ok (d.stores.cache.objects.get? k) :=
      Cache.lookup_of_synced sync k
    exact Or.inl ⟨k, d.stores.cache.objects.get? k,
      by simp [note?, made?, was, found, Except.toOption], by simp [sight?, was, Worker.wanted?]⟩
  · refine Or.inr ⟨fun k found initial is => ?_, fun k found is => ?_⟩
    · unfold note? at is
      split at is
      · simp at is
      · split at is
        · exact looks ⟨_, _, _, _, _, rfl, ‹_›⟩
        · simp at is
        · simp at is
      · simp at is
    · unfold sight? at is
      split at is
      · obtain ⟨_, -, same⟩ := Option.map_eq_some_iff.1 is
        simp at same
      · rename_i i reply
        simp only [Option.map_eq_some_iff, Option.bind_eq_some_iff] at is
        obtain ⟨k', ⟨w, was, wanted⟩, -⟩ := is
        unfold Worker.wanted? at wanted
        split at wanted
        · exact looks ⟨i, reply, _, _, _, rfl, was⟩
        · simp at wanted
      · simp at is

/-- What the latest attempt at a key found is what was last seen of it. -/
theorem found_eq_lastLive {trace : Trace α} (exclusive : ∀ e ∈ trace, e.1.Exclusive)
    (k : ObjectKey) (record : Option α) :
    (attemptAt k record trace.notes).found = lastLive k trace.sights := by
  induction trace with
  | nil => rfl
  | cons e trace ih =>
    obtain ⟨d, h⟩ := e
    rw [List.forall_mem_cons] at exclusive
    specialize ih exclusive.2
    rw [notes_cons, sights_cons]
    rcases d.looks_agree exclusive.1 h with ⟨k', found, noted, seen⟩ | ⟨unnoted, unseen⟩
    · rw [noted, seen]
      by_cases here : k' = k
      · simp [attemptAt, lastLive, lastFound, here]
      · simpa [attemptAt, lastLive, lastFound, here] using ih
    · trans (attemptAt k record (Trace.notes trace)).found
      · cases is : d.note? h with
        | none => rfl
        | some note =>
          exact (found_attemptAt_cons fun f i same => unnoted k f i (same ▸ is)).1
      · rw [ih]
        cases is : d.sight? h with
        | none => rfl
        | some s =>
          cases s with
          | changed k' => rfl
          | lookedUp k' found => exact absurd is (unseen k' found)

section run

variable {policy : RetryPolicy} {start o : ω} {d : Desk α} {trace : Trace α} {k : ObjectKey}

/-- What the latest attempt at a key at rest found is still cached. -/
theorem Desk.AtRest.cached (rest : d.AtRest k) (conducts : Conducts backends reconcile)
    (run : Run O reconcile count (.opening policy {}) start d trace o) {record : Option α} {live : α}
    (found : (attemptAt k record trace.notes).found = some live) :
    d.stores.cache.objects.get? k = some live := by
  have looksUp : LooksUp reconcile := fun text k read =>
    (conducts.conducts text k read).imp fun _ => And.left
  have exclusive : ∀ e ∈ trace, e.1.Exclusive := by
    intro e mem
    obtain ⟨later, earlier, rfl⟩ := List.append_of_mem mem
    obtain ⟨_, before⟩ := run.before
    exact (upheld_of_run conducts before).order
  have watched := watched_of_course looksUp (run.course rest.opened)
  obtain ⟨initial, mem⟩ := found_attemptAt found
  have wellFormed := ((story_of_run conducts run).found mem).1
  rw [found_eq_lastLive exclusive] at found
  refine watched.found k _ (Option.join_eq_some_iff.1 found) fun missed => ?_
  rcases watched.awaited k wellFormed.slashFree missed with dirty | ⟨i, w, is, holds, -⟩ | next
  · exact rest.clean dirty
  · exact rest.idle i ((keyOf?_of_worker is).trans holds)
  · exact rest.routed next

/-- The latest attempt at a key at rest is over. -/
theorem Desk.AtRest.rests (rest : d.AtRest k) (conducts : Conducts backends reconcile)
    (run : Run O reconcile count (.opening policy {}) start d trace o) :
    Rests (d.attempt trace.notes k) := by
  refine (upheld_of_run conducts run).guided.resting k fun i w text is begun read => ?_
  refine rest.idle i ?_
  rw [keyOf?_of_worker is, ObjectKey.text_of_parse read]
  exact Worker.key?_of_begun? begun

/-- **If there is no object at a key at rest, then every established object of the key is disposed
of.** -/
theorem disposed_of_run {server : ω → ApiServer α} (hosts : O.Hosts server)
    (conducts : Conducts backends reconcile) (sound : (server start).Sound)
    (run : Run O reconcile count (.opening policy {}) start d trace o) (rest : d.AtRest k)
    (absent : d.stores.cache.objects.get? k = none) {obj : α}
    (established : Established k obj trace.notes) : Disposed backends k obj trace.notes := by
  have story := story_of_run conducts run
  have gone : (attemptAt k (d.record? k) trace.notes).found = none := by
    cases found : (attemptAt k (d.record? k) trace.notes).found with
    | none => rfl
    | some live =>
      have cached := rest.cached conducts run found
      simp [absent] at cached
  rcases story.disposed hosts sound established with ⟨record, is, -⟩ | ⟨-, -, -, -, same⟩ | disposed
  · obtain ⟨-, live, there, -⟩ := (rest.rests conducts run).fits record (record_attemptAt.trans is)
    exact absurd (there.symm.trans gone) (by simp)
  · -- the attempt would have to have found the object
    have accounted := story.accounted hosts sound
    have identified := accounted.sound.identified obj (established.stored accounted).1
    rw [← same, gone] at identified
    simp at identified
  · exact disposed

end run

end kinds

/-! ## Buckets and grants -/

/-- A call removes something. -/
def Removes : Call → Prop
  | .backend _ (.deleteBucket _ _) => True
  | .backend _ (.revokeAccess _ _) => True
  | .deleteSecret _ _ => True
  | _ => False

/-- A call creates a bucket. -/
def Creates : Call → Prop
  | .backend _ (.createBucket _ _) => True
  | _ => False

/-- A call grants access. -/
def Grants : Call → Prop
  | .backend _ (.grantAccess _ _) => True
  | _ => False

variable {backends : Registry} {k : ObjectKey}

/-- The call that revokes a grant. -/
def revocation (backendType bucketId accountId : String) : Call :=
  .backend backendType (.revokeAccess bucketId accountId)

/-- No attempt at a live access revokes a grant. -/
theorem untended_revocation (t b a : String) :
    Untended BucketAccess backends (revocation t b a) :=
  fun _ _ _ => id

/-- No attempt at a live access deletes a secret. -/
theorem untended_deleteSecret (ns name : String) :
    Untended BucketAccess backends (.deleteSecret ns name) :=
  fun _ _ _ => id

/-- A backend names a bucket after what it was created for. -/
theorem bucketId_of_created {fails others : Call → Prop} {start p : Plant BucketClaim}
    {records : Records BucketClaim} {notes : List (Note BucketClaim)} {t name region b : String}
    {on : Option BucketClaim}
    (story : Story (plant BucketClaim fails others) backends start records notes p)
    (mem : .called k ⟨.backend t (.createBucket name region), some (.ok b)⟩ on ∈ notes) :
    b = InMemory.bucketIdOf name := by
  obtain ⟨later, earlier, rfl⟩ := List.append_of_mem mem
  obtain ⟨_, _, _, -, entry⟩ := story.before
  cases entry with
  | called k made kept may answered =>
    rcases answered.2 with ⟨result, ⟨fresh, is, -⟩, same | silent | ⟨-, e, failed⟩⟩ |
      ⟨-, silent | ⟨-, e, failed⟩⟩
    · obtain rfl := Option.some.inj same
      exact InMemory.eq_bucketIdOf is.symm
    all_goals simp at *

/-- The status of a claim says that its bucket exists and is to be deleted: a backend that is served
has created the bucket for the claim. -/
structure OwesDeletion (backends : Registry) (claim : BucketClaim) (u : String)
    (status : ClaimStatus) : Prop where
  /-- It is the status of the claim. -/
  is : claim.status = some status
  /-- The claim has the unique identifier. -/
  named : Object.uid? claim = some u
  /-- The bucket has been created. -/
  provisioned : status.provisioned = true
  /-- It is to be deleted. -/
  policy : status.deletionPolicy = .delete
  /-- The backend is served. -/
  served : backends.serves status.backendType = true
  /-- The bucket is the one that the backend creates for the claim. -/
  own : status.bucketId = InMemory.bucketIdOf u

/-- What a confirmed status says of its claim. -/
theorem owesDeletion_of_told {start p : Plant BucketClaim} {records : Records BucketClaim}
    {notes : List (Note BucketClaim)} {claim obj : BucketClaim} {status : ClaimStatus}
    {on : Option BucketClaim}
    (story : Story (plant BucketClaim (¬ Removes ·) (¬ Creates ·)) backends start records notes p)
    (mem : .called k ⟨.writeClaimStatus claim status, some (.ok obj)⟩ on ∈ notes)
    (policy : status.deletionPolicy = .delete) : ∃ u, OwesDeletion backends obj u status := by
  have written : obj.status = some status ∧ status.provisioned = true := by
    obtain ⟨later, earlier, rfl⟩ := List.append_of_mem mem
    obtain ⟨live, status', written, -, -, -, tends, -, -, is⟩ := story.writing rfl
    obtain ⟨-, rfl⟩ := Prod.mk.inj (Option.some.inj written)
    exact ⟨is, tends.2.2.1⟩
  obtain ⟨is, provisioned⟩ := written
  obtain ⟨k', u, -, named, provided, served⟩ :=
    provided_of_written (story.written_of_told mem rfl) is
  obtain ⟨on', created⟩ := provided.created
  exact ⟨u, is, named, provisioned, policy, served, bucketId_of_created story created⟩

/-- The bucket of a claim that is disposed of does not exist any more: it has been deleted, and only
the claim itself could have it created again. -/
theorem no_bucket_of_disposed {start p : Plant BucketClaim} {records : Records BucketClaim}
    {notes : List (Note BucketClaim)} {claim : BucketClaim} {u : String} {status : ClaimStatus}
    (sound : start.server.Sound)
    (story : Story (plant BucketClaim (¬ Removes ·) (¬ Creates ·)) backends start records notes p)
    (noReturn : NoReturn notes) (owes : OwesDeletion backends claim u status)
    (disposed : Disposed backends k claim notes) :
    (p.facilities.backends status.backendType).hasBucket status.bucketId = false := by
  obtain ⟨later, reply, on₁, earlier, u', rfl, named', departed⟩ :=
    disposed (deletion status.backendType status.bucketId status.region)
      (Claims.mem_removal.2
        ⟨status, owes.is, owes.provisioned, owes.policy, owes.served, rfl⟩)
  obtain rfl : u = u' := Option.some.inj (owes.named.symm.trans named')
  have deleted : ∀ f f' : Facilities, f.Answers (¬ Removes ·)
      (deletion status.backendType status.bucketId status.region) (some reply) f' →
      (f'.backends status.backendType).hasBucket status.bucketId = false := by
    intro f f' answered
    obtain ⟨fresh, -, rfl⟩ := answered.carried_of_sure (by simp [deletion, Removes])
    simp [InMemory.run]
  refine (story.lacking (fun f =>
    (f.backends status.backendType).hasBucket status.bucketId = false) deleted ?_).resolve_right ?_
  · intro f c result f' other carried absent
    by_contra there
    obtain ⟨name, region, rfl, -⟩ := carried.created absent (by simpa using there)
    exact other trivial
  · -- whoever creates a bucket of that name has found a claim that is gone for good
    rintro ⟨after, k₂, made, on₂, before, rfl, f, f', result, absent, there, carried⟩
    obtain ⟨name, region, same, sameBucket⟩ := carried.created absent (by simpa using there)
    obtain rfl := InMemory.bucketIdOf_injective (sameBucket.trans owes.own)
    rw [List.append_assoc, List.cons_append] at story noReturn
    obtain ⟨_, _, _, past, entry⟩ := story.before
    have untouched : NoReturn (before ++ .called k ⟨deletion status.backendType status.bucketId
      status.region, some reply⟩ on₁ :: earlier) := noReturn.of_append.tail
    refine past.never_again plant_hosts sound untouched (departed.cons.append before) k₂ none ?_
    cases entry with
    | called k made kept may answered =>
      have attends := may.resolve_left <| by
        rintro ⟨old, -, -, removes, -⟩
        obtain ⟨s, -, -, -, -, same'⟩ := Claims.mem_removal.1 removes
        simp [same] at same'
      obtain ⟨live, found, -, tends⟩ := attends
      rw [same] at tends
      rw [← found_attemptAt_record none] at found
      exact Option.bind_eq_some_iff.2 ⟨live, found, tends.2⟩

/-- Access to a bucket is granted anew after an access has departed and its grant was revoked, on
behalf of another access. -/
def Regranted (k : ObjectKey) (u : String) (status : AccessStatus)
    (notes : List (Note BucketAccess)) : Prop :=
  ∃ later k' account reply on earlier live,
    notes = later ++
      .called k' ⟨.backend status.backendType (.grantAccess status.bucketId account), reply⟩ on ::
        earlier ∧
    InMemory.accountIdOf account = status.accountId ∧
    (attemptAt k' on earlier).found = some live ∧ Object.uid? live ≠ some u ∧
    Departed k u earlier ∧
    ∃ reply on, .called k
      ⟨revocation status.backendType status.bucketId status.accountId, some reply⟩ on ∈ earlier

/-- The status of an access says that a backend that is served has granted it. -/
structure OwesRevocation (backends : Registry) (access : BucketAccess) (status : AccessStatus) :
    Prop where
  /-- It is the status of the access. -/
  is : access.status = some status
  /-- The access has been granted. -/
  granted : status.accessGranted = true
  /-- The backend is served. -/
  served : backends.serves status.backendType = true

/-- What a confirmed status says of its access. -/
theorem owesRevocation_of_told {start p : Plant BucketAccess} {records : Records BucketAccess}
    {notes : List (Note BucketAccess)} {access obj : BucketAccess} {status : AccessStatus}
    {on : Option BucketAccess}
    (story : Story (plant BucketAccess (¬ Removes ·) (¬ Grants ·)) backends start records notes p)
    (mem : .called k ⟨.writeAccessStatus access status, some (.ok obj)⟩ on ∈ notes) :
    OwesRevocation backends obj status := by
  obtain ⟨later, earlier, rfl⟩ := List.append_of_mem mem
  obtain ⟨live, status', written, -, -, -, tends, -, -, is⟩ := story.writing rfl
  obtain ⟨-, rfl⟩ := Prod.mk.inj (Option.some.inj written)
  exact ⟨is, tends.2.2.1, tends.2.2.2.1⟩

/-- The grant of an access that is disposed of does not exist any more, unless another access has
been granted the same. -/
theorem no_grant_of_disposed {start p : Plant BucketAccess} {records : Records BucketAccess}
    {notes : List (Note BucketAccess)} {access : BucketAccess} {status : AccessStatus}
    (sound : start.server.Sound)
    (story : Story (plant BucketAccess (¬ Removes ·) (¬ Grants ·)) backends start records notes p)
    (noReturn : NoReturn notes) (owes : OwesRevocation backends access status)
    (disposed : Disposed backends k access notes) :
    (p.facilities.backends status.backendType).hasGrant status.bucketId status.accountId = false ∨
      ∃ u, Object.uid? access = some u ∧ Regranted k u status notes := by
  obtain ⟨later, reply, on₁, earlier, u, rfl, named, departed⟩ :=
    disposed (revocation status.backendType status.bucketId status.accountId)
      (Accesses.mem_removal.2 ⟨status, owes.is, owes.granted, Or.inl ⟨owes.served, rfl⟩⟩)
  have revoked : ∀ f f' : Facilities, f.Answers (¬ Removes ·)
      (revocation status.backendType status.bucketId status.accountId) (some reply) f' →
      (f'.backends status.backendType).hasGrant status.bucketId status.accountId = false := by
    intro f f' answered
    obtain ⟨fresh, -, rfl⟩ := answered.carried_of_sure (by simp [revocation, Removes])
    simp [InMemory.run]
  refine (story.lacking (fun f =>
    (f.backends status.backendType).hasGrant status.bucketId status.accountId = false)
      revoked ?_).imp_right ?_
  · intro f c result f' other carried absent
    by_contra there
    obtain ⟨account, rfl, -⟩ := carried.granted absent (by simpa using there)
    exact other trivial
  · -- whoever is granted the same is alive, which the access is not
    rintro ⟨after, k₂, ⟨c, reply₂⟩, on₂, before, rfl, f, f', result, absent, there, carried⟩
    obtain ⟨account, rfl, sameAccount⟩ := carried.granted absent (by simpa using there)
    rw [List.append_assoc, List.cons_append] at story noReturn ⊢
    obtain ⟨_, _, _, past, entry⟩ := story.before
    have untouched : NoReturn (before ++ .called k ⟨revocation status.backendType status.bucketId
      status.accountId, some reply⟩ on₁ :: earlier) := noReturn.of_append.tail
    have gone := past.never_again plant_hosts sound untouched (departed.cons.append before) k₂ on₂
    cases entry with
    | called k made kept may answered =>
      have attends := may.resolve_left <| by
        rintro ⟨old, -, -, removes, -⟩
        obtain ⟨s, -, -, ⟨-, same'⟩ | same'⟩ := Accesses.mem_removal.1 removes <;> simp at same'
      obtain ⟨live, found, -, -⟩ := attends
      refine ⟨u, named, after, k₂, account, reply₂, _, _, live, rfl, sameAccount, found, ?_,
        departed.cons.append before, reply, on₁, by simp⟩
      exact fun named' => gone (Option.bind_eq_some_iff.2 ⟨live, found, named'⟩)

/-- **Nothing is left behind at the backends that the operator knows of.**  In every run over
backends in memory in which only calls that remove something are sure to succeed and nobody else
creates buckets or grants access, as long as no object comes back to a key after it has departed:
if a key is at rest and nothing is cached for it, then there is no bucket that is to be deleted and
is named by a status of a claim of that key that was written and confirmed, or with which the claim
was found by a reconcile that succeeded; and there is no grant that is named by such a status of an
access, unless it has been granted anew on behalf of another access. -/
theorem nothing_left_at_backends (backends : Registry) (policy : RetryPolicy) (count : Nat) :
    (∀ start d trace p,
      Run (plant BucketClaim (¬ Removes ·) (¬ Creates ·)) (Claims.reconcile backends) count
        (.opening policy {}) start d trace p →
      start.server.Sound → NoReturn trace.notes →
      ∀ k : ObjectKey, d.AtRest k → d.stores.cache.objects.get? k = none →
        (∀ claim status (obj : BucketClaim) on,
          .called k ⟨.writeClaimStatus claim status, some (.ok obj)⟩ on ∈ trace.notes →
          status.deletionPolicy = .delete →
          (p.facilities.backends status.backendType).hasBucket status.bucketId = false) ∧
        ∀ claim u status, Acknowledged k claim trace.notes → OwesDeletion backends claim u status →
          (p.facilities.backends status.backendType).hasBucket status.bucketId = false) ∧
    (∀ start d trace p,
      Run (plant BucketAccess (¬ Removes ·) (¬ Grants ·)) (Accesses.reconcile backends) count
        (.opening policy {}) start d trace p →
      start.server.Sound → NoReturn trace.notes →
      ∀ k : ObjectKey, d.AtRest k → d.stores.cache.objects.get? k = none →
        (∀ access status (obj : BucketAccess) on,
          .called k ⟨.writeAccessStatus access status, some (.ok obj)⟩ on ∈ trace.notes →
          (p.facilities.backends status.backendType).hasGrant status.bucketId status.accountId =
              false ∨
            ∃ u, Object.uid? obj = some u ∧ Regranted k u status trace.notes) ∧
        ∀ access status, Acknowledged k access trace.notes → OwesRevocation backends access status →
          (p.facilities.backends status.backendType).hasGrant status.bucketId status.accountId =
              false ∨
            ∃ u, Object.uid? access = some u ∧ Regranted k u status trace.notes) := by
  constructor
  · intro start d trace p run sound noReturn k rest absent
    have conducts := claims_conduct backends
    have story := story_of_run conducts run
    refine ⟨fun claim status obj on mem policy => ?_, fun claim u status acknowledged owes => ?_⟩
    · obtain ⟨u, owes⟩ := owesDeletion_of_told story mem policy
      exact no_bucket_of_disposed sound story noReturn owes
        (disposed_of_run plant_hosts conducts sound run rest absent (.told _ on mem rfl))
    · exact no_bucket_of_disposed sound story noReturn owes
        (disposed_of_run plant_hosts conducts sound run rest absent
          (.found acknowledged (isBuilt_of_provisioned owes.is owes.provisioned)))
  · intro start d trace p run sound noReturn k rest absent
    have conducts := accesses_conduct backends
    have story := story_of_run conducts run
    refine ⟨fun access status obj on mem => ?_, fun access status acknowledged owes => ?_⟩
    · exact no_grant_of_disposed sound story noReturn (owesRevocation_of_told story mem)
        (disposed_of_run plant_hosts conducts sound run rest absent (.told _ on mem rfl))
    · exact no_grant_of_disposed sound story noReturn owes
        (disposed_of_run plant_hosts conducts sound run rest absent (.found acknowledged
          (by simp [isBuilt, Managed.status?, Managed.built, owes.is, owes.granted])))

/-- No access comes back in these notes. -/
theorem noReturn_newAccessNotes : NoReturn newAccessNotes :=
  noReturn_of_once (by simp +contextual)

/-! ## Writes of which the operator does not hear -/

/-- A new version of an object is reported, a delay is over, the worker reconciles the object's key,
the object vanishes, and the worker reconciles the key again. -/
def relearned {α : Type} (obj : α) (before after : Nat) : List (Happening α) :=
  [.move (.receive (.apply obj)), .move .route, .move .route, .wait 1000, .move .fire] ++
    labour before ++ vanished obj ++ labour after

/-- Nothing is reported but the object. -/
theorem reports_relearned {α : Type} {P : α → Prop} {obj : α} {before after : Nat} (is : P obj) :
    ∀ h ∈ relearned obj before after, h.Reports P ∧ ∀ i, h ≠ .lose i := by
  simp only [relearned, List.forall_mem_append]
  refine ⟨⟨⟨?_, reports_labour⟩, reports_vanished⟩, reports_labour⟩
  simpa [Happening.Reports] using is

section unheard

variable {α : Type} [Object α] [Managed α]

/-- Whether an object is reconciled without the write of its status being heard of, whereupon the
version that is stored is reported and vanishes in the end; `later` and `earlier` outline what is
noted after and before the reconcile that finds that version succeeds, and `is` is said of it. -/
def rehearsedUnheard (serve : Plant.Hearing → Server (Plant α))
    (reconcile : String → Program α (Except Failure Unit)) (obj : α) (steps : Nat × Nat × Nat)
    (later earlier : List Outline) (is : α → Bool) : Bool :=
  (Desk.rehearse (serve .unheard) reconcile 1 (opened [obj] ++ labour steps.1) (.opening {} {}) []
      (plantWith obj)).any fun r =>
    r.2.2.server.past.head?.any fun stored => (Object.uid? stored).isSome &&
      (r.1.rehearse (serve .granted) reconcile 1 (relearned stored steps.2.1 steps.2.2) r.2.1
          r.2.2).any fun r' =>
        r'.1.isQuiet && (r'.1.stores.cache.objects.get? (.namespaced "n" "a")).isNone &&
        decide (r'.2.1.notes.map Note.outline =
          later ++ .finished (.namespaced "n" "a") true :: earlier) &&
        (attemptAt (.namespaced "n" "a") none (r'.2.1.notes.drop (later.length + 1))).found.any is

/-- A run in which a status write takes effect unheard, with the notes that were computed. -/
theorem run_of_rehearsedUnheard {serve : Plant.Hearing → Server (Plant α)}
    {reconcile : String → Program α (Except Failure Unit)} {obj : α} {steps : Nat × Nat × Nat}
    {later earlier : List Outline} {is : α → Bool} {fails others : Call → Prop}
    (h : rehearsedUnheard serve reconcile obj steps later earlier is = true)
    (identified : (Object.uid? obj).isSome)
    (serves : ∀ hearing p c, (plant α fails others).answers p c (some (serve hearing p c).1)
      (serve hearing p c).2) :
    ∃ d trace p stored,
      Run (plant α fails others) reconcile 1 (.opening {} {}) (plantWith obj) d trace p ∧
      d.isQuiet = true ∧ d.stores.cache.objects.get? (.namespaced "n" "a") = none ∧
      trace.notes.map Note.outline = later ++ .finished (.namespaced "n" "a") true :: earlier ∧
      Acknowledged (.namespaced "n" "a") stored trace.notes ∧ is stored = true := by
  obtain ⟨⟨d₁, trace₁, p₁⟩, first, h⟩ := (Option.any_eq_true _ _).1 h
  obtain ⟨reported, known, h⟩ := (Option.any_eq_true _ _).1 h
  obtain ⟨named, h⟩ := (Bool.and_eq_true _ _).mp h
  obtain ⟨⟨d, trace, p⟩, second, h⟩ := (Option.any_eq_true _ _).1 h
  simp only [Bool.and_eq_true, decide_eq_true_eq, Option.isNone_iff_eq_none] at h
  obtain ⟨⟨⟨quiet, absent⟩, outline⟩, h⟩ := h
  obtain ⟨stored, there, said⟩ := (Option.any_eq_true _ _).1 h
  have run := Run.start.rehearsed (serves .unheard) (List.forall_mem_append.2
    ⟨reports_opened (by simpa using plantWith_shows identified), reports_labour⟩) first
  exact ⟨d, trace, p, stored,
    run.rehearsed (serves .granted) (reports_relearned ⟨List.mem_of_mem_head? known, named⟩) second,
    quiet, absent, outline, acknowledged_of_outline outline there, said⟩

end unheard

/-- What is noted of a claim until the reconcile succeeds that finds the status: the write of it
was not heard of before. -/
def unheardClaimOutline : List Outline :=
  [.classRead (.namespaced "n" "a") "c" (some .delete),
    .lookedUp (.namespaced "n" "a") (some "u") none,
    .finished (.namespaced "n" "a") false, .called (.namespaced "n" "a") false,
    .operated (.namespaced "n" "a") "fake" (.createBucket "u" "") true,
    .classRead (.namespaced "n" "a") "c" (some .delete),
    .lookedUp (.namespaced "n" "a") (some "u") none]

/-- What is noted of it later: the bucket is deleted. -/
def vanishedClaimOutline : List Outline :=
  [.finished (.namespaced "n" "a") true,
    .operated (.namespaced "n" "a") "fake" (.deleteBucket "fake-u" "") true,
    .lookedUp (.namespaced "n" "a") none (some "u")]

/-- What is noted of an access until the reconcile succeeds that finds the status: the write of it
was not heard of before. -/
def unheardAccessOutline : List Outline :=
  [.classRead (.namespaced "n" "a") "c" (some .delete),
    .lookedUp (.namespaced "n" "a") (some "u") none,
    .finished (.namespaced "n" "a") false, .called (.namespaced "n" "a") false,
    .called (.namespaced "n" "a") true, .called (.namespaced "n" "a") true,
    .operated (.namespaced "n" "a") "fake" (.grantAccess "b" "account-s") true,
    .classRead (.namespaced "n" "a") "c" (some .delete),
    .lookedUp (.namespaced "n" "a") (some "u") none]

/-- What is noted of it later: the grant is revoked and the secret is deleted. -/
def vanishedAccessOutline : List Outline :=
  [.finished (.namespaced "n" "a") true, .called (.namespaced "n" "a") true,
    .operated (.namespaced "n" "a") "fake" (.revokeAccess "b" "account-s-id") true,
    .lookedUp (.namespaced "n" "a") none (some "u")]

/-- The status of the claim is written unheard and found, and the bucket is deleted in the end. -/
theorem run_unheardClaim (fails others : Call → Prop) : ∃ d trace p stored,
    Run (plant BucketClaim fails others) (Claims.reconcile oneType) 1 (.opening {} {})
      (plantWith newClaim) d trace p ∧
    d.isQuiet = true ∧ d.stores.cache.objects.get? (.namespaced "n" "a") = none ∧
    NoReturn trace.notes ∧ Acknowledged (.namespaced "n" "a") stored trace.notes ∧
    OwesDeletion oneType stored "u" newClaimStatus := by
  have rehearsed : rehearsedUnheard (Plant.serveClaims onlySomeClass) (Claims.reconcile oneType)
      newClaim (12, 10, 9) vanishedClaimOutline unheardClaimOutline (fun claim =>
        decide (Object.uid? claim = some "u") && decide (claim.status = some newClaimStatus)) =
          true := by
    decide +kernel
  obtain ⟨d, trace, p, stored, run, quiet, absent, outline, acknowledged, said⟩ :=
    run_of_rehearsedUnheard rehearsed rfl fun _ => Plant.serveClaims_answers
  simp only [Bool.and_eq_true, decide_eq_true_eq] at said
  refine ⟨d, trace, p, stored, run, quiet, absent, ?_, acknowledged,
    said.2, said.1, rfl, rfl, by rfl, by rfl⟩
  exact noReturn_of_outline (u := "u") outline (by simp +contextual [vanishedClaimOutline])
    (by simp +contextual [unheardClaimOutline])

/-- The status of the access is written unheard and found, and the access is revoked in the end. -/
theorem run_unheardAccess (fails others : Call → Prop) : ∃ d trace p stored,
    Run (plant BucketAccess fails others) (Accesses.reconcile oneType) 1 (.opening {} {})
      (plantWith newAccess) d trace p ∧
    d.isQuiet = true ∧ d.stores.cache.objects.get? (.namespaced "n" "a") = none ∧
    NoReturn trace.notes ∧ Acknowledged (.namespaced "n" "a") stored trace.notes ∧
    OwesRevocation oneType stored newAccessStatus := by
  have rehearsed : rehearsedUnheard (Plant.serveAccesses onlySomeClass)
      (Accesses.reconcile oneType) newAccess (14, 10, 10) vanishedAccessOutline unheardAccessOutline
      (fun access => decide (access.status = some newAccessStatus)) = true := by
    decide +kernel
  obtain ⟨d, trace, p, stored, run, quiet, absent, outline, acknowledged, said⟩ :=
    run_of_rehearsedUnheard rehearsed rfl fun _ => Plant.serveAccesses_answers
  refine ⟨d, trace, p, stored, run, quiet, absent, ?_, acknowledged,
    of_decide_eq_true said, rfl, by rfl⟩
  exact noReturn_of_outline (u := "u") outline (by simp +contextual [vanishedAccessOutline])
    (by simp +contextual [unheardAccessOutline])

/-- A claim and an access are created, provisioned and granted, and vanish, and in the end there are
neither the bucket nor the grant: be it that the operator hears of the writes of their statuses, or
that it learns of them only when it finds the statuses. -/
theorem nothing_left_of_vanished :
    (∃ d trace p, Run (plant BucketClaim (¬ Removes ·) (¬ Creates ·)) (Claims.reconcile oneType) 1
        (.opening {} {}) (plantWith newClaim) d trace p ∧
      (plantWith newClaim).server.Sound ∧ NoReturn trace.notes ∧ d.AtRest (.namespaced "n" "a") ∧
      d.stores.cache.objects.get? (.namespaced "n" "a") = none ∧
      .called (.namespaced "n" "a") ⟨.writeClaimStatus newClaim newClaimStatus,
        some (.ok (Plant.withClaimStatus newClaim newClaimStatus))⟩ none ∈ trace.notes ∧
      (p.facilities.backends "fake").hasBucket "fake-u" = false) ∧
    (∃ d trace p claim, Run (plant BucketClaim (¬ Removes ·) (¬ Creates ·))
        (Claims.reconcile oneType) 1 (.opening {} {}) (plantWith newClaim) d trace p ∧
      (plantWith newClaim).server.Sound ∧ NoReturn trace.notes ∧ d.AtRest (.namespaced "n" "a") ∧
      d.stores.cache.objects.get? (.namespaced "n" "a") = none ∧
      Acknowledged (.namespaced "n" "a") claim trace.notes ∧
      OwesDeletion oneType claim "u" newClaimStatus ∧
      (p.facilities.backends "fake").hasBucket "fake-u" = false) ∧
    (∃ d trace p, Run (plant BucketAccess (¬ Removes ·) (¬ Grants ·)) (Accesses.reconcile oneType) 1
        (.opening {} {}) (plantWith newAccess) d trace p ∧
      (plantWith newAccess).server.Sound ∧ NoReturn trace.notes ∧ d.AtRest (.namespaced "n" "a") ∧
      d.stores.cache.objects.get? (.namespaced "n" "a") = none ∧
      .called (.namespaced "n" "a") ⟨.writeAccessStatus newAccess newAccessStatus,
        some (.ok (Plant.withAccessStatus newAccess newAccessStatus))⟩ none ∈ trace.notes ∧
      ((p.facilities.backends "fake").hasGrant "b" "account-s-id" = false ∨
        ∃ u, Object.uid? (Plant.withAccessStatus newAccess newAccessStatus) = some u ∧
          Regranted (.namespaced "n" "a") u newAccessStatus trace.notes)) ∧
    (∃ d trace p access, Run (plant BucketAccess (¬ Removes ·) (¬ Grants ·))
        (Accesses.reconcile oneType) 1 (.opening {} {}) (plantWith newAccess) d trace p ∧
      (plantWith newAccess).server.Sound ∧ NoReturn trace.notes ∧ d.AtRest (.namespaced "n" "a") ∧
      d.stores.cache.objects.get? (.namespaced "n" "a") = none ∧
      Acknowledged (.namespaced "n" "a") access trace.notes ∧
      OwesRevocation oneType access newAccessStatus ∧
      ((p.facilities.backends "fake").hasGrant "b" "account-s-id" = false ∨
        ∃ u, Object.uid? access = some u ∧
          Regranted (.namespaced "n" "a") u newAccessStatus trace.notes)) := by
  have soundClaims : (plantWith newClaim).server.Sound :=
    ApiServer.keeping_sound (by rfl) rfl (Or.inl rfl)
  have soundAccesses : (plantWith newAccess).server.Sound :=
    ApiServer.keeping_sound (by rfl) rfl (Or.inl rfl)
  refine ⟨?_, ?_, ?_, ?_⟩
  · obtain ⟨d, trace, p, run, notes, quiet, absent⟩ := run_newClaim (¬ Removes ·) (¬ Creates ·)
    have noReturn : NoReturn trace.notes := notes ▸ noReturn_newClaimNotes
    have rest := Desk.atRest_of_isQuiet quiet (.namespaced "n" "a")
    have mem : .called (.namespaced "n" "a") ⟨.writeClaimStatus newClaim newClaimStatus,
        some (.ok (Plant.withClaimStatus newClaim newClaimStatus))⟩ none ∈ trace.notes := by
      rw [notes]
      simp [newClaimNotes]
    exact ⟨d, trace, p, run, soundClaims, noReturn, rest, absent, mem,
      ((nothing_left_at_backends oneType {} 1).1 _ _ _ _ run soundClaims noReturn _ rest absent).1
        _ _ _ _ mem rfl⟩
  · obtain ⟨d, trace, p, claim, run, quiet, absent, noReturn, acknowledged, owes⟩ :=
      run_unheardClaim (¬ Removes ·) (¬ Creates ·)
    have rest := Desk.atRest_of_isQuiet quiet (.namespaced "n" "a")
    exact ⟨d, trace, p, claim, run, soundClaims, noReturn, rest, absent, acknowledged, owes,
      ((nothing_left_at_backends oneType {} 1).1 _ _ _ _ run soundClaims noReturn _ rest absent).2
        _ _ _ acknowledged owes⟩
  · obtain ⟨d, trace, p, run, notes, quiet, absent⟩ := run_newAccess (¬ Removes ·) (¬ Grants ·)
    have noReturn : NoReturn trace.notes := notes ▸ noReturn_newAccessNotes
    have rest := Desk.atRest_of_isQuiet quiet (.namespaced "n" "a")
    have mem : .called (.namespaced "n" "a") ⟨.writeAccessStatus newAccess newAccessStatus,
        some (.ok (Plant.withAccessStatus newAccess newAccessStatus))⟩ none ∈ trace.notes := by
      rw [notes]
      simp [newAccessNotes]
    exact ⟨d, trace, p, run, soundAccesses, noReturn, rest, absent, mem,
      ((nothing_left_at_backends oneType {} 1).2 _ _ _ _ run soundAccesses noReturn _ rest
        absent).1 _ _ _ _ mem⟩
  · obtain ⟨d, trace, p, access, run, quiet, absent, noReturn, acknowledged, owes⟩ :=
      run_unheardAccess (¬ Removes ·) (¬ Grants ·)
    have rest := Desk.atRest_of_isQuiet quiet (.namespaced "n" "a")
    exact ⟨d, trace, p, access, run, soundAccesses, noReturn, rest, absent, acknowledged, owes,
      ((nothing_left_at_backends oneType {} 1).2 _ _ _ _ run soundAccesses noReturn _ rest
        absent).2 _ _ acknowledged owes⟩

/-- The worker reconciles a claim, the claim vanishes, the worker reconciles its key again, and once
more when the delay is over. -/
def threeReconciles : List (Happening BucketClaim) :=
  lifetime newClaim 12 8 ++ ([.wait 1000, .move .fire] ++ labour 8)

/-- What is noted if the write of the status is refused. -/
def refusedOutline : List Outline :=
  [.finished (.namespaced "n" "a") true, .lookedUp (.namespaced "n" "a") none none,
    .finished (.namespaced "n" "a") true, .lookedUp (.namespaced "n" "a") none none,
    .finished (.namespaced "n" "a") false, .called (.namespaced "n" "a") false,
    .operated (.namespaced "n" "a") "fake" (.createBucket "u" "") true,
    .classRead (.namespaced "n" "a") "c" (some .delete),
    .lookedUp (.namespaced "n" "a") (some "u") none]

/-- A claim vanishes after its bucket has been created and the write of its status has been
refused.  In the end there is nothing left to do or to wait for, and the bucket still exists
although the class says that it is to be deleted. -/
theorem bucket_left_after_refusal :
    ∃ d trace p, Run (plant BucketClaim (¬ Removes ·) (¬ Creates ·)) (Claims.reconcile oneType) 1
        (.opening {} {}) (plantWith newClaim) d trace p ∧
      d.isQuiet = true ∧ d.stores.cache.synced = true ∧
      (d.stores.cache.objects.get? (.namespaced "n" "a")).isNone = true ∧
      trace.notes.map Note.outline = refusedOutline ∧
      (p.facilities.backends "fake").hasBucket "fake-u" = true := by
  have rehearsed : (Desk.rehearse (Plant.serveClaims onlySomeClass .refused)
      (Claims.reconcile oneType) 1 threeReconciles (.opening {} {}) []
      (plantWith newClaim)).any (fun r =>
        r.1.isQuiet && r.1.stores.cache.synced &&
        (r.1.stores.cache.objects.get? (.namespaced "n" "a")).isNone &&
        decide (r.2.1.notes.map Note.outline = refusedOutline) &&
        (r.2.2.facilities.backends "fake").hasBucket "fake-u") = true := by
    decide +kernel
  obtain ⟨⟨d, trace, p⟩, rehearsed, facts⟩ := (Option.any_eq_true _ _).1 rehearsed
  simp only [Bool.and_eq_true, decide_eq_true_eq, and_assoc] at facts
  refine ⟨d, trace, p, Run.start.rehearsed Plant.serveClaims_answers ?_ rehearsed, facts⟩
  simp only [threeReconciles, List.forall_mem_append]
  exact ⟨reports_lifetime (plantWith_shows rfl), by simp [Happening.Reports], reports_labour⟩

end BucketProvisioning.Engine
