import BucketProvisioning.Proofs.Engine.Leftovers

/-!
# What the revocation of an access leaves alone

The account of a grant is named after the class, so accesses of one class that are for one bucket
share a grant, and whichever of them is revoked first takes it away.  Nothing else is shared:
`others_revoked` says that as long as nothing is called for an access, its secret stays, and the
grant that its status names is taken away only if another access is revoked whose status names the
same grant.  `shared_grant_revoked` is a run in which that happens.
-/

set_option autoImplicit false
set_option linter.unusedSectionVars false

namespace BucketProvisioning.Engine

open BucketProvisioning BucketProvisioning.Reconcile BucketProvisioning.Backend
open BucketProvisioning.Queue
open BucketProvisioning.Resource

/-- If others take nothing away, then what is lacking after a run was taken away by a call. -/
theorem Run.taken {α : Type} [Object α] [Managed α] {fails others : Call → Prop}
    {reconcile : String → Program α (Except Failure Unit)} {count : Nat} {d d' : Desk α}
    {p p' : Plant α} {trace : Trace α} (has : Facilities → Prop)
    (run : Run (plant α fails others) reconcile count d p d' trace p')
    (apart : ∀ (f : Facilities) c result f', others c → f.Carries c result f' → has f → has f')
    (there : has p.facilities) :
    has p'.facilities ∨ ∃ later d₁ h earlier text made, trace = later ++ (d₁, h) :: earlier ∧
      d₁.made? h = some (text, made) ∧ ∃ (f f' : Facilities) (result : _), has f ∧ ¬ has f' ∧
        f.Carries made.call result f' := by
  induction run with
  | start => exact Or.inl there
  | @happened d₁ d₂ trace q q' h run happens explained ih =>
    rcases ih with still | ⟨later, d₀, h₀, earlier, text, made, rfl, rest⟩
    · cases is : d₁.made? h with
      | none => exact Or.inl (explained.same is ▸ still)
      | some both =>
        obtain ⟨text, made⟩ := both
        by_cases after : has q'.facilities
        · exact Or.inl after
        rcases (explained.answered is).2.carried with same | ⟨result, carried⟩
        · exact absurd (same ▸ still) after
        · exact Or.inr ⟨[], d₁, h, trace, text, made, rfl, is, _, _, result, still, after, carried⟩
    · exact Or.inr ⟨(d₁, h) :: later, d₀, h₀, earlier, text, made, rfl, rest⟩
  | drifted run drifts ih =>
    refine ih.imp_left fun still => ?_
    rcases drifts with ⟨-, same⟩ | ⟨-, c, result, may, carried⟩
    · rwa [same]
    · exact apart _ _ _ _ may carried still
  | closed run ih => exact ih

/-- A call that removes something is made for a key and an object of that key which was stored. -/
theorem Run.removed {α ω : Type} [Object α] [Managed α] {O : Outside α ω} {backends : Registry}
    {reconcile : String → Program α (Except Failure Unit)} {count : Nat} {policy : RetryPolicy}
    {start o : ω} {d d₁ : Desk α} {h : Happening α} {later before earlier : Trace α} {text : String}
    {made : Called} {server : ω → ApiServer α} (hosts : O.Hosts server)
    (conducts : Conducts backends reconcile) (sound : (server start).Sound)
    (run : Run O reconcile count (.opening policy {}) start d
      (later ++ (d₁, h) :: before ++ earlier) o)
    (makes : d₁.made? h = some (text, made)) (untended : Untended α backends made.call) :
    ∃ k obj, .called k made (some obj) ∈ Trace.notes (later ++ (d₁, h) :: before) ∧
      obj ∈ (server o).past ∧ ObjectKey.ofObject? obj = some k ∧ made.call ∈ removal backends k obj := by
  rw [List.append_assoc, List.cons_append] at run
  have story := story_of_run conducts run
  have accounted := story.accounted hosts sound
  obtain ⟨k, read, split⟩ := noted_of_made conducts run makes
  have note : d₁.note? h = some (.called k made (d₁.record? k)) := by
    simp [Desk.note?, makes, read, Except.toOption]
  rw [split] at story accounted
  obtain ⟨obj, u, departing⟩ := story.departing untended
  rw [departing.is] at note
  exact ⟨k, obj, List.mem_filterMap.2 ⟨(d₁, h), by simp, note⟩,
    accounted.noted ((departing.noted.cons).append later.notes), departing.place, departing.removes⟩

/-! ## The names of secrets -/

/-- The secret of an access is named after the access. -/
def NamedAfter (access : BucketAccess) : Prop :=
  access.secretName = BucketAccess.secretNameStart ++ access.metadata.nameOrEmpty

/-- The secret of an access without a status is named after it. -/
theorem namedAfter_of_blank {access : BucketAccess} (blank : access.status = none) :
    NamedAfter access := by
  simp [NamedAfter, BucketAccess.secretName, blank]

variable {backends : Registry}

/-- The namespace of an object's key is not empty. -/
theorem ns_of_ofObject? {α : Type} [Object α] {obj : α} {k : ObjectKey}
    (is : ObjectKey.ofObject? obj = some k) :
    k.ns = if k.nsOrEmpty.isEmpty then none else some k.nsOrEmpty := by
  unfold ObjectKey.ofObject? at is
  dsimp only at is
  split at is
  · split at is
    · simp at is
    · obtain rfl := Option.some.inj is
      cases spaces : (Object.metadata obj).ns with
      | none => simp [ObjectKey.nsOrEmpty]
      | some ns =>
        by_cases empty : ns.isEmpty = true <;> simp [ObjectKey.nsOrEmpty, Option.filter, empty]
  · simp at is

/-- Keys of objects differ in the name, or in the namespace as it is written. -/
theorem eq_of_ofObject? {α : Type} [Object α] {obj obj' : α} {k k' : ObjectKey}
    (is : ObjectKey.ofObject? obj = some k) (is' : ObjectKey.ofObject? obj' = some k')
    (sameSpace : k.nsOrEmpty = k'.nsOrEmpty) (sameName : k.name = k'.name) : k = k' := by
  have space := ns_of_ofObject? is
  rw [sameSpace, ← ns_of_ofObject? is'] at space
  cases k
  cases k'
  simp only [ObjectKey.mk.injEq]
  exact ⟨space, sameName⟩

/-- If this holds of what was stored at first, then it holds of whatever is stored. -/
theorem secretName_of_accounted {past : List BucketAccess} {s : ApiServer BucketAccess}
    {notes : List (Note BucketAccess)} (accounted : Accounted backends past s notes)
    (first : ∀ access ∈ past, NamedAfter access) {access : BucketAccess} {k : ObjectKey}
    (mem : access ∈ s.past) (place : ObjectKey.ofObject? access = some k) :
    access.secretName = BucketAccess.secretNameStart ++ k.name := by
  have name {v : BucketAccess} (place : ObjectKey.ofObject? v = some k) (named : NamedAfter v) :
      v.secretName = BucketAccess.secretNameStart ++ k.name := by
    have same : v.metadata.nameOrEmpty = k.name := Accesses.nameOrEmpty_of_ofObject? place
    rw [← same]
    exact named
  rcases accounted.sound.blank access mem with blank | built
  · exact name place (namedAfter_of_blank blank)
  rcases accounted.written access mem built with ⟨old, known, -, sameKey, -, same⟩ | written
  · have place' := sameKey.symm.trans place
    rw [Accesses.secretName_congr place place' same]
    exact name place' (first old known)
  -- a status is written to an access without one, and names the secret accordingly
  · obtain ⟨k', later, ⟨c, reply⟩, on, earlier, live, status, rfl, written, found, unbuilt, tends,
      place', -, is⟩ := written
    cases c <;> simp only [Managed.written?, Accesses.written?, Option.some.injEq, Prod.mk.injEq,
      reduceCtorEq] at written
    obtain ⟨rfl, rfl⟩ := written
    obtain rfl := Option.some.inj (place.symm.trans place')
    obtain ⟨-, -, -, -, secret⟩ := tends
    obtain ⟨initial, noted⟩ := found_attemptAt found
    obtain ⟨known, livePlace⟩ := accounted.found k _ initial
      (List.mem_append_right _ (List.mem_cons_of_mem _ noted))
    have blank := (accounted.sound.blank _ known).resolve_right (by simp [unbuilt])
    rw [name livePlace (namedAfter_of_blank blank)] at secret
    have recorded : access.status = some _ := is
    simp [BucketAccess.secretName, recorded, secret, Option.filter, BucketAccess.secretNameStart]

/-! ## Grants and secrets of others -/

section others

variable {policy : RetryPolicy} {count : Nat} {fails others : Call → Prop}
variable {start p p' : Plant BucketAccess} {d d' : Desk BucketAccess}
variable {earlier later : Trace BucketAccess}

/-- Everything that happens is a run in which others may do what they may do at any time. -/
theorem whole_run
    (reached : Run (plant BucketAccess fails others) (Accesses.reconcile backends) count
      (.opening policy {}) start d earlier p)
    (run : Run (plant BucketAccess fails (¬ Removes ·)) (Accesses.reconcile backends) count d p d'
      later p') :
    Run (plant BucketAccess fails fun c => others c ∨ ¬ Removes c) (Accesses.reconcile backends) count
      (.opening policy {}) start d' (later ++ earlier) p' :=
  (reached.widened fun _ => Or.inl).append (run.widened fun _ => Or.inr)

/-- A grant is taken away only for an access whose status names it. -/
theorem grant_kept (sound : start.server.Sound)
    (reached : Run (plant BucketAccess fails others) (Accesses.reconcile backends) count
      (.opening policy {}) start d earlier p)
    (run : Run (plant BucketAccess fails (¬ Removes ·)) (Accesses.reconcile backends) count d p d'
      later p') {t b a : String} (there : (p.facilities.backends t).hasGrant b a = true) :
    (p'.facilities.backends t).hasGrant b a = true ∨
      ∃ k other status reply, .called k ⟨revocation t b a, reply⟩ (some other) ∈ Trace.notes later ∧
        other ∈ p'.server.past ∧ ObjectKey.ofObject? other = some k ∧
        other.status = some status ∧ status.accessGranted = true ∧ status.backendType = t ∧
        status.bucketId = b ∧ status.accountId = a := by
  refine (run.taken (fun f => (f.backends t).hasGrant b a = true) ?_ there).imp_right ?_
  · intro f c result f' keeps carried has
    by_contra lost
    rcases carried.lost has (by simpa using lost) with rfl | ⟨region, rfl⟩ <;> exact keeps trivial
  · rintro ⟨after, d₁, h, before, text, ⟨c, reply⟩, rfl, made, f, f', result, has, lost, carried⟩
    have whole := whole_run reached run
    rcases carried.lost has (by simpa using lost) with rfl | ⟨region, rfl⟩
    · obtain ⟨k, other, noted, known, place, removes⟩ :=
        whole.removed plant_hosts (accesses_conduct backends) sound made (untended_revocation _ _ _)
      obtain ⟨status, is, granted, ⟨-, same⟩ | same⟩ := Accesses.mem_removal.1 removes
      · simp only [Call.backend.injEq, Operation.revokeAccess.injEq] at same
        exact ⟨k, other, status, reply, noted, known, place, is, granted, same.1.symm,
          same.2.1.symm, same.2.2.symm⟩
      · simp at same
    -- no bucket is deleted for an access
    · obtain ⟨k, other, -, -, -, removes⟩ :=
        whole.removed plant_hosts (accesses_conduct backends) sound made (fun _ _ _ => id)
      obtain ⟨status, -, -, ⟨-, same⟩ | same⟩ := Accesses.mem_removal.1 removes <;> simp at same

/-- A secret is taken away only for the access that it is named after. -/
theorem secret_kept (sound : start.server.Sound)
    (first : ∀ access ∈ start.server.past, NamedAfter access)
    (reached : Run (plant BucketAccess fails others) (Accesses.reconcile backends) count
      (.opening policy {}) start d earlier p)
    (run : Run (plant BucketAccess fails (¬ Removes ·)) (Accesses.reconcile backends) count d p d'
      later p') {k : ObjectKey} {access : BucketAccess}
    (idle : ∀ made on, .called k made on ∉ Trace.notes later)
    (known : access ∈ p.server.past) (place : ObjectKey.ofObject? access = some k)
    (there : p.facilities.secrets.contains (k.nsOrEmpty, access.secretName) = true) :
    p'.facilities.secrets.contains (k.nsOrEmpty, access.secretName) = true := by
  refine (run.taken (fun f => f.secrets.contains (k.nsOrEmpty, access.secretName) = true) ?_
    there).resolve_right ?_
  · intro f c result f' keeps carried has
    by_contra lost
    obtain rfl := carried.lost_secret has (by simpa using lost)
    exact keeps trivial
  · rintro ⟨after, d₁, h, before, text, ⟨c, reply⟩, rfl, made, f, f', result, has, lost, carried⟩
    obtain rfl := carried.lost_secret has (by simpa using lost)
    have whole := whole_run reached run
    have accounted := (story_of_run (accesses_conduct backends) whole).accounted plant_hosts sound
    obtain ⟨k', other, noted, known', place', removes⟩ :=
      whole.removed plant_hosts (accesses_conduct backends) sound made (untended_deleteSecret _ _)
    obtain ⟨_, -, -, ⟨-, same⟩ | same⟩ := Accesses.mem_removal.1 removes
    · simp at same
    · simp only [Call.deleteSecret.injEq] at same
      have names := same.2
      rw [secretName_of_accounted accounted first (run.past known) place,
        secretName_of_accounted accounted first known' place', String.append_right_inj] at names
      obtain rfl := eq_of_ofObject? place place' same.1 names
      exact idle _ _ noted

end others

/-- **The revocation of other accesses cuts an access off only if they share its grant.**  Whatever
state has been reached, and whatever calls fail: as long as nobody else removes anything and nothing
is called for an access, its secret stays; and the grant that its status names stays as well, unless
a call is made to revoke it for another access, and then the status of that access names the same
backend type, bucket and account. -/
theorem others_revoked (backends : Registry) (policy : RetryPolicy) (count : Nat)
    {fails others : Call → Prop} {start p p' : Plant BucketAccess} {d d' : Desk BucketAccess}
    {earlier later : Trace BucketAccess} {k : ObjectKey} {access : BucketAccess}
    (sound : start.server.Sound)
    (first : ∀ access ∈ start.server.past, NamedAfter access)
    (reached : Run (plant BucketAccess fails others) (Accesses.reconcile backends) count
      (.opening policy {}) start d earlier p)
    (run : Run (plant BucketAccess fails (¬ Removes ·)) (Accesses.reconcile backends) count d p d'
      later p')
    (idle : ∀ made on, .called k made on ∉ Trace.notes later)
    (known : access ∈ p.server.past) (place : ObjectKey.ofObject? access = some k) :
    (∀ status, access.status = some status →
      (p.facilities.backends status.backendType).hasGrant status.bucketId status.accountId = true →
      (p'.facilities.backends status.backendType).hasGrant status.bucketId status.accountId = true ∨
        ∃ k' other status' reply, .called k'
            ⟨revocation status.backendType status.bucketId status.accountId, reply⟩ (some other) ∈
              Trace.notes later ∧
          other ∈ p'.server.past ∧ ObjectKey.ofObject? other = some k' ∧
          other.status = some status' ∧ status'.accessGranted = true ∧
          status'.backendType = status.backendType ∧ status'.bucketId = status.bucketId ∧
          status'.accountId = status.accountId) ∧
    (p.facilities.secrets.contains (k.nsOrEmpty, access.secretName) = true →
      p'.facilities.secrets.contains (k.nsOrEmpty, access.secretName) = true) :=
  ⟨fun _ _ => grant_kept sound reached run, secret_kept sound first reached run idle known place⟩

/-! ## Two accesses -/

/-- Another access, through the same class, to a bucket. -/
def otherAccess (bucketId : String) : BucketAccess where
  metadata := { name := some "b", ns := some "n", uid := some "v", resourceVersion := some "1" }
  spec := { className := some "c", existingBucketId := some bucketId }

/-- A plant with two accesses and two buckets. -/
def plantWithTwo (bucketId : String) : Plant BucketAccess where
  server := (ApiServer.keeping (.namespaced "n" "a") newAccess).put (.namespaced "n" "b")
    (otherAccess bucketId)
  facilities := { backends := fun _ =>
    { buckets := (({} : Table String String).insert "b" "").insert "d" "" } }

/-- Both accesses are listed and reconciled. -/
def bothGranted (bucketId : String) : List (Happening BucketAccess) :=
  opened [newAccess, otherAccess bucketId] ++ labour 26

/-- The first access vanishes and is revoked. -/
def firstRevoked : List (Happening BucketAccess) := vanished newAccess ++ labour 11

/-- The status of the other access once it has been granted. -/
def otherStatus (bucketId : String) : AccessStatus :=
  { newAccessStatus with bucketId, secretName := "bucket-credentials-b" }

/-- Whether a plant keeps an access at a key that has a certain status. -/
def Plant.shows (p : Plant BucketAccess) (k : ObjectKey) (status : AccessStatus) : Bool :=
  (p.server.stored.get? k).any fun access => access.status = some status

/-- Whether both accesses are granted, the grant and the secret of the second being there, and the
first is then revoked, with an outcome that is as wanted. -/
def rehearsedTwo (bucketId : String) (wanted : Plant BucketAccess → Bool) : Bool :=
  (Desk.rehearse (Plant.serveAccesses onlySomeClass .granted) (Accesses.reconcile oneType) 1
      (bothGranted bucketId) (.opening {} {}) [] (plantWithTwo bucketId)).any fun r =>
    r.2.2.shows (.namespaced "n" "a") newAccessStatus &&
    r.2.2.shows (.namespaced "n" "b") (otherStatus bucketId) &&
    (r.2.2.facilities.backends "fake").hasGrant bucketId "account-s-id" &&
    r.2.2.facilities.secrets.contains ("n", "bucket-credentials-b") &&
    (r.1.rehearse (Plant.serveAccesses onlySomeClass .granted) (Accesses.reconcile oneType) 1
        firstRevoked [] r.2.2).any fun r' =>
      r'.2.1.notes.all (·.key = .namespaced "n" "a") &&
      r'.2.2.shows (.namespaced "n" "b") (otherStatus bucketId) && wanted r'.2.2

/-- Two runs, one after the other, that were computed. -/
theorem runs_of_rehearsedTwo (bucketId : String) (wanted : Plant BucketAccess → Bool)
    (h : rehearsedTwo bucketId wanted = true) (fails others : Call → Prop) :
    ∃ d earlier p d' later p',
      Run (plant BucketAccess fails others) (Accesses.reconcile oneType) 1 (.opening {} {})
        (plantWithTwo bucketId) d earlier p ∧
      Run (plant BucketAccess fails others) (Accesses.reconcile oneType) 1 d p d' later p' ∧
      (p.shows (.namespaced "n" "a") newAccessStatus = true ∧
        p.shows (.namespaced "n" "b") (otherStatus bucketId) = true ∧
        (p.facilities.backends "fake").hasGrant bucketId "account-s-id" = true ∧
        p.facilities.secrets.contains ("n", "bucket-credentials-b") = true) ∧
      (∀ note ∈ Trace.notes later, note.key = .namespaced "n" "a") ∧
      p'.shows (.namespaced "n" "b") (otherStatus bucketId) = true ∧ wanted p' = true := by
  unfold rehearsedTwo at h
  obtain ⟨⟨d, earlier, p⟩, first, facts⟩ := (Option.any_eq_true _ _).1 h
  simp only [Bool.and_eq_true, and_assoc] at facts
  obtain ⟨granted, granted', grant, secret, facts⟩ := facts
  obtain ⟨⟨d', later, p'⟩, second, facts⟩ := (Option.any_eq_true _ _).1 facts
  simp only [Bool.and_eq_true, List.all_eq_true, decide_eq_true_eq, and_assoc] at facts
  refine ⟨d, earlier, p, d', later, p', Run.start.rehearsed Plant.serveAccesses_answers ?_ first,
    Run.start.rehearsed Plant.serveAccesses_answers ?_ second, ⟨granted, granted', grant, secret⟩,
    facts⟩
  · simp only [bothGranted, List.forall_mem_append]
    refine ⟨reports_opened ?_, reports_labour⟩
    intro access mem
    simp only [List.mem_cons, List.not_mem_nil, or_false] at mem
    rcases mem with rfl | rfl
    · exact ⟨List.mem_cons_of_mem _ (List.mem_singleton_self _), rfl⟩
    · exact ⟨List.mem_cons_self, rfl⟩
  · simp only [firstRevoked, List.forall_mem_append]
    exact ⟨reports_vanished, reports_labour⟩

/-- A plant with two accesses has a sound server. -/
theorem plantWithTwo_sound (bucketId : String) : (plantWithTwo bucketId).server.Sound := by
  have first : ∀ v ∈ (ApiServer.keeping (.namespaced "n" "a") newAccess).past, v = newAccess :=
    fun v mem => List.mem_singleton.1 mem
  have apart : Object.uid? newAccess ≠ Object.uid? (otherAccess bucketId) := by
    simp [newAccess, otherAccess, Object.uid?, Object.metadata]
  refine (ApiServer.keeping_sound (by rfl) rfl (Or.inl rfl)).put ⟨by rfl, ?_⟩ rfl ?_ (Or.inl rfl) ?_
  · intro v mem place
    rw [first v mem] at place
    exact absurd place (by decide)
  · exact fun v mem same => absurd (first v mem ▸ same) apart
  · exact fun v mem same => absurd (first v mem ▸ same) apart

/-- Two accesses for different buckets have been granted, and the first is revoked when it is
gone. -/
theorem others_revoked_apart : ∃ d earlier p d' later p' access,
    (plantWithTwo "d").server.Sound ∧ (∀ v ∈ (plantWithTwo "d").server.past, NamedAfter v) ∧
    Run (plant BucketAccess (¬ Removes ·) (¬ Removes ·)) (Accesses.reconcile oneType) 1
      (.opening {} {}) (plantWithTwo "d") d earlier p ∧
    Run (plant BucketAccess (¬ Removes ·) (¬ Removes ·)) (Accesses.reconcile oneType) 1 d p d' later
      p' ∧
    (∀ made on, .called (.namespaced "n" "b") made on ∉ Trace.notes later) ∧
    access ∈ p.server.past ∧ ObjectKey.ofObject? access = some (.namespaced "n" "b") ∧
    access.status = some (otherStatus "d") ∧
    (p.facilities.backends "fake").hasGrant "d" "account-s-id" = true ∧
    ((p'.facilities.backends "fake").hasGrant "d" "account-s-id" = true ∨
      ∃ k' other status' reply, .called k' ⟨revocation "fake" "d" "account-s-id", reply⟩
          (some other) ∈ Trace.notes later ∧
        other ∈ p'.server.past ∧ ObjectKey.ofObject? other = some k' ∧
        other.status = some status' ∧ status'.accessGranted = true ∧
        status'.backendType = "fake" ∧ status'.bucketId = "d" ∧
        status'.accountId = "account-s-id") ∧
    p'.facilities.secrets.contains ("n", access.secretName) = true := by
  obtain ⟨d, earlier, p, d', later, p', reached, run, ⟨-, shown, grant, secret⟩, only, -⟩ :=
    runs_of_rehearsedTwo "d" (fun _ => true) (by decide +kernel) (¬ Removes ·) (¬ Removes ·)
  have sound := plantWithTwo_sound "d"
  have first : ∀ v ∈ (plantWithTwo "d").server.past, NamedAfter v := by
    intro v mem
    refine namedAfter_of_blank ?_
    simp only [plantWithTwo, ApiServer.put, ApiServer.keeping, List.mem_cons, List.not_mem_nil,
      or_false] at mem
    rcases mem with rfl | rfl <;> rfl
  have idle : ∀ made on, .called (.namespaced "n" "b") made on ∉ Trace.notes later :=
    fun made on mem => absurd (only _ mem) (by simp [Note.key, ObjectKey.namespaced])
  obtain ⟨access, there, is⟩ := (Option.any_eq_true _ _).1 shown
  replace is : access.status = some (otherStatus "d") := of_decide_eq_true is
  have accounted := (story_of_run (accesses_conduct oneType) reached).accounted plant_hosts sound
  obtain ⟨known, place⟩ := accounted.sound.stored _ _ there
  have named : access.secretName = "bucket-credentials-b" := by
    simp [BucketAccess.secretName, is, otherStatus, Option.filter]
  obtain ⟨kept, kept'⟩ := others_revoked oneType {} 1 sound first reached run idle known place
  exact ⟨d, earlier, p, d', later, p', access, sound, first, reached, run, idle, known, place, is,
    grant, kept _ is grant, kept' (named.symm ▸ secret)⟩

/-- Two accesses through one class and for one bucket have been granted.  When the first is gone and
is revoked, the second, which is still there and still says that it is granted, loses its grant. -/
theorem shared_grant_revoked : ∃ d earlier p d' later p',
    Run (plant BucketAccess (fun _ => False) (fun _ => False)) (Accesses.reconcile oneType) 1
      (.opening {} {}) (plantWithTwo "b") d earlier p ∧
    Run (plant BucketAccess (fun _ => False) (fun _ => False)) (Accesses.reconcile oneType) 1 d p d'
      later p' ∧
    (p.shows (.namespaced "n" "a") newAccessStatus = true ∧
      p.shows (.namespaced "n" "b") (otherStatus "b") = true ∧
      (p.facilities.backends "fake").hasGrant "b" "account-s-id" = true ∧
      p.facilities.secrets.contains ("n", "bucket-credentials-b") = true) ∧
    (∀ note ∈ Trace.notes later, note.key = .namespaced "n" "a") ∧
    p'.shows (.namespaced "n" "b") (otherStatus "b") = true ∧
    (!(p'.facilities.backends "fake").hasGrant "b" "account-s-id") = true :=
  runs_of_rehearsedTwo "b" (fun p => !(p.facilities.backends "fake").hasGrant "b" "account-s-id")
    (by decide +kernel) _ _

end BucketProvisioning.Engine
