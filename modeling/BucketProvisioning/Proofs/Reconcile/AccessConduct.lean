import BucketProvisioning.Proofs.Reconcile.ClaimConduct

/-!
# How accesses are reconciled

An access is built by granting it, storing the credentials in a secret and writing the status that
names both, and removed by revoking the grant and deleting the secret that the status names.
`accesses_conduct` says that the reconciler keeps to what an attempt at an access may do.
-/

set_option autoImplicit false

namespace BucketProvisioning.Reconcile

open BucketProvisioning BucketProvisioning.Resource BucketProvisioning.Backend

namespace Accesses

/-- The calls that remove what was built for an access: its grant, if the backend is served, and
its secret. -/
def removal (backends : Registry) (k : ObjectKey) (access : BucketAccess) : List Call :=
  match access.status.filter AccessStatus.accessGranted with
  | some status =>
    (if backends.serves status.backendType then
      [.backend status.backendType (.revokeAccess status.bucketId status.accountId)]
    else []) ++ [.deleteSecret k.nsOrEmpty access.secretName]
  | none => []

/-- The calls that may be made for a live access: its class, its claim and its secret are read; if
it has not been granted yet, it is granted, a secret of its own is created, and the status that
names the secret is written. -/
def Tends (backends : Registry) (k : ObjectKey) (access : BucketAccess) : Call → Prop
  | .getClass _ => True
  | .getClaim _ _ => True
  | .getSecret _ _ => True
  | .backend _ (.grantAccess _ _) => access.isGranted = false
  | .createSecret ns secret =>
    access.isGranted = false ∧ ns = k.nsOrEmpty ∧
      secret.metadata.nameOrEmpty = access.secretName
  | .writeAccessStatus copy status =>
    copy = access ∧ access.isGranted = false ∧ status.accessGranted = true ∧
      backends.serves status.backendType = true ∧ status.secretName = access.secretName
  | _ => False

/-- The access and the status that a call writes. -/
def written? : Call → Option (BucketAccess × AccessStatus)
  | .writeAccessStatus access status => some (access, status)
  | _ => none

/-- The access that a confirmed status write tells of. -/
def confirmed? : (c : Call) → Except Failure c.Result → Option BucketAccess
  | .writeAccessStatus _ _, .ok (updated : BucketAccess) => some updated
  | _, _ => none

/-- What is called to remove what was built for an access: a revocation, if the backend type is
served, and the deletion of the secret. -/
theorem mem_removal {backends : Registry} {k : ObjectKey} {access : BucketAccess} {c : Call} :
    c ∈ removal backends k access ↔ ∃ status, access.status = some status ∧
      status.accessGranted = true ∧
      ((backends.serves status.backendType = true ∧
          c = .backend status.backendType (.revokeAccess status.bucketId status.accountId)) ∨
        c = .deleteSecret k.nsOrEmpty access.secretName) := by
  unfold removal
  cases is : access.status with
  | none => simp
  | some status =>
    cases granted : status.accessGranted <;> cases served : backends.serves status.backendType <;>
      simp [Option.filter, granted, served]

/-- The name of an object is that of its key. -/
theorem nameOrEmpty_of_ofObject? {α : Type} [Object α] {obj : α} {k : ObjectKey}
    (is : ObjectKey.ofObject? obj = some k) : (Object.metadata obj).nameOrEmpty = k.name := by
  unfold ObjectKey.ofObject? at is
  cases name : (Object.metadata obj).name with
  | none => simp [name] at is
  | some word =>
    by_cases empty : word.isEmpty = true
    · simp [name, empty] at is
    · simp only [name, empty, Bool.false_eq_true, if_false, Option.some.injEq] at is
      rw [← is]
      simp [Metadata.nameOrEmpty, name]

/-- The secret of an access can be told from the status and the key. -/
theorem secretName_congr {k : ObjectKey} {access access' : BucketAccess}
    (is : ObjectKey.ofObject? access = some k) (is' : ObjectKey.ofObject? access' = some k)
    (same : access.status = access'.status) : access.secretName = access'.secretName := by
  have name : access.metadata.nameOrEmpty = k.name := nameOrEmpty_of_ofObject? is
  have name' : access'.metadata.nameOrEmpty = k.name := nameOrEmpty_of_ofObject? is'
  simp only [BucketAccess.secretName, same, name, name']

end Accesses

instance : Managed BucketAccess where
  Status := AccessStatus
  status? := BucketAccess.status
  built := AccessStatus.accessGranted
  written? := Accesses.written?
  confirmed? := Accesses.confirmed?
  removal := Accesses.removal
  Tends backends k access _ c := Accesses.Tends backends k access c
  written_of_confirmed := by
    intro c reply obj told
    unfold Accesses.confirmed? at told
    split at told
    · rfl
    · simp at told
  written_of_removal := by
    intro backends k access c mem
    obtain ⟨status, -, -, ⟨-, rfl⟩ | rfl⟩ := Accesses.mem_removal.1 mem <;> rfl
  written_of_tends := by
    intro backends k live calls c copy status tends written
    cases c <;>
      simp only [Accesses.written?, Option.some.injEq, Prod.mk.injEq, reduceCtorEq] at written
    obtain ⟨rfl, rfl⟩ := written
    obtain ⟨same, unbuilt, built, -⟩ := tends
    exact ⟨same, unbuilt, built⟩
  tends_of_removal := by
    intro backends k access c mem _ live calls
    obtain ⟨status, -, -, ⟨-, rfl⟩ | rfl⟩ := Accesses.mem_removal.1 mem <;> exact id
  removal_congr := by
    intro backends k obj obj' is is' same
    replace same : obj.status = obj'.status := same
    simp only [Accesses.removal, same, Accesses.secretName_congr is is' same]

section secrets

variable {backends : Registry} {k : ObjectKey} {a : Attempt BucketAccess}

/-- A secret is created for a live access unless one of its name exists. -/
theorem conducts_materialize {access : BucketAccess} {ns : String} {secret : Secret}
    (cleared : a.Cleared backends k) (there : a.found = some access)
    (may : Accesses.Tends backends k access (.createSecret ns secret))
    {Q : Except Failure Bool → Attempt BucketAccess → Prop}
    (h : ∀ result a', a'.found = some access → a'.Cleared backends k → Q result a') :
    (materialize ns secret).Ensures (conduct backends k) a Q := by
  unfold materialize
  have mayRead : a.Attends backends k (.getSecret ns secret.metadata.nameOrEmpty) :=
    ⟨access, there, cleared.fits, trivial⟩
  refine Task.ensures_bind.2 (Conduct.ensures_call
    (Attempt.kept_of_unwritten cleared.unwritten) (Or.inr mayRead) fun reply _ => ?_)
  have read := cleared.calling (.getSecret ns secret.metadata.nameOrEmpty) reply rfl
  cases reply with
  | error e => exact h _ _ there read
  | ok found =>
    cases (found : Option Secret) with
    | some _ => exact h _ _ there read
    | none =>
      have mayCreate := (show (a.calling (.getSecret ns secret.metadata.nameOrEmpty)
        (.ok none)).Attends backends k (.createSecret ns secret) from
          ⟨access, there, read.fits, may⟩)
      refine Task.ensures_bind.2 (Conduct.ensures_call
        (Attempt.kept_of_unwritten read.unwritten) (Or.inr mayCreate) fun reply _ => ?_)
      have created := read.calling (.createSecret ns secret) reply rfl
      cases reply <;> exact h _ _ there created

end secrets

namespace Accesses

variable {backends : Registry} {k : ObjectKey}
variable {Q : Except Failure Unit → Attempt BucketAccess → Prop}

/-- The secret of an access that is gone is deleted, after the other calls that remove what was
built for the access. -/
theorem conducts_deleteSecret {found : Option BucketAccess} {old : BucketAccess}
    {calls : List Called} (gone : Gone found old)
    (granted : (old.status.filter AccessStatus.accessGranted).isSome)
    (unwritten : ∀ called ∈ calls, (called.confirmed? : Option BucketAccess) = none)
    (made : ∀ c ∈ removal backends k old, c = .deleteSecret k.nsOrEmpty old.secretName ∨
      ∃ reply, ⟨c, some reply⟩ ∈ calls)
    (others : ∀ called ∈ calls, called.call ≠ .deleteSecret k.nsOrEmpty old.secretName)
    (h : ∀ calls, (∀ called ∈ calls, (called.confirmed? : Option BucketAccess) = none) →
      (∀ c ∈ removal backends k old, ∃ reply, ⟨c, some reply⟩ ∈ calls) →
      Q (.ok ()) ⟨found, some old, some old, calls⟩) :
    (deleteSecret k old).Ensures (conduct backends k) ⟨found, some old, some old, calls⟩ Q := by
  unfold deleteSecret removeSecret
  have may : (⟨found, some old, some old, calls⟩ : Attempt BucketAccess).Removes backends k
      (.deleteSecret k.nsOrEmpty old.secretName) := by
    refine ⟨old, rfl, gone, ?_, ?_⟩
    · obtain ⟨status, is⟩ := Option.isSome_iff_exists.1 granted
      show _ ∈ removal backends k old
      simp [removal, is]
    · rintro ⟨called, mem, same⟩
      exact others called mem same
  refine Task.ensures_bind.2 (Task.ensures_attempt.2 (Task.ensures_bind.2
    (Task.ensures_attempt.2 (Conduct.ensures_call (Attempt.kept_of_unwritten unwritten)
      (Or.inl may) fun reply _ => ?_))))
  have done := h (⟨.deleteSecret k.nsOrEmpty old.secretName, some reply⟩ :: calls)
    (List.forall_mem_cons.2 ⟨rfl, unwritten⟩) (fun c mem => ?_)
  · cases reply with
    | ok => exact done
    | error e => exact Task.ensures_ite (fun _ => done) fun _ => Conduct.ensures_publish done
  · rcases made c mem with rfl | ⟨earlier, before⟩
    · exact ⟨reply, List.mem_cons_self⟩
    · exact ⟨earlier, List.mem_cons_of_mem _ before⟩

/-- The grant and the secret of an access that is gone are disposed of: whatever comes of it, the
calls that remove them have been made. -/
theorem conducts_disposeGrant {found : Option BucketAccess} {old : BucketAccess}
    (gone : Gone found old)
    (h : ∀ calls, (∀ called ∈ calls, (called.confirmed? : Option BucketAccess) = none) →
      (∀ c ∈ removal backends k old, ∃ reply, ⟨c, some reply⟩ ∈ calls) →
      Q (.ok ()) ⟨found, some old, some old, calls⟩) :
    (disposeGrant backends k old).Ensures (conduct backends k) (.opening found (some old)) Q := by
  have nothing : ∀ called ∈ ([] : List Called), (called.confirmed? : Option BucketAccess) = none :=
    fun _ mem => absurd mem List.not_mem_nil
  unfold disposeGrant
  split
  · rename_i unbuilt
    exact h [] nothing (by simp [removal, unbuilt])
  rename_i status granted
  have built := Option.isSome_iff_exists.2 ⟨status, granted⟩
  -- the secret goes last, whatever has become of the grant
  unfold revokeGrant requestRevocation
  refine Task.ensures_bind.2 (Task.ensures_bind.2 (Task.ensures_attempt.2
    (Task.ensures_ite (fun served => ?_) fun unserved => ?_)))
  · have may : (Attempt.opening found (some old)).Removes backends k
        (.backend status.backendType (.revokeAccess status.bucketId status.accountId)) := by
      refine ⟨old, rfl, gone, ?_, ?_⟩
      · show _ ∈ removal backends k old
        simp [removal, granted, served]
      · rintro ⟨_, mem, -⟩
        exact absurd mem List.not_mem_nil
    refine Conduct.ensures_call (Attempt.kept_of_unwritten nothing) (Or.inl may) fun reply _ => ?_
    have unwritten : ∀ called ∈ [(⟨.backend status.backendType
        (.revokeAccess status.bucketId status.accountId), some reply⟩ : Called)],
        (called.confirmed? : Option BucketAccess) = none :=
      List.forall_mem_cons.2 ⟨rfl, nothing⟩
    have next := conducts_deleteSecret gone built unwritten
      (by
        intro c mem
        obtain ⟨status', is, -, ⟨-, rfl⟩ | rfl⟩ := mem_removal.1 mem
        · obtain rfl : status' = status := by
            have same := (Option.filter_eq_some_iff.1 granted).1
            exact Option.some.inj (is.symm.trans same)
          exact Or.inr ⟨reply, List.mem_cons_self⟩
        · exact Or.inl rfl)
      (by simp) h
    cases reply with
    | ok => exact Conduct.ensures_publish next
    | error e => exact Task.ensures_ite (fun _ => next) fun _ => Conduct.ensures_publish next
  · have next := conducts_deleteSecret gone built nothing
      (by simp [removal, granted, unserved]) (by simp) h
    exact Task.ensures_ite (fun _ => next) fun _ => Conduct.ensures_publish next

/-- A revocation clears the way. -/
theorem conducts_revoke {found record : Option BucketAccess}
    (gone : ∀ old, record = some old → Gone found old)
    (h : ∀ a : Attempt BucketAccess, a.found = found → a.Cleared backends k → Q (.ok ()) a) :
    (revoke backends k).Ensures (conduct backends k) (.opening found record) Q := by
  unfold revoke
  refine Task.ensures_bind.2 (Conduct.ensures_recordOf ?_)
  cases record with
  | none => exact h _ rfl (Attempt.cleared_opening (fits_none _))
  | some old =>
    have lost := gone old rfl
    refine Task.ensures_bind.2 (conducts_disposeGrant lost fun calls unwritten made => ?_)
    refine Conduct.ensures_forget ⟨old, rfl, lost, made⟩ (h _ rfl ⟨fits_none _, unwritten, ?_⟩)
    rintro _ ⟨⟩ _
    exact made

/-- Resolving the bucket writes nothing and leaves the record alone. -/
theorem conducts_resolveBucket {a : Attempt BucketAccess} {access : BucketAccess}
    {source : BucketSource} (cleared : a.Cleared backends k) (there : a.found = some access)
    {Q : Except Failure String → Attempt BucketAccess → Prop}
    (h : ∀ result a', a'.found = some access → a'.Cleared backends k → Q result a') :
    (resolveBucket k source).Ensures (conduct backends k) a Q := by
  unfold resolveBucket
  split
  · exact h _ _ there cleared
  · rename_i name
    have may : a.Attends backends k (.getClaim k.nsOrEmpty name) :=
      ⟨access, there, cleared.fits, trivial⟩
    refine Task.ensures_bind.2 (Conduct.ensures_call
      (Attempt.kept_of_unwritten cleared.unwritten) (Or.inr may) fun reply _ => ?_)
    have read := cleared.calling (.getClaim k.nsOrEmpty name) reply rfl
    cases reply with
    | error e => exact h _ _ there read
    | ok claim =>
      show Task.Ensures (conduct backends k) _ _ Q
      split
      · exact h _ _ there read
      · exact h _ _ there read

/-- The credentials of a grant are stored and the status is written. -/
theorem conducts_recordGrant {a : Attempt BucketAccess} {access : BucketAccess} {c : BucketClass}
    {backendType bucketId : String} {g : Grant} (cleared : a.Cleared backends k)
    (there : a.found = some access) (identified : (Object.uid? access).isSome)
    (ungranted : access.isGranted = false) (served : backends.serves backendType = true)
    (h : ∀ outcome a', Ends backends k outcome a' → Q outcome a') :
    (recordGrant k access c backendType bucketId g).Ensures (conduct backends k) a Q := by
  unfold recordGrant
  refine Task.ensures_bind.2 (conducts_materialize cleared there ⟨ungranted, rfl, rfl⟩ ?_)
  intro result a there cleared
  cases result with
  | error e => exact h _ _ cleared.fails
  | ok _ =>
    let status := grantedStatus g bucketId backendType access.secretName
    have may : a.Attends backends k (.writeAccessStatus access status) :=
      ⟨access, there, cleared.fits, rfl, ungranted, rfl, served, rfl⟩
    refine Task.ensures_bind.2 (Conduct.ensures_call
      (Attempt.kept_of_unwritten cleared.unwritten) (Or.inr may) fun reply lawful => ?_)
    cases reply with
    | error e =>
      exact h _ _ (cleared.calling (.writeAccessStatus _ _) (.error e) rfl).fails
    | ok updated =>
      obtain ⟨sameUid, sameKey, written⟩ := lawful updated access status rfl rfl
      have may : (a.calling (.writeAccessStatus access status) (.ok updated)).Remembers
          (updated : BucketAccess) :=
        ⟨isBuilt_of_status written rfl, cleared.fits, access, there, sameUid, sameKey,
          Or.inr ⟨_, List.mem_cons_self, rfl⟩⟩
      refine Task.ensures_bind.2 (Conduct.ensures_remember may ?_)
      exact Conduct.ensures_publish
        (h _ _ (cleared.ends_written there identified sameUid rfl))

/-- The bucket is resolved, and access to it granted and recorded. -/
theorem conducts_grantThrough {a : Attempt BucketAccess} {access : BucketAccess} {c : BucketClass}
    {source : BucketSource} (cleared : a.Cleared backends k) (there : a.found = some access)
    (identified : (Object.uid? access).isSome) (ungranted : access.isGranted = false)
    (h : ∀ outcome a', Ends backends k outcome a' → Q outcome a') :
    (grantThrough backends k access c source).Ensures (conduct backends k) a Q := by
  unfold grantThrough
  refine Task.ensures_bind.2 (Task.ensures_ofExcept.2 ?_)
  cases which : backends.forClass c with
  | error e => exact h _ _ cleared.fails
  | ok backendType =>
    refine Task.ensures_bind.2 (conducts_resolveBucket cleared there ?_)
    intro result a there cleared
    cases result with
    | error e => exact h _ _ cleared.fails
    | ok bucketId =>
      refine Task.ensures_bind.2 (Task.ensures_ofExcept.2 ?_)
      cases accountName c with
      | error e => exact h _ _ cleared.fails
      | ok account =>
        have may : a.Attends backends k (.backend backendType (.grantAccess bucketId account)) :=
          ⟨access, there, cleared.fits, ungranted⟩
        refine Task.ensures_bind.2 (Conduct.ensures_call
          (Attempt.kept_of_unwritten cleared.unwritten) (Or.inr may) fun reply _ => ?_)
        have granted := cleared.calling (.backend backendType (.grantAccess bucketId account)) reply
          rfl
        cases reply with
        | error e => exact h _ _ granted.fails
        | ok g =>
          exact conducts_recordGrant granted there identified ungranted (serves_of_forClass which) h

/-- A grant for a live access is conducted properly, once the way is clear. -/
theorem conducts_grant {a : Attempt BucketAccess} {access : BucketAccess}
    (cleared : a.Cleared backends k) (there : a.found = some access)
    (identified : (Object.uid? access).isSome)
    (h : ∀ outcome a', Ends backends k outcome a' → Q outcome a') :
    (grant backends k access).Ensures (conduct backends k) a Q := by
  unfold grant
  refine Task.ensures_bind.2 (Task.ensures_ofExcept.2 ?_)
  cases access.spec.check k.text with
  | error e => exact h _ _ cleared.fails
  | ok refs =>
    have may : a.Attends backends k (.getClass refs.className) :=
      ⟨access, there, cleared.fits, trivial⟩
    refine Task.ensures_bind.2 (Conduct.ensures_call
      (Attempt.kept_of_unwritten cleared.unwritten) (Or.inr may) fun reply _ => ?_)
    have read := cleared.calling (.getClass refs.className) reply rfl
    cases reply with
    | error e => exact h _ _ read.fails
    | ok c =>
      refine Task.ensures_ite (fun granted => ?_) fun ungranted => ?_
      · refine Conduct.ensures_remember ⟨granted, read.fits, access, there, rfl, rfl, Or.inl rfl⟩ ?_
        exact h _ _ (read.ends there identified)
      · exact conducts_grantThrough read there identified (Bool.not_eq_true _ ▸ ungranted) h

/-- A live access is attended to. -/
theorem conducts_grantLive {access : BucketAccess} {record : Option BucketAccess}
    (identified : Identified record) (live : (Object.uid? access).isSome)
    (h : ∀ outcome a, Ends backends k outcome a → Q outcome a) :
    (grantLive backends k access).Ensures (conduct backends k) (.opening (some access) record)
      Q := by
  unfold grantLive
  rw [revokeSuperseded_eq]
  refine Task.ensures_bind.2 (Conduct.ensures_attend identified ?_ fun a there cleared => ?_)
  · intro old is gone Q clears
    refine conducts_revoke ?_ clears
    rintro _ is'
    obtain rfl := Option.some.inj (is.symm.trans is')
    exact gone
  · have granted := conducts_grant (Q := Ends backends k) cleared there live fun _ _ ends => ends
    refine Task.ensures_bind.2 (Task.ensures_attempt.2 (granted.mono ?_))
    intro outcome a' ends
    cases outcome with
    | ok => exact h _ _ ends
    | error e => exact Task.ensures_bind.2 (Conduct.ensures_publish (h _ _ ends))

end Accesses

/-- **A reconcile of an access keeps to what it may do.** -/
theorem accesses_conduct (backends : Registry) :
    Conducts backends (Accesses.reconcile backends) where
  drops text e read := ⟨.ok (), by simp only [Accesses.reconcile, read]⟩
  conducts text k read := by
    refine ⟨_, by simp only [Accesses.reconcile, read]; rfl, ?_⟩
    intro found record live identified
    cases found with
    | none =>
      refine Accesses.conducts_revoke (fun old is => gone_none (identified old is)) ?_
      intro a there cleared
      refine ⟨cleared.fits, Attempt.kept_of_unwritten cleared.unwritten, cleared.removed, ?_⟩
      intro _ found
      simp [there] at found
    | some access =>
      exact Accesses.conducts_grantLive identified (live access rfl) fun _ _ ends => ends

end BucketProvisioning.Reconcile
