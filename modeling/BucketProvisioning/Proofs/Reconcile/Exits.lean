import BucketProvisioning.Proofs.Reconcile.AccessConduct

/-!
# How a reconcile can end

`Conduct` says what a reconcile does as long as status writes reply with what was written.  This
module asks nothing of the replies.  `errand` is the world of a reconcile that has looked its key up,
with any reply to any call, and `Exit` lists the ways in which such a reconcile can end:

* nothing was found, and what was on record has been torn down;
* it failed: no status write got through, and the record is as it was, or has been torn down because
  the live object has taken its place;
* the live object had been built already and is on record;
* the status of the live object was written, as the last call, and what the write replied is on
  record.

A teardown makes the calls that remove what was built, in their order and each once, and goes on
whatever comes of them (`Heard`).  The main statements are `claims_exit` and `accesses_exit`: the
reconcilers of both kinds end in one of these ways.
-/

set_option autoImplicit false
set_option linter.unusedSectionVars false

namespace BucketProvisioning.Reconcile

open BucketProvisioning BucketProvisioning.Resource BucketProvisioning.Backend

/-! ## Calls and what came of them -/

/-- A call writes the status of an object. -/
def Call.isStatusWrite : Call → Bool
  | .writeClaimStatus _ _ => true
  | .writeAccessStatus _ _ => true
  | _ => false

/-- No status write among some calls got through. -/
def Unwritten (calls : List Called) : Prop :=
  ∀ called ∈ calls, called.call.isStatusWrite = true → ∃ e, called.reply = some (.error e)

/-- Some calls were made in their order, each once, and every one was answered; the latest is the
first of `calls`. -/
def Heard (made : List Call) (calls : List Called) : Prop :=
  calls.map Called.call = made.reverse ∧ ∀ called ∈ calls, called.reply.isSome

/-- Where no call was made no status was written. -/
theorem unwritten_nil : Unwritten [] := fun _ mem => absurd mem List.not_mem_nil

/-- Calls in a row write no status if they write none one by one. -/
theorem Unwritten.append {first rest : List Called} (h : Unwritten first) (h' : Unwritten rest) :
    Unwritten (rest ++ first) := by
  intro called mem
  rcases List.mem_append.1 mem with mem | mem
  · exact h' called mem
  · exact h called mem

/-- A call that is no status write, or that failed, leaves nothing written. -/
theorem Unwritten.cons {calls : List Called} (h : Unwritten calls) (c : Call)
    (reply : Except Failure c.Result)
    (failed : c.isStatusWrite = true → ∃ e, reply = .error e) :
    Unwritten (⟨c, some reply⟩ :: calls) := by
  refine List.forall_mem_cons.2 ⟨fun write => ?_, h⟩
  obtain ⟨e, is⟩ := failed write
  exact ⟨e, congrArg some is⟩

/-- An empty list of calls was made in its order. -/
theorem heard_nil : Heard [] [] := ⟨rfl, fun _ mem => absurd mem List.not_mem_nil⟩

/-- A call that is made next and answered is the latest one. -/
theorem Heard.concat {made : List Call} {calls : List Called} (h : Heard made calls) (c : Call)
    (reply : Except Failure c.Result) : Heard (made ++ [c]) (⟨c, some reply⟩ :: calls) := by
  refine ⟨?_, List.forall_mem_cons.2 ⟨rfl, h.2⟩⟩
  rw [List.map_cons, h.1, List.reverse_append]
  rfl

/-- Whatever was to be called has been called and answered. -/
theorem Heard.answered {made : List Call} {calls : List Called} (h : Heard made calls) {c : Call}
    (mem : c ∈ made) : ∃ reply, ⟨c, some reply⟩ ∈ calls := by
  have there : c ∈ calls.map Called.call := by
    rw [h.1]
    exact List.mem_reverse.2 mem
  obtain ⟨called, made, rfl⟩ := List.mem_map.1 there
  obtain ⟨reply, is⟩ := Option.isSome_iff_exists.1 (h.2 called made)
  refine ⟨reply, ?_⟩
  rw [← is]
  exact made

/-- Calls of another kind write no status. -/
theorem Heard.unwritten {made : List Call} {calls : List Called} (h : Heard made calls)
    (other : ∀ c ∈ made, c.isStatusWrite = false) : Unwritten calls := by
  intro called mem write
  have there : called.call ∈ made.reverse := h.1 ▸ List.mem_map_of_mem mem
  rw [other _ (List.mem_reverse.1 there)] at write
  exact absurd write Bool.false_ne_true

/-! ## The ways to end -/

variable {α : Type} [Object α] [Managed α]

/-- What becomes of the record before a live object is attended to, and the calls that were made for
it. -/
inductive Swept (backends : Registry) (k : ObjectKey) (live : α) :
    (initial record : Option α) → List Called → Prop
  /-- The record is none, or not one that the live object has taken the place of. -/
  | untouched {initial : Option α} (fits : ∀ old, initial = some old → isSuperseded old live = false) :
      Swept backends k live initial initial []
  /-- What was on record has been torn down. -/
  | replaced {old : α} {calls : List Called} (superseded : isSuperseded old live = true)
      (heard : Heard (removal backends k old) calls) :
      Swept backends k live (some old) none calls

/-- The ways in which a reconcile can end, by what was on record and what was found. -/
inductive Exit (backends : Registry) (k : ObjectKey) (initial : Option α) :
    (found : Option α) → Except Failure Unit → (record : Option α) → List Called → Prop
  /-- Nothing was found, and nothing was on record. -/
  | absent (blank : initial = none) : Exit backends k initial none (.ok ()) none []
  /-- Nothing was found, and what was on record has been torn down. -/
  | tornDown {old : α} {calls : List Called} (recorded : initial = some old)
      (heard : Heard (removal backends k old) calls) :
      Exit backends k initial none (.ok ()) none calls
  /-- The live object could not be attended to. -/
  | failed {live : α} {e : Failure} {record : Option α} {first rest : List Called}
      (swept : Swept backends k live initial record first) (unwritten : Unwritten rest) :
      Exit backends k initial (some live) (.error e) record (rest ++ first)
  /-- The live object had been built already. -/
  | kept {live : α} {record : Option α} {first rest : List Called}
      (swept : Swept backends k live initial record first) (unwritten : Unwritten rest)
      (built : isBuilt live = true) :
      Exit backends k initial (some live) (.ok ()) (some live) (rest ++ first)
  /-- The live object has been built, and the write of its status was the last call. -/
  | written {live obj : α} {status : Managed.Status α} {c : Call} {reply : Except Failure c.Result}
      {record : Option α} {first rest : List Called}
      (swept : Swept backends k live initial record first) (unwritten : Unwritten rest)
      (unbuilt : isBuilt live = false) (writes : Managed.written? c = some (live, status))
      (built : Managed.built status = true) (confirmed : Managed.confirmed? c reply = some obj) :
      Exit backends k initial (some live) (.ok ()) (some obj) (⟨c, some reply⟩ :: rest ++ first)

/-! ## Errands -/

/-- A reconcile that has looked its key up reads and writes the record of that key and no other, and
makes whatever calls, with whatever replies. -/
def errand (k : ObjectKey) : World α (Attempt α) where
  allows _ r :=
    match r with
    | .call _ => True
    | .publish _ _ => True
    | .store (.lookup _) => False
    | .store (.recordOf k') => k' = k
    | .store (.remember k' _) => k' = k
    | .store (.forget k') => k' = k
  answers a r reply a' :=
    match r with
    | .call c => a' = a.calling c reply
    | .publish _ _ => a' = a
    | .store (.lookup _) => a' = a
    | .store (.recordOf _) => reply = a.record ∧ a' = a
    | .store (.remember _ obj) => a' = { a with record := some obj }
    | .store (.forget _) => a' = { a with record := none }

/-- An attempt after some more calls. -/
def Attempt.after (a : Attempt α) (calls : List Called) : Attempt α :=
  { a with calls := calls ++ a.calls }

/-- An attempt that has just begun takes up all its calls. -/
@[simp] theorem Attempt.opening_after (found record : Option α) (calls : List Called) :
    (Attempt.opening found record).after calls = ⟨found, record, record, calls⟩ := by
  unfold Attempt.opening Attempt.after
  rw [List.append_nil]

namespace Errand

variable {k : ObjectKey} {a : Attempt α} {β : Type}

/-- A call may have any reply. -/
theorem ensures_call {c : Call} {Q : Except Failure c.Result → Attempt α → Prop}
    (h : ∀ reply, Q reply (a.calling c reply)) :
    (Task.call c : Task α c.Result).Ensures (errand k) a Q := by
  refine Task.ensures_call.2 ⟨trivial, ?_⟩
  rintro reply _ rfl
  exact h reply

/-- A record is read as it is. -/
theorem ensures_recordOf {Q : Except Failure (Option α) → Attempt α → Prop}
    (h : Q (.ok a.record) a) :
    (Task.recordOf k : Task α (Option α)).Ensures (errand k) a Q := by
  refine Task.ensures_recordOf.2 ⟨rfl, ?_⟩
  rintro _ _ ⟨rfl, rfl⟩
  exact h

/-- What is remembered is on record. -/
theorem ensures_remember {obj : α} {Q : Except Failure Unit → Attempt α → Prop}
    (h : Q (.ok ()) { a with record := some obj }) :
    (Task.remember k obj : Task α Unit).Ensures (errand k) a Q := by
  refine Task.ensures_remember.2 ⟨rfl, ?_⟩
  rintro _ _ rfl
  exact h

/-- What is forgotten is on record no longer. -/
theorem ensures_forget {Q : Except Failure Unit → Attempt α → Prop}
    (h : Q (.ok ()) { a with record := none }) :
    (Task.forget k : Task α Unit).Ensures (errand k) a Q := by
  refine Task.ensures_forget.2 ⟨rfl, ?_⟩
  rintro _ _ rfl
  exact h

/-- An event leaves the attempt as it is. -/
theorem ensures_publish {ω : Type} [Object ω] {obj : ω} {e : Event}
    {Q : Except Failure Unit → Attempt α → Prop} (h : Q (.ok ()) a) :
    (Task.publish obj e : Task α Unit).Ensures (errand k) a Q := by
  refine Task.ensures_publish.2 ⟨trivial, ?_⟩
  rintro _ _ rfl
  exact h

/-- The way is clear for a live object as soon as what it has taken the place of is torn down. -/
theorem ensures_attend (backends : Registry) {live : α} {record : Option α}
    {teardown : Task α Unit}
    (tears : ∀ old, record = some old → ∀ Q : Except Failure Unit → Attempt α → Prop,
      (∀ calls, Heard (removal backends k old) calls →
        Q (.ok ()) ⟨some live, record, none, calls⟩) →
      teardown.Ensures (errand k) (.opening (some live) record) Q)
    {Q : Except Failure Unit → Attempt α → Prop}
    (h : ∀ left calls, Swept backends k live record left calls →
      Q (.ok ()) ⟨some live, record, left, calls⟩) :
    (Slot.attend k live teardown).Ensures (errand k) (.opening (some live) record) Q := by
  unfold Slot.attend
  refine Task.ensures_bind.2 (ensures_recordOf ?_)
  cases record with
  | none => exact h none [] (.untouched nofun)
  | some old =>
    refine Task.ensures_ite (fun superseded => ?_) fun fits => ?_
    · exact tears old rfl Q fun calls heard => h none calls (.replaced superseded heard)
    · refine h (some old) [] (.untouched ?_)
      rintro _ ⟨⟩
      exact Bool.not_eq_true _ ▸ fits

/-- What is left to do for a live object once the way is clear: the record is as it was after a
failure, and after a success it is one of the live object, built, whose status may have been
written by the last call. -/
inductive Attended (live : α) (a : Attempt α) : Except Failure Unit → Attempt α → Prop
  /-- It failed. -/
  | failed {e : Failure} {rest : List Called} (unwritten : Unwritten rest) :
      Attended live a (.error e) (a.after rest)
  /-- The live object had been built already. -/
  | kept {rest : List Called} (unwritten : Unwritten rest) (built : isBuilt live = true) :
      Attended live a (.ok ()) { a.after rest with record := some live }
  /-- The status of the live object was written. -/
  | written {obj : α} {status : Managed.Status α} {c : Call} {reply : Except Failure c.Result}
      {rest : List Called} (unwritten : Unwritten rest) (unbuilt : isBuilt live = false)
      (writes : Managed.written? c = some (live, status)) (built : Managed.built status = true)
      (confirmed : Managed.confirmed? c reply = some obj) :
      Attended live a (.ok ()) { (a.after rest).calling c reply with record := some obj }

/-- A live object that was attended to once the way was clear. -/
theorem Attended.exit {backends : Registry} {live : α} {initial record : Option α}
    {first : List Called} {outcome : Except Failure Unit} {a : Attempt α}
    (h : Attended live ⟨some live, initial, record, first⟩ outcome a)
    (swept : Swept backends k live initial record first) :
    Exit backends k initial (some live) outcome a.record a.calls := by
  cases h with
  | failed unwritten => exact .failed swept unwritten
  | kept unwritten built => exact .kept swept unwritten built
  | written unwritten unbuilt writes built confirmed =>
    exact .written swept unwritten unbuilt writes built confirmed

end Errand

/-! ## Claims -/

namespace Claims

variable {backends : Registry} {k : ObjectKey} {a : Attempt BucketClaim}
variable {Q : Except Failure Unit → Attempt BucketClaim → Prop}

/-- The bucket of a claim is disposed of. -/
theorem errand_disposeBucket {old : BucketClaim}
    (h : ∀ calls, Heard (removal backends old) calls → Q (.ok ()) (a.after calls)) :
    (disposeBucket backends old).Ensures (errand k) a Q := by
  unfold disposeBucket
  split
  · rename_i unbuilt
    exact h [] (by simp [removal, unbuilt, heard_nil])
  · rename_i status built
    refine Task.ensures_ite (fun kept => ?_) fun due => ?_
    · exact Errand.ensures_publish (h [] (by simp [removal, built, kept, heard_nil]))
    · unfold deleteBucket requestDeletion
      refine Task.ensures_bind.2 (Task.ensures_attempt.2 (Task.ensures_ite ?_ ?_))
      · intro served
        refine Errand.ensures_call fun reply => ?_
        have done := h [⟨.backend status.backendType
          (.deleteBucket status.bucketId status.region), some reply⟩]
          (by simpa [removal, built, due, served] using heard_nil.concat _ reply)
        cases reply with
        | ok => exact Errand.ensures_publish done
        | error e => exact Task.ensures_ite (fun _ => done) fun _ => Errand.ensures_publish done
      · intro unserved
        have done := h [] (by simp [removal, built, due, unserved, heard_nil])
        exact Task.ensures_ite (fun _ => done) fun _ => Errand.ensures_publish done

/-- A teardown succeeds and leaves no record. -/
theorem errand_tearDown (blank : a.record = none → Q (.ok ()) a)
    (torn : ∀ old calls, a.record = some old → Heard (removal backends old) calls →
      Q (.ok ()) { a.after calls with record := none }) :
    (tearDown backends k).Ensures (errand k) a Q := by
  unfold tearDown
  refine Task.ensures_bind.2 (Errand.ensures_recordOf ?_)
  cases is : a.record with
  | none => exact blank is
  | some old =>
    refine Task.ensures_bind.2 (errand_disposeBucket fun calls heard => ?_)
    exact Errand.ensures_forget (torn old calls is heard)

/-- A claim without a bucket is provisioned, or nothing is written. -/
theorem errand_provision {claim : BucketClaim} {c : BucketClass} {first : List Called}
    (unwritten : Unwritten first) (unbuilt : claim.isProvisioned = false) :
    (provision backends k claim c).Ensures (errand k) (a.after first)
      (Errand.Attended claim a) := by
  unfold provision
  refine Task.ensures_bind.2 (Task.ensures_ofExcept.2 ?_)
  cases backends.forClass c with
  | error e => exact .failed unwritten
  | ok backendType =>
    cases claim.metadata.uid with
    | none => exact .failed unwritten
    | some uid =>
      refine Task.ensures_bind.2 (Errand.ensures_call fun reply => ?_)
      have created := unwritten.cons (.backend backendType (.createBucket uid c.spec.region)) reply
        nofun
      cases reply with
      | error e => exact .failed created
      | ok bucketId =>
        refine Task.ensures_bind.2 (Errand.ensures_call fun reply => ?_)
        cases reply with
        | error e => exact .failed (created.cons (.writeClaimStatus _ _) (.error e) fun _ => ⟨e, rfl⟩)
        | ok updated =>
          refine Task.ensures_bind.2 (Errand.ensures_remember (Errand.ensures_publish ?_))
          exact .written (c := .writeClaimStatus _ _) created unbuilt rfl rfl rfl

/-- A live claim is synced once the way is clear. -/
theorem errand_sync {claim : BucketClaim} :
    (sync backends k claim).Ensures (errand k) a (Errand.Attended claim a) := by
  unfold sync
  refine Task.ensures_bind.2 (Task.ensures_ofExcept.2 ?_)
  cases claim.spec.check k.text with
  | error e => exact .failed unwritten_nil
  | ok className =>
    refine Task.ensures_bind.2 (Errand.ensures_call fun reply => ?_)
    have read := unwritten_nil.cons (.getClass className) reply nofun
    cases reply with
    | error e => exact .failed read
    | ok c =>
      refine Task.ensures_ite (fun built => ?_) fun unbuilt => ?_
      · exact Errand.ensures_remember (.kept read built)
      · exact errand_provision read (Bool.not_eq_true _ ▸ unbuilt)

/-- A live claim is attended to: what it has taken the place of is torn down first. -/
theorem errand_syncLive {claim : BucketClaim} {record : Option BucketClaim} :
    (syncLive backends k claim).Ensures (errand k) (.opening (some claim) record)
      fun outcome a => Exit backends k record (some claim) outcome a.record a.calls := by
  unfold syncLive
  rw [tearDownSuperseded_eq]
  refine Task.ensures_bind.2 (Errand.ensures_attend backends ?_ fun left calls swept => ?_)
  · intro old is Q torn
    refine errand_tearDown (fun blank => ?_) fun old' calls is' heard => ?_
    · exact absurd (is.symm.trans blank) (Option.some_ne_none _)
    · obtain rfl : old = old' := Option.some.inj (is.symm.trans is')
      rw [Attempt.opening_after]
      exact torn calls heard
  · refine Task.ensures_bind.2 (Task.ensures_attempt.2 (errand_sync.mono ?_))
    intro outcome a attended
    have exit := attended.exit swept
    cases outcome with
    | ok => exact exit
    | error e => exact Task.ensures_bind.2 (Errand.ensures_publish exit)

end Claims

/-! ## Accesses -/

namespace Accesses

variable {backends : Registry} {k : ObjectKey} {a : Attempt BucketAccess}
variable {Q : Except Failure Unit → Attempt BucketAccess → Prop}

/-- The secret of an access is deleted, whatever comes of it. -/
theorem errand_deleteSecret (old : BucketAccess)
    (h : ∀ reply, Q (.ok ()) (a.calling (.deleteSecret k.nsOrEmpty old.secretName) reply)) :
    (deleteSecret k old).Ensures (errand k) a Q := by
  unfold deleteSecret removeSecret
  refine Task.ensures_bind.2 (Task.ensures_attempt.2 (Task.ensures_bind.2
    (Task.ensures_attempt.2 (Errand.ensures_call fun reply => ?_))))
  cases reply with
  | ok => exact h _
  | error e => exact Task.ensures_ite (fun _ => h _) fun _ => Errand.ensures_publish (h _)

/-- The grant and the secret of an access are disposed of, each whatever comes of the other. -/
theorem errand_disposeGrant {old : BucketAccess}
    (h : ∀ calls, Heard (removal backends k old) calls → Q (.ok ()) (a.after calls)) :
    (disposeGrant backends k old).Ensures (errand k) a Q := by
  unfold disposeGrant
  split
  · rename_i unbuilt
    exact h [] (by simp [removal, unbuilt, heard_nil])
  rename_i status granted
  -- the secret goes last, whatever has become of the grant
  unfold revokeGrant requestRevocation
  refine Task.ensures_bind.2 (Task.ensures_bind.2 (Task.ensures_attempt.2
    (Task.ensures_ite (fun served => ?_) fun unserved => ?_)))
  · refine Errand.ensures_call fun reply => ?_
    have next : (deleteSecret k old).Ensures (errand k) _ Q :=
      errand_deleteSecret old (a := a.calling (.backend status.backendType
        (.revokeAccess status.bucketId status.accountId)) reply) fun reply' =>
      h [⟨.deleteSecret k.nsOrEmpty old.secretName, some reply'⟩, ⟨.backend status.backendType
        (.revokeAccess status.bucketId status.accountId), some reply⟩]
        (by simpa [removal, granted, served] using (heard_nil.concat _ reply).concat _ reply')
    cases reply with
    | ok => exact Errand.ensures_publish next
    | error e => exact Task.ensures_ite (fun _ => next) fun _ => Errand.ensures_publish next
  · have next : (deleteSecret k old).Ensures (errand k) a Q := errand_deleteSecret old fun reply =>
      h [⟨.deleteSecret k.nsOrEmpty old.secretName, some reply⟩]
        (by simpa [removal, granted, unserved] using heard_nil.concat _ reply)
    exact Task.ensures_ite (fun _ => next) fun _ => Errand.ensures_publish next

/-- A revocation succeeds and leaves no record. -/
theorem errand_revoke (blank : a.record = none → Q (.ok ()) a)
    (torn : ∀ old calls, a.record = some old → Heard (removal backends k old) calls →
      Q (.ok ()) { a.after calls with record := none }) :
    (revoke backends k).Ensures (errand k) a Q := by
  unfold revoke
  refine Task.ensures_bind.2 (Errand.ensures_recordOf ?_)
  cases is : a.record with
  | none => exact blank is
  | some old =>
    refine Task.ensures_bind.2 (errand_disposeGrant fun calls heard => ?_)
    exact Errand.ensures_forget (torn old calls is heard)

/-- A secret is read, and created if there is none. -/
theorem errand_materialize {ns : String} {secret : Secret} {first : List Called}
    (unwritten : Unwritten first) {Q : Except Failure Bool → Attempt BucketAccess → Prop}
    (h : ∀ result rest, Unwritten rest → Q result (a.after rest)) :
    (materialize ns secret).Ensures (errand k) (a.after first) Q := by
  unfold materialize
  refine Task.ensures_bind.2 (Errand.ensures_call fun reply => ?_)
  have read := unwritten.cons (.getSecret ns secret.metadata.nameOrEmpty) reply nofun
  cases reply with
  | error e => exact h _ _ read
  | ok found =>
    cases (found : Option Secret) with
    | some _ => exact h _ _ read
    | none =>
      refine Task.ensures_bind.2 (Errand.ensures_call fun reply => ?_)
      have created := read.cons (.createSecret ns secret) reply nofun
      cases reply <;> exact h _ _ created

/-- The claim of an access is read, if it names one. -/
theorem errand_resolveBucket {source : BucketSource} {first : List Called}
    (unwritten : Unwritten first) {Q : Except Failure String → Attempt BucketAccess → Prop}
    (h : ∀ result rest, Unwritten rest → Q result (a.after rest)) :
    (resolveBucket k source).Ensures (errand k) (a.after first) Q := by
  unfold resolveBucket
  split
  · exact h _ _ unwritten
  · rename_i name
    refine Task.ensures_bind.2 (Errand.ensures_call fun reply => ?_)
    have read := unwritten.cons (.getClaim k.nsOrEmpty name) reply nofun
    cases reply with
    | error e => exact h _ _ read
    | ok claim =>
      show Task.Ensures (errand k) _ _ Q
      split
      · exact h _ _ read
      · exact h _ _ read

/-- A grant is recorded, or nothing is written. -/
theorem errand_recordGrant {access : BucketAccess} {c : BucketClass} {backendType bucketId : String}
    {g : Grant} {first : List Called} (unwritten : Unwritten first)
    (ungranted : access.isGranted = false) :
    (recordGrant k access c backendType bucketId g).Ensures (errand k) (a.after first)
      (Errand.Attended access a) := by
  unfold recordGrant
  refine Task.ensures_bind.2 (errand_materialize unwritten fun result rest unwritten => ?_)
  cases result with
  | error e => exact .failed unwritten
  | ok _ =>
    refine Task.ensures_bind.2 (Errand.ensures_call fun reply => ?_)
    cases reply with
    | error e => exact .failed (unwritten.cons (.writeAccessStatus _ _) (.error e) fun _ => ⟨e, rfl⟩)
    | ok updated =>
      refine Task.ensures_bind.2 (Errand.ensures_remember (Errand.ensures_publish ?_))
      exact .written (c := .writeAccessStatus _ _) unwritten ungranted rfl rfl rfl

/-- An access is granted through its class, or nothing is written. -/
theorem errand_grantThrough {access : BucketAccess} {c : BucketClass} {source : BucketSource}
    {first : List Called} (unwritten : Unwritten first) (ungranted : access.isGranted = false) :
    (grantThrough backends k access c source).Ensures (errand k) (a.after first)
      (Errand.Attended access a) := by
  unfold grantThrough
  refine Task.ensures_bind.2 (Task.ensures_ofExcept.2 ?_)
  cases backends.forClass c with
  | error e => exact .failed unwritten
  | ok backendType =>
    refine Task.ensures_bind.2 (errand_resolveBucket unwritten fun result rest unwritten => ?_)
    cases result with
    | error e => exact .failed unwritten
    | ok bucketId =>
      refine Task.ensures_bind.2 (Task.ensures_ofExcept.2 ?_)
      cases accountName c with
      | error e => exact .failed unwritten
      | ok account =>
        refine Task.ensures_bind.2 (Errand.ensures_call fun reply => ?_)
        have asked := unwritten.cons (.backend backendType (.grantAccess bucketId account)) reply
          nofun
        cases reply with
        | error e => exact .failed asked
        | ok g => exact errand_recordGrant (a := a) asked ungranted

/-- A live access is granted once the way is clear. -/
theorem errand_grant {access : BucketAccess} :
    (grant backends k access).Ensures (errand k) a (Errand.Attended access a) := by
  unfold grant
  refine Task.ensures_bind.2 (Task.ensures_ofExcept.2 ?_)
  cases access.spec.check k.text with
  | error e => exact .failed unwritten_nil
  | ok refs =>
    refine Task.ensures_bind.2 (Errand.ensures_call fun reply => ?_)
    have read := unwritten_nil.cons (.getClass refs.className) reply nofun
    cases reply with
    | error e => exact .failed read
    | ok c =>
      refine Task.ensures_ite (fun built => ?_) fun unbuilt => ?_
      · exact Errand.ensures_remember (.kept read built)
      · exact errand_grantThrough read (Bool.not_eq_true _ ▸ unbuilt)

/-- A live access is attended to: what it has taken the place of is revoked first. -/
theorem errand_grantLive {access : BucketAccess} {record : Option BucketAccess} :
    (grantLive backends k access).Ensures (errand k) (.opening (some access) record)
      fun outcome a => Exit backends k record (some access) outcome a.record a.calls := by
  unfold grantLive
  rw [revokeSuperseded_eq]
  refine Task.ensures_bind.2 (Errand.ensures_attend backends ?_ fun left calls swept => ?_)
  · intro old is Q torn
    refine errand_revoke (fun blank => ?_) fun old' calls is' heard => ?_
    · exact absurd (is.symm.trans blank) (Option.some_ne_none _)
    · obtain rfl : old = old' := Option.some.inj (is.symm.trans is')
      rw [Attempt.opening_after]
      exact torn calls heard
  · refine Task.ensures_bind.2 (Task.ensures_attempt.2 (errand_grant.mono ?_))
    intro outcome a attended
    have exit := attended.exit swept
    cases outcome with
    | ok => exact exit
    | error e => exact Task.ensures_bind.2 (Errand.ensures_publish exit)

end Accesses

/-! ## Both kinds -/

/-- The reconciler of a kind ends in one of the ways of `Exit`, whatever is cached and on record and
whatever comes of its calls. -/
structure Exits (backends : Registry)
    (reconcile : String → Program α (Except Failure Unit)) : Prop where
  /-- No status is written in order to remove something. -/
  silent : ∀ k (old : α), ∀ c ∈ removal backends k old, c.isStatusWrite = false
  /-- A text that is no key is dropped. -/
  drops : ∀ text e, ObjectKey.parse text = .error e → reconcile text = .done (.ok ())
  /-- A key is looked up; if that fails, so does the reconcile, and nothing else happens. -/
  exits : ∀ text k, ObjectKey.parse text = .ok k →
    ∃ next, reconcile text = .ask (.store (.lookup k)) next ∧
      (∀ e, next (.error e) = .done (.error e)) ∧
      ∀ found record, (next (.ok found)).Ensures (errand k) (.opening found record)
        fun outcome a => Exit backends k record found outcome a.record a.calls

/-- **A reconcile of a claim ends in one of the ways of `Exit`.** -/
theorem claims_exit (backends : Registry) : Exits backends (Claims.reconcile backends) where
  silent k old c mem := by
    obtain ⟨status, -, -, -, -, rfl⟩ := Claims.mem_removal.1 mem
    rfl
  drops text e read := by simp only [Claims.reconcile, read]
  exits text k read := by
    refine ⟨_, by simp only [Claims.reconcile, read]; rfl, fun _ => rfl, ?_⟩
    intro found record
    cases found with
    | none =>
      refine Claims.errand_tearDown (fun blank => ?_) fun old calls is heard => ?_
      · obtain rfl : record = none := blank
        exact .absent rfl
      · rw [Attempt.opening_after]
        exact .tornDown is heard
    | some claim => exact Claims.errand_syncLive

/-- **A reconcile of an access ends in one of the ways of `Exit`.** -/
theorem accesses_exit (backends : Registry) : Exits backends (Accesses.reconcile backends) where
  silent k old c mem := by
    obtain ⟨status, -, -, ⟨-, rfl⟩ | rfl⟩ := Accesses.mem_removal.1 mem <;> rfl
  drops text e read := by simp only [Accesses.reconcile, read]
  exits text k read := by
    refine ⟨_, by simp only [Accesses.reconcile, read]; rfl, fun _ => rfl, ?_⟩
    intro found record
    cases found with
    | none =>
      refine Accesses.errand_revoke (fun blank => ?_) fun old calls is heard => ?_
      · obtain rfl : record = none := blank
        exact .absent rfl
      · rw [Attempt.opening_after]
        exact .tornDown is heard
    | some access => exact Accesses.errand_grantLive

end BucketProvisioning.Reconcile
