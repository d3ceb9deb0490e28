import BucketProvisioning.Proofs.Engine.Attempts
import BucketProvisioning.Proofs.Engine.Revocation
import BucketProvisioning.Proofs.Reconcile.Resumption
import BucketProvisioning.Proofs.Reconcile.Soberness
import BucketProvisioning.Proofs.Reconcile.Sufficiency

/-!
# How accesses are withdrawn

An access is withdrawn by two calls: its grant is revoked, and its secret is deleted.  Either of them
hits somebody else if it names the wrong thing, so every such call has to be accounted for by one
access (`Withdrawn`): the access was granted, the status that was written then names what the call
removes, the access was seen at the key and has departed since, and the call has not been made for it
before.

What comes of the calls has no bearing on anything else.  `Completed` says of a reconcile that had
the record of a departed access in hand, at its end, that both calls have been made and answered,
that the record is gone, and that all the rest is a reconcile with nothing on record.

`withdrawals_are_exact` says this of every run over an API server that had no status stored at
first.
-/

set_option autoImplicit false

namespace BucketProvisioning.Engine

open BucketProvisioning BucketProvisioning.Reconcile BucketProvisioning.Backend
open BucketProvisioning.Queue
open BucketProvisioning.Resource

variable {backends : Registry} {notes : List (Note BucketAccess)}

/-! ## What is withdrawn -/

/-- A call revokes a grant or deletes a secret. -/
def Withdraws : Call → Prop
  | .backend _ (.revokeAccess _ _) => True
  | .deleteSecret _ _ => True
  | _ => False

/-- The calls that withdraw what the status of an access names. -/
def withdrawal (k : ObjectKey) (status : AccessStatus) : List Call :=
  [revocation status.backendType status.bucketId status.accountId,
    .deleteSecret k.nsOrEmpty status.secretName]

/-- A status was written for the access with a unique identifier that lives at a key, in an attempt
that had found it ungranted, and it names the grant that the backend had just given and the secret
that was found for it or created. -/
def Granted (k : ObjectKey) (u : String) (status : AccessStatus) (notes : List (Note BucketAccess)) :
    Prop :=
  ∃ later live reply on earlier,
    notes = later ++ .called k ⟨.writeAccessStatus live status, reply⟩ on :: earlier ∧
    (attemptAt k on earlier).found = some live ∧ Object.uid? live = some u ∧
    live.isGranted = false ∧ Accesses.Reports k live (attemptAt k on earlier).calls status

/-- A call that is made for a key withdraws what was granted to the access with a unique identifier,
whose status is `status`. -/
structure Withdrawn (server : ApiServer BucketAccess) (k : ObjectKey) (u : String)
    (status : AccessStatus) (c : Call) (notes : List (Note BucketAccess)) : Prop where
  /-- The call removes what the status names. -/
  named : c ∈ withdrawal k status
  /-- The access was granted, and the status was written. -/
  granted : Granted k u status notes
  /-- The server has stored the status as that of the access. -/
  stored : ∃ access ∈ server.past, ObjectKey.ofObject? access = some k ∧
    Object.uid? access = some u ∧ access.status = some status
  /-- The last look at the key, into a complete cache, found nothing or another access, and an
  earlier look had shown the access. -/
  departed : ∃ later found initial earlier, notes = later ++ .lookedUp k found initial :: earlier ∧
    (∀ found initial, .lookedUp k found initial ∉ later) ∧ ¬ Shows u found ∧ Saw k u earlier
  /-- Nothing has been withdrawn for the access yet but, at most, by the other of the two calls. -/
  first : ∀ k' made old, .called k' made (some old) ∈ notes → Withdraws made.call →
    Object.uid? old = some u → made.call ∈ withdrawal k status ∧ made.call ≠ c

/-- A reconcile of a key has come to its end that had found an access gone of which the record was
left: both calls have been made and answered, in any way, the record of the access is gone, and the
rest is a reconcile that finds the same and has nothing on record. -/
structure Completed (backends : Registry) (k : ObjectKey) (old : BucketAccess)
    (status : AccessStatus) (outcome : Except Failure Unit) (a : Attempt BucketAccess) : Prop where
  /-- The record of the access is gone. -/
  erased : ∀ record, a.record = some record → Object.uid? record ≠ Object.uid? old
  /-- The calls have been made, and what is left is as if there had been no record. -/
  resumed : ∃ torn more next, a.calls = more ++ torn ∧ Heard (withdrawal k status) torn ∧
    Accesses.reconcile backends k.text = .ask (.store (.lookup k)) next ∧
    (a.found = none → outcome = .ok () ∧ a.record = none ∧ more = []) ∧
    (a.found.isSome → (next (.ok a.found)).Goes (errand k) (.opening a.found none) (.done outcome)
      ⟨a.found, none, a.record, more⟩)

/-- No attempt at a live access withdraws anything. -/
theorem untended_of_withdraws {c : Call} (h : Withdraws c) : Untended BucketAccess backends c := by
  intro k live calls
  cases c with
  | backend t op => cases op <;> first | exact h.elim | exact id
  | deleteSecret ns name => exact id
  | _ => exact h.elim

/-- A call that removes something of an access of which the status is known withdraws what the
status names. -/
theorem removal_eq_withdrawal {k : ObjectKey} {access : BucketAccess} {status : AccessStatus}
    (is : access.status = some status) (granted : status.accessGranted = true)
    (served : backends.serves status.backendType = true)
    (secret : access.secretName = status.secretName) :
    removal backends k access = withdrawal k status := by
  show Accesses.removal backends k access = _
  unfold Accesses.removal withdrawal revocation
  simp [is, granted, served, secret, Option.filter]

/-! ## What was on record -/

/-- What was on record when the latest attempt at a key began has been noted. -/
theorem initial_attemptAt {α : Type} [Object α] {k : ObjectKey} {record : Option α}
    {notes : List (Note α)} {old : α} (is : (attemptAt k record notes).initial = some old) :
    ∃ found, .lookedUp k found (some old) ∈ notes := by
  induction notes with
  | nil => simp [attemptAt] at is
  | cons note notes ih =>
    rcases note.look_or_other k with ⟨found, initial, rfl⟩ | other
    · rw [attemptAt_lookedUp_self] at is
      obtain rfl : initial = some old := is
      exact ⟨found, List.mem_cons_self⟩
    · rw [(found_attemptAt_cons other).2] at is
      exact (ih is).imp fun _ => List.mem_cons_of_mem _

/-- What was on record when the latest attempt at a key began had been built, and was noted. -/
theorem Story.initial {α ω : Type} [Object α] [Managed α] {O : Outside α ω} {start o : ω}
    {records : Records α} {notes : List (Note α)} {k : ObjectKey} {record : Option α} {old : α}
    (story : Story O backends start records notes o)
    (had : (attemptAt k record notes).initial = some old) :
    isBuilt old = true ∧ ObjectKey.ofObject? old = some k ∧ Noted k old notes := by
  obtain ⟨found, mem⟩ := initial_attemptAt had
  obtain ⟨later, earlier, rfl⟩ := List.append_of_mem mem
  obtain ⟨before, _, _, past, entry⟩ := story.before
  generalize on : some old = left at entry
  cases entry with
  | lookedUp k found wellFormed shown rests =>
    obtain ⟨built, place, noted, -⟩ := past.recorded on.symm
    exact ⟨built, place, (noted.cons).append later⟩

/-! ## What was granted -/

/-- Whatever is noted was so at some point of the trace. -/
theorem split_of_notes {α : Type} [Object α] {trace : Trace α} {note : Note α}
    {later earlier : List (Note α)} (is : trace.notes = later ++ note :: earlier) :
    ∃ after d h before, trace = after ++ (d, h) :: before ∧ d.note? h = some note ∧
      Trace.notes before = earlier := by
  obtain ⟨after, rest, rfl, -, split⟩ := List.filterMap_eq_append_iff.1 is
  obtain ⟨silent, ⟨d, h⟩, before, rfl, -, noted, rfl⟩ := List.filterMap_eq_cons_iff.1 split
  exact ⟨after ++ silent, d, h, before, by simp, noted, rfl⟩

section run

variable {O : Outside BucketAccess (ApiServer BucketAccess)} {count : Nat} {policy : RetryPolicy}
variable {start o : ApiServer BucketAccess} {d : Desk BucketAccess} {trace : Trace BucketAccess}

/-- What was written as the status of an access names what was granted to it. -/
theorem granted_of_written
    (run : Run O (Accesses.reconcile backends) count (.opening policy {}) start d trace o)
    {access : BucketAccess} {status : AccessStatus} (h : Written backends trace.notes access)
    (is : access.status = some status) :
    ∃ k u, ObjectKey.ofObject? access = some k ∧ Object.uid? access = some u ∧
      Granted k u status trace.notes ∧ status.accessGranted = true ∧
      backends.serves status.backendType = true ∧ access.secretName = status.secretName := by
  obtain ⟨k, later, ⟨c, reply⟩, on, earlier, live, status', split, written, found, -, tends, place,
    same, is'⟩ := h
  obtain rfl : status = status' := Option.some.inj (is.symm.trans is')
  -- only a call of one form writes the status of an access
  cases c <;> simp only [Managed.written?, Accesses.written?, Option.some.injEq, Prod.mk.injEq,
    reduceCtorEq] at written
  obtain ⟨rfl, rfl⟩ : live = _ ∧ status = _ := ⟨written.1.symm, written.2.symm⟩
  obtain ⟨-, ungranted, granted, served, secret⟩ := tends
  -- and it is made for what the backend has just given
  obtain ⟨after, d₁, h, before, rfl, noted, rfl⟩ := split_of_notes split
  obtain ⟨text, made, read, rfl⟩ := Desk.made_of_note noted
  obtain ⟨o₁, past⟩ := run.before
  obtain ⟨-, -, reports⟩ :=
    allowed_of_made (accesses_conduct backends) (accesses_granting backends) past made read
  obtain ⟨-, identified⟩ := (story_of_run (accesses_conduct backends) past).attempt_found found
  obtain ⟨u, named⟩ := Option.isSome_iff_exists.1 identified
  have name : access.secretName = status.secretName := by
    have filled : status.secretName ≠ "" := secret ▸ Accesses.secretName_ne_empty _
    simp [BucketAccess.secretName, is, Option.filter, filled]
  exact ⟨k, u, place, same.trans named,
    ⟨_, _, reply, _, _, split, found, named, ungranted, reports⟩, granted, served, name⟩

/-- The calls that remove what was built for an access that was granted withdraw what its status
names. -/
theorem withdrawal_of_granted
    (run : Run (apiServer BucketAccess) (Accesses.reconcile backends) count (.opening policy {}) start
      d trace o)
    (sound : start.Sound) (blank : ∀ access ∈ start.past, isBuilt access = false)
    {access : BucketAccess} {k : ObjectKey} (known : access ∈ o.past)
    (place : ObjectKey.ofObject? access = some k) (built : isBuilt access = true) :
    ∃ u status, Object.uid? access = some u ∧ access.status = some status ∧
      Granted k u status trace.notes ∧ removal backends k access = withdrawal k status := by
  have accounted := (story_of_run (accesses_conduct backends) run).accounted apiServer_hosts sound
  obtain ⟨status, is, -⟩ : ∃ status, access.status = some status ∧ status.accessGranted = true :=
    (Option.any_eq_true _ _).1 built
  obtain ⟨k', u, place', named, granted, whole, served, secret⟩ :=
    granted_of_written run (accounted.written_of_blank blank known built) is
  obtain rfl := Option.some.inj (place.symm.trans place')
  exact ⟨u, status, named, is, granted, removal_eq_withdrawal is whole served secret⟩

/-- A call that withdraws something is accounted for by one access. -/
theorem withdrawn_of_made {d₁ : Desk BucketAccess} {h : Happening BucketAccess}
    {later earlier : Trace BucketAccess} {text : String} {made : Called}
    (run : Run (apiServer BucketAccess) (Accesses.reconcile backends) count (.opening policy {}) start
      d (later ++ (d₁, h) :: earlier) o)
    (sound : start.Sound) (blank : ∀ access ∈ start.past, isBuilt access = false)
    (noReturn : NoReturn (Trace.notes (later ++ (d₁, h) :: earlier)))
    (is : d₁.made? h = some (text, made)) (withdraws : Withdraws made.call) :
    ∃ k access u status, ObjectKey.parse text = .ok k ∧ d₁.record? k = some access ∧
      Object.uid? access = some u ∧ access.status = some status ∧
      Withdrawn o k u status made.call earlier.notes := by
  have conducts := accesses_conduct backends
  obtain ⟨k, read, split⟩ := noted_of_made conducts run is
  obtain ⟨o₁, past⟩ := run.before
  have story := story_of_run conducts run
  rw [split] at story noReturn
  obtain ⟨access, u, departing⟩ := story.departing (untended_of_withdraws withdraws)
  have accounted := story.accounted apiServer_hosts sound
  have known : access ∈ o.past := accounted.noted ((departing.noted.cons).append later.notes)
  have known₁ : access ∈ o₁.past :=
    ((story_of_run conducts past).accounted apiServer_hosts sound).noted departing.noted
  obtain ⟨u', status, named, has, granted, removes⟩ :=
    withdrawal_of_granted past sound blank known₁ departing.place departing.built
  obtain rfl : u = u' := Option.some.inj (departing.named.symm.trans named)
  refine ⟨k, access, u, status, read, departing.is, named, has, ?_, granted,
    ⟨access, known, departing.place, named, has⟩, last_look departing.saw departing.gone, ?_⟩
  · rw [← removes]
    exact departing.removes
  · intro k' made' old mem withdraws' named'
    have same : d₁.record? k = some access := departing.is
    rw [same] at story noReturn
    obtain ⟨-, removes', other⟩ := story.once apiServer_hosts sound noReturn
      (untended_of_withdraws withdraws) (untended_of_withdraws withdraws') mem
      (named'.trans named.symm)
    exact ⟨removes ▸ removes', other⟩

/-- A reconcile that comes to its end is at its end. -/
theorem completed_of_finished {k : ObjectKey} {outcome : Except Failure Unit} {old : BucketAccess}
    {h : Happening BucketAccess}
    (run : Run (apiServer BucketAccess) (Accesses.reconcile backends) count (.opening policy {}) start
      d trace o)
    (sound : start.Sound) (blank : ∀ access ∈ start.past, isBuilt access = false)
    (is : d.note? h = some (.finished k outcome))
    (had : (d.attempt trace.notes k).initial = some old)
    (gone : Gone (d.attempt trace.notes k).found old) :
    ∃ status, old.status = some status ∧
      Completed backends k old status outcome (d.attempt trace.notes k) := by
  have conducts := accesses_conduct backends
  obtain ⟨i, reply, text, rfl, was, read⟩ := Desk.done_of_note is
  obtain rfl := ObjectKey.text_of_parse read
  rcases Desk.tracked_of_run conducts run i _ _ k was read with whole | remains
  · obtain ⟨next, looks, -⟩ := conducts.conducts _ k read
    exact absurd (whole.trans looks) nofun
  obtain ⟨next, found, initial, looks, known, known', goes⟩ := remains
  obtain ⟨next', looks', ensures⟩ := conducts.conducts _ k read
  obtain rfl : next' = next := eq_of_heq (Program.ask.inj (looks'.symm.trans looks)).2
  have errand := goes.mono (ensures found initial known known') errand_of_conduct
  have ends := held_of_finished conducts (judged_of_conducts conducts) run is
  -- the attempt is the one at what it found, with what was on record
  obtain ⟨record, calls, same, -⟩ := Errand.goes_frame errand
  have onRecord := (story_of_run conducts run).initial had
  rw [same] at had gone ends errand ⊢
  obtain rfl : initial = some old := had
  obtain ⟨built, place, noted⟩ := onRecord
  have accounted := (story_of_run conducts run).accounted apiServer_hosts sound
  obtain ⟨u, status, -, has, -, removes⟩ :=
    withdrawal_of_granted run sound blank (accounted.noted noted) place built
  obtain ⟨torn, more, heard, split, absent, resumed⟩ := accesses_resume read looks gone errand
  refine ⟨status, has, ?_, torn, more, next', split, removes ▸ heard, looks, absent, resumed⟩
  intro kept there sameUid
  obtain ⟨-, live, found, same⟩ := ends.fits kept there
  exact gone.2 live found (same.trans sameUid)

end run

/-- **Accesses are withdrawn exactly.**  In every run over an API server that has no status stored at
first, as long as no access comes back to a key after it has departed: whenever a grant is revoked or
a secret is deleted, this is done for a key and the access on record for it, and the call is accounted
for by that access and its status; and whenever a reconcile ends that found the access on record gone,
both calls have been made, whatever came of either, and nothing else has been kept from happening. -/
theorem withdrawals_are_exact (backends : Registry) (policy : RetryPolicy) (count : Nat)
    {start o : ApiServer BucketAccess} {d : Desk BucketAccess} {trace : Trace BucketAccess}
    (sound : start.Sound) (blank : ∀ access ∈ start.past, access.status = none)
    (run : Run (apiServer BucketAccess) (Accesses.reconcile backends) count (.opening policy {}) start
      d trace o)
    (noReturn : NoReturn trace.notes) :
    (∀ later d₁ h earlier text made, trace = later ++ (d₁, h) :: earlier →
      d₁.made? h = some (text, made) → Withdraws made.call →
      ∃ k access u status, ObjectKey.parse text = .ok k ∧ d₁.record? k = some access ∧
        Object.uid? access = some u ∧ access.status = some status ∧
        Withdrawn o k u status made.call (Trace.notes earlier)) ∧
    (∀ later d₁ h earlier k outcome old, trace = later ++ (d₁, h) :: earlier →
      d₁.note? h = some (.finished k outcome) →
      (d₁.attempt (Trace.notes earlier) k).initial = some old →
      Gone (d₁.attempt (Trace.notes earlier) k).found old →
      ∃ status, old.status = some status ∧
        Completed backends k old status outcome (d₁.attempt (Trace.notes earlier) k)) := by
  have unbuilt : ∀ access ∈ start.past, isBuilt access = false := by
    intro access mem
    simp [isBuilt, Managed.status?, blank access mem]
  constructor
  · rintro later d₁ h earlier text made rfl is withdraws
    exact withdrawn_of_made run sound unbuilt noReturn is withdraws
  · rintro later d₁ h earlier k outcome old rfl is had gone
    obtain ⟨o₁, past⟩ := run.before
    exact completed_of_finished past sound unbuilt is had gone

/-! ## An access that is created anew -/

/-- A note tells of a look at a key. -/
def Note.isLook {α : Type} : Note α → Bool
  | .lookedUp _ _ _ => true
  | _ => false

/-- Nothing comes back as long as there have not been more than two looks. -/
theorem noReturn_of_few_looks {α : Type} [Object α] {notes : List (Note α)}
    (few : notes.countP Note.isLook ≤ 2) : NoReturn notes := by
  rintro later k found initial earlier u rfl - ⟨later', found', initial', before, rfl, -, saw⟩
  obtain ⟨_, _, mem, -⟩ := saw
  have earliest : 0 < before.countP Note.isLook := List.countP_pos_iff.2 ⟨_, mem, rfl⟩
  simp only [List.countP_append, List.countP_cons, Note.isLook, if_true] at few
  omega

/-- The access that takes the place of `newAccess`. -/
def anotherAccess : BucketAccess :=
  { newAccess with
    metadata := { newAccess.metadata with uid := some "v", resourceVersion := some "3" } }

/-- Access is granted and secrets are created, but neither can be taken away. -/
def retentive : Replies
  | .getClass _ => .ok someClass
  | .backend _ (.grantAccess _ _) => .ok ⟨"account-s-id", default⟩
  | .getSecret _ _ => .ok none
  | .createSecret _ _ => .ok ()
  | .deleteSecret ns name => .error (.missing ns name)
  | _ => .error conflict

/-- Answers the calls for accesses in this way: status writes are accepted if they may be. -/
def serveRetentive (s : ApiServer BucketAccess) (c : Call) :
    Except Failure c.Result × ApiServer BucketAccess :=
  match c with
  | .writeAccessStatus copy status =>
    match s.accept copy (Plant.withAccessStatus copy status) with
    | some s' => (.ok (Plant.withAccessStatus copy status), s')
    | none => (.error conflict, s)
  | c => (retentive c, s)

/-- What is answered in this way is what an API server may answer. -/
theorem serveRetentive_answers (s : ApiServer BucketAccess) (c : Call) :
    (apiServer BucketAccess).answers s c (some (serveRetentive s c).1) (serveRetentive s c).2 := by
  cases c with
  | writeAccessStatus copy status =>
    simp only [serveRetentive]
    split
    · rename_i s' accepted
      obtain ⟨k, accepts, rfl⟩ := ApiServer.accepts_of_accept accepted rfl
      exact Or.inr ⟨k, _, accepts, rfl, Or.inr rfl⟩
    · exact Or.inl ⟨rfl, rfl⟩
  | _ => rfl

/-- The access once it has been granted. -/
def grantedAccess : BucketAccess := Plant.withAccessStatus newAccess newAccessStatus

/-- The access is granted; then it is removed and created anew while nobody looks, and the watch
reports the new one.  The calls that are to withdraw the first access fail, and the second is
granted. -/
theorem run_anotherAccess : ∃ d trace s,
    Run (apiServer BucketAccess) (Accesses.reconcile oneType) 1 (.opening {} {})
      (.keeping (.namespaced "n" "a") newAccess) d trace s ∧
    trace.notes.countP Note.isLook = 2 ∧
    (trace.filterMap fun e => e.1.made? e.2)[6]? =
      some ("n/a", ⟨revocation "fake" "b" "account-s-id", some (.error conflict)⟩) ∧
    (trace.filterMap fun e => e.1.made? e.2)[5]? =
      some ("n/a", ⟨.deleteSecret "n" "bucket-credentials-a",
        some (.error (.missing "n" "bucket-credentials-a"))⟩) ∧
    (∃ earlier, trace.notes = .finished (.namespaced "n" "a") (.ok ()) :: earlier ∧
      (attemptAt (.namespaced "n" "a") none earlier).initial = some grantedAccess ∧
      (attemptAt (.namespaced "n" "a") none earlier).found = some anotherAccess) ∧
    d.record? (.namespaced "n" "a") = some (Plant.withAccessStatus anotherAccess newAccessStatus) := by
  obtain ⟨d, trace, s, d', trace', s', granting, past, again, looks, revoked, deleted, ended,
      recorded⟩ : ∃ d trace s d' trace' s',
      Desk.rehearse serveRetentive (Accesses.reconcile oneType) 1 (opened [newAccess] ++ labour 14)
        (.opening {} {}) [] (.keeping (.namespaced "n" "a") newAccess) = some (d, trace, s) ∧
      s.past = [grantedAccess, newAccess] ∧
      Desk.rehearse serveRetentive (Accesses.reconcile oneType) 1
        ([.move (.receive (.apply anotherAccess)), .move .route, .move .route] ++ labour 20) d trace
        (({ s with stored := s.stored.erase (.namespaced "n" "a") } : ApiServer BucketAccess).put
          (.namespaced "n" "a") anotherAccess) = some (d', trace', s') ∧
      (Trace.notes trace').countP Note.isLook = 2 ∧
      (trace'.filterMap fun e => e.1.made? e.2)[6]? =
        some ("n/a", ⟨revocation "fake" "b" "account-s-id", some (.error conflict)⟩) ∧
      (trace'.filterMap fun e => e.1.made? e.2)[5]? =
        some ("n/a", ⟨.deleteSecret "n" "bucket-credentials-a",
          some (.error (.missing "n" "bucket-credentials-a"))⟩) ∧
      (∃ earlier, Trace.notes trace' = .finished (.namespaced "n" "a") (.ok ()) :: earlier ∧
        (attemptAt (.namespaced "n" "a") none earlier).initial = some grantedAccess ∧
        (attemptAt (.namespaced "n" "a") none earlier).found = some anotherAccess) ∧
      d'.record? (.namespaced "n" "a") =
        some (Plant.withAccessStatus anotherAccess newAccessStatus) :=
    ⟨_, _, _, _, _, _, by rfl, by rfl, by rfl, by rfl, by rfl, by rfl, ⟨_, by rfl, by rfl, by rfl⟩,
      by rfl⟩
  have first := Run.start.rehearsed serveRetentive_answers (by
    simp only [List.forall_mem_append]
    exact ⟨reports_opened (by simpa using ⟨List.mem_singleton_self newAccess, rfl⟩),
      reports_labour⟩) granting
  -- meanwhile, users remove the access and create another one
  have created : ({ s with stored := s.stored.erase (.namespaced "n" "a") }
      : ApiServer BucketAccess).Changes (({ s with
        stored := s.stored.erase (.namespaced "n" "a") } : ApiServer BucketAccess).put
          (.namespaced "n" "a") anotherAccess) := by
    refine .created _ _ (Table.get?_erase_self _ _) ⟨by rfl, ?_⟩ rfl ?_ rfl
    · intro v mem _
      rw [show v ∈ _ ↔ v ∈ [grantedAccess, newAccess] from past ▸ Iff.rfl] at mem
      simp only [List.mem_cons, List.not_mem_nil, or_false] at mem
      rcases mem with rfl | rfl <;> decide
    · intro v mem
      rw [show v ∈ _ ↔ v ∈ [grantedAccess, newAccess] from past ▸ Iff.rfl] at mem
      simp only [List.mem_cons, List.not_mem_nil, or_false] at mem
      rcases mem with rfl | rfl <;> decide
  have between := (first.drifted (ApiServer.Changes.removed (.namespaced "n" "a"))).drifted created
  have run := between.rehearsed serveRetentive_answers (by
    simp only [List.forall_mem_append]
    refine ⟨?_, reports_labour⟩
    simp [Happening.Reports]
    exact ⟨List.mem_cons_self, rfl⟩) again
  exact ⟨d', trace', s', run, looks, revoked, deleted, ended, recorded⟩

/-- A call that a list of calls shows was made at some point of the trace. -/
theorem split_of_made {α : Type} {trace : Trace α} {i : Nat} {both : String × Called}
    (is : (trace.filterMap fun e => e.1.made? e.2)[i]? = some both) :
    ∃ later d h earlier, trace = later ++ (d, h) :: earlier ∧ d.made? h = some both := by
  obtain ⟨⟨d, h⟩, mem, made⟩ := List.mem_filterMap.1 (List.mem_of_getElem? is)
  obtain ⟨later, earlier, rfl⟩ := List.append_of_mem mem
  exact ⟨later, d, h, earlier, rfl, made⟩

/-- An access that was created anew is granted although nothing of the earlier one can be taken
away. -/
theorem withdrawals_are_exact_of_recreated : ∃ d trace s,
    (ApiServer.keeping (.namespaced "n" "a") newAccess).Sound ∧ newAccess.status = none ∧
    Run (apiServer BucketAccess) (Accesses.reconcile oneType) 1 (.opening {} {})
      (.keeping (.namespaced "n" "a") newAccess) d trace s ∧
    NoReturn trace.notes ∧
    (∃ later d₁ h earlier k u status, trace = later ++ (d₁, h) :: earlier ∧
      d₁.made? h =
        some ("n/a", ⟨revocation "fake" "b" "account-s-id", some (.error conflict)⟩) ∧
      Withdrawn s k u status (revocation "fake" "b" "account-s-id") (Trace.notes earlier)) ∧
    (∃ later d₁ h earlier k u status, trace = later ++ (d₁, h) :: earlier ∧
      d₁.made? h = some ("n/a", ⟨.deleteSecret "n" "bucket-credentials-a",
        some (.error (.missing "n" "bucket-credentials-a"))⟩) ∧
      Withdrawn s k u status (.deleteSecret "n" "bucket-credentials-a") (Trace.notes earlier)) ∧
    (∃ later d₁ h earlier status, trace = later ++ (d₁, h) :: earlier ∧
      d₁.note? h = some (.finished (.namespaced "n" "a") (.ok ())) ∧
      Completed oneType (.namespaced "n" "a") grantedAccess status (.ok ())
        (d₁.attempt (Trace.notes earlier) (.namespaced "n" "a"))) ∧
    d.record? (.namespaced "n" "a") =
      some (Plant.withAccessStatus anotherAccess newAccessStatus) := by
  obtain ⟨d, trace, s, run, looks, revoked, deleted, ⟨earlier, ended, had, found⟩, recorded⟩ :=
    run_anotherAccess
  have sound : (ApiServer.keeping (.namespaced "n" "a") newAccess).Sound :=
    ApiServer.keeping_sound (by rfl) rfl (Or.inl rfl)
  have noReturn := noReturn_of_few_looks (Nat.le_of_eq looks)
  have exact := withdrawals_are_exact oneType {} 1 sound (by
    simp [ApiServer.keeping, ApiServer.put]; rfl) run noReturn
  refine ⟨d, trace, s, sound, rfl, run, noReturn, ?_, ?_, ?_, recorded⟩
  · obtain ⟨later, d₁, h, before, split, made⟩ := split_of_made revoked
    obtain ⟨k, -, u, status, -, -, -, -, withdrawn⟩ :=
      exact.1 later d₁ h before _ _ split made trivial
    exact ⟨later, d₁, h, before, k, u, status, split, made, withdrawn⟩
  · obtain ⟨later, d₁, h, before, split, made⟩ := split_of_made deleted
    obtain ⟨k, -, u, status, -, -, -, -, withdrawn⟩ :=
      exact.1 later d₁ h before _ _ split made trivial
    exact ⟨later, d₁, h, before, k, u, status, split, made, withdrawn⟩
  · obtain ⟨later, d₁, h, before, split, noted, rfl⟩ :=
      split_of_notes (show _ = [] ++ .finished _ _ :: _ from ended)
    have initial : (d₁.attempt (Trace.notes before) (.namespaced "n" "a")).initial =
        some grantedAccess :=
      (congrArg Attempt.initial (attemptAt_record (d₁.record? _))).trans had
    have gone : Gone (d₁.attempt (Trace.notes before) (.namespaced "n" "a")).found
        grantedAccess := by
      rw [show (d₁.attempt _ _).found = some anotherAccess from
        (found_attemptAt_record (d₁.record? _)).trans found]
      exact gone_some.2 (by decide)
    obtain ⟨status, -, completed⟩ :=
      exact.2 later d₁ h before _ _ grantedAccess split noted initial gone
    exact ⟨later, d₁, h, before, status, split, noted, completed⟩

end BucketProvisioning.Engine
