import BucketProvisioning.Proofs.Engine.Leftovers

/-!
# Teardown after a restart

When the process starts, nothing is on record, although much may have been built before.  What was
built for an object can be removed only if the object has been put on record in the meantime, and
for this one reconcile of it has to succeed.  From then on its class and its specification do not
matter any more: `torn_down_after_restart` says that the first reconcile that looks for the object
in vain carries out the teardown that its status records, and no other.

A reconcile that fails does not suffice: `leaked_after_restart` is a run in which the class of a
claim is missing when the claim is reconciled, and the bucket is left behind.
-/

set_option autoImplicit false
set_option linter.unusedSectionVars false

namespace BucketProvisioning.Engine

open BucketProvisioning BucketProvisioning.Reconcile BucketProvisioning.Backend
open BucketProvisioning.Queue
open BucketProvisioning.Resource

section kinds

variable {α ω : Type} [Object α] [Managed α] {O : Outside α ω} {backends : Registry}
variable {start o : ω} {records : Records α} {notes : List (Note α)} {k : ObjectKey} {u : String}

/-- What is on record is what was on record when the key was last looked up, or an object that the
attempt has found. -/
theorem Story.initial_or_fits (story : Story O backends start records notes o) :
    records k = (attemptAt k (records k) notes).initial ∨
      Fits (attemptAt k (records k) notes).found (records k) := by
  induction story with
  | start => exact Or.inl rfl
  | @noted records notes note o o' story entry ih =>
    rcases note.look_or_other k with ⟨f, i, rfl⟩ | other
    · cases entry with
      | lookedUp k found wellFormed shown rests =>
        rw [attemptAt_lookedUp_self]
        exact Or.inl rfl
    · rw [(found_attemptAt_cons other).1, (found_attemptAt_cons other).2]
      exact ih
  | @remembered records notes o k' obj story may ih =>
    by_cases here : k = k'
    · subst here
      obtain ⟨live, there, same, -⟩ := may.known
      have identified := (story.attempt_found there).2
      rw [Function.update_self, found_attemptAt_record (some obj)]
      right
      rw [there]
      exact fits_some identified same
    · rw [Function.update_of_ne here]
      exact ih
  | @forgotten records notes o k' story may ih =>
    by_cases here : k = k'
    · subst here
      rw [Function.update_self]
      exact Or.inr (fits_none _)
    · rw [Function.update_of_ne here]
      exact ih
  | drifted story drifts ih => exact ih

/-- An object with which a reconcile has succeeded is looked up in vain for the first time, and the
reconcile that does so makes some calls and ends.  All copies of the object that have become known
and say that everything has been built for it show one status; `v` is such a copy. -/
structure Vanishing (k : ObjectKey) (u : String) (v : α) (during notes : List (Note α)) : Prop where
  /-- The course of events. -/
  course : ∃ later outcome found initial earlier,
    notes = later ++ .finished k outcome :: (during ++ .lookedUp k found initial :: earlier) ∧
    (∀ found initial, .lookedUp k found initial ∉ during) ∧ ¬ Shows u found ∧ Secured k u earlier
  /-- The copy says that everything has been built. -/
  built : isBuilt v = true
  /-- It is one of the object. -/
  named : Object.uid? v = some u
  /-- It has become known. -/
  noted : Noted k v notes
  /-- All such copies show one status. -/
  constant : ∀ v', Noted k v' notes → isBuilt v' = true → Object.uid? v' = some u →
    Managed.status? v' = Managed.status? v

/-- What has been noted at a key is an object of that key. -/
theorem Story.noted_place (story : Story O backends start records notes o) {v : α}
    (noted : Noted k v notes) : ObjectKey.ofObject? v = some k := by
  rcases noted with ⟨initial, mem⟩ | ⟨made, on, mem, told⟩
  · exact (story.found mem).2.1
  · obtain ⟨later, earlier, rfl⟩ := List.append_of_mem mem
    obtain ⟨live, status, -, -, -, -, -, place, -⟩ := story.writing told
    exact place

section look

variable {v : α} {later during earlier : List (Note α)} {outcome : Except Failure Unit}
variable {found initial : Option α}

/-- When an object with which a reconcile has succeeded is looked up in vain, it is on record, and
the same has to be removed for the object on record as for any of its copies. -/
theorem Story.on_record (story : Story O backends start records
      (later ++ .lookedUp k found initial :: earlier) o)
    (secured : Secured k u earlier) (vanished : ¬ Shows u found)
    (place : ObjectKey.ofObject? v = some k)
    (constant : ∀ v', Noted k v' (later ++ .lookedUp k found initial :: earlier) →
      isBuilt v' = true → Object.uid? v' = some u → Managed.status? v' = Managed.status? v) :
    ∃ old, initial = some old ∧ removal backends k old = removal backends k v ∧ Gone found old := by
  obtain ⟨before, _, _, past, entry⟩ := story.before
  obtain ⟨old, is, named'⟩ := past.secured secured
  obtain ⟨built', place', noted', -⟩ := past.recorded is
  refine ⟨old, ?_, ?_, by rw [named']; rfl, fun live there is' => vanished ?_⟩
  · cases entry with
    | lookedUp k found wellFormed shown rests => exact is
  · exact Managed.removal_congr backends k old v place' place
      (constant old (noted'.cons.append later) built' named')
  · exact Option.bind_eq_some_iff.2 ⟨live, there, is'.trans named'⟩

/-- When a reconcile ends, it has made all calls that remove what was built for an object that was on
record when it began and was gone. -/
theorem Story.all_removed (story : Story O backends start records
      (later ++ .finished k outcome :: (during ++ .lookedUp k found initial :: earlier)) o)
    (only : ∀ f i, .lookedUp k f i ∉ during) {old : α} (onRecord : initial = some old)
    (gone : Gone found old) {c : Call} (mem : c ∈ removal backends k old) :
    ∃ reply on, .called k ⟨c, some reply⟩ on ∈ during := by
  obtain ⟨before, _, _, -, entry⟩ := story.before
  cases entry with
  | finished k outcome ends =>
    have same : (attemptAt k (before k) (during ++ .lookedUp k found initial :: earlier)).found =
          found ∧
        (attemptAt k (before k) (during ++ .lookedUp k found initial :: earlier)).initial =
          initial := by
      rw [(found_attemptAt_append only).1, (found_attemptAt_append only).2, attemptAt_lookedUp_self]
      exact ⟨rfl, rfl⟩
    obtain ⟨reply, called⟩ := ends.removed old (same.2.trans onRecord) (by rwa [same.1]) c mem
    exact ⟨reply, mem_of_mem_calls called⟩

/-- A reconcile that begins with an object on record that is gone makes no call to remove anything
but what was built for it. -/
theorem Story.only_removed (story : Story O backends start records
      (later ++ .finished k outcome :: (during ++ .lookedUp k found initial :: earlier)) o)
    (only : ∀ f i, .lookedUp k f i ∉ during) {old : α} (onRecord : initial = some old)
    {made : Called} {on : Option α} (mem : .called k made on ∈ during)
    (untended : Untended α backends made.call) : made.call ∈ removal backends k old := by
  obtain ⟨a, b, rfl⟩ := List.append_of_mem mem
  have made' : Story O backends start records ((later ++ .finished k outcome :: a) ++
      .called k made on :: (b ++ .lookedUp k found initial :: earlier)) o := by
    simpa using story
  obtain ⟨obj, u', departing⟩ := made'.departing untended
  obtain ⟨before, _, _, past, entry⟩ := made'.before
  have only' : ∀ f i, .lookedUp k f i ∉ b := fun f i mem' => only f i (by simp [mem'])
  have fits := past.initial_or_fits (k := k)
  rw [(found_attemptAt_append only').1, (found_attemptAt_append only').2,
    attemptAt_lookedUp_self] at fits
  have absent := departing.gone
  rw [(found_attemptAt_append only').1, attemptAt_lookedUp_self] at absent
  have here : before k = some obj := by
    cases entry with
    | called k made kept may answered => exact departing.is
  rcases fits with is' | fits
  · obtain rfl := Option.some.inj ((here.symm.trans is').trans onRecord)
    exact departing.removes
  · exact absurd (shows_of_fits fits here departing.named) absent

end look

/-- **The teardown that the status records is carried out, and no other.** -/
theorem Story.torn_down (story : Story O backends start records notes o) {v : α}
    {during : List (Note α)} (vanishing : Vanishing k u v during notes) :
    (∀ c ∈ removal backends k v, ∃ reply on, .called k ⟨c, some reply⟩ on ∈ during) ∧
      ∀ made on, .called k made on ∈ during → Untended α backends made.call →
        made.call ∈ removal backends k v := by
  obtain ⟨⟨later, outcome, found, initial, earlier, rfl, only, vanished, secured⟩, -, -, noted,
    constant⟩ := vanishing
  have place := story.noted_place noted
  have split : later ++ .finished k outcome :: (during ++ .lookedUp k found initial :: earlier) =
      (later ++ .finished k outcome :: during) ++ .lookedUp k found initial :: earlier := by simp
  have looked := story
  rw [split] at looked constant
  obtain ⟨old, onRecord, same, gone⟩ :=
    looked.on_record secured vanished place constant
  rw [← same]
  exact ⟨fun c mem => story.all_removed only onRecord gone mem,
    fun made on mem untended => story.only_removed only onRecord mem untended⟩

end kinds

/-- **The teardown that a status records is carried out after a restart.**  Whatever the world
outside does, in every run from a desk with nothing on record: if a reconcile of a claim or of an
access has succeeded and the object is looked up in vain later, then the first reconcile that does
so makes the calls that the status asks for before it ends, and no other that remove something: for
a claim the deletion of its bucket unless that has to be kept, for an access its revocation and the
deletion of its secret, each on condition that the backend type is served.  Nothing is said of
classes and specifications, which may change in any way. -/
theorem torn_down_after_restart (backends : Registry) (policy : RetryPolicy) (count : Nat) :
    (∀ {ω : Type} (O : Outside BucketClaim ω) start d trace o,
      Run O (Claims.reconcile backends) count (.opening policy {}) start d trace o →
      ∀ k u v during status, Vanishing k u v during trace.notes → v.status = some status →
        (status.deletionPolicy = .delete → backends.serves status.backendType = true →
          ∃ reply on, .called k
            ⟨deletion status.backendType status.bucketId status.region, some reply⟩ on ∈ during) ∧
        ∀ t b r reply on, .called k ⟨deletion t b r, reply⟩ on ∈ during →
          status.deletionPolicy = .delete ∧ status.backendType = t ∧ status.bucketId = b ∧
            status.region = r) ∧
    (∀ {ω : Type} (O : Outside BucketAccess ω) start d trace o,
      Run O (Accesses.reconcile backends) count (.opening policy {}) start d trace o →
      ∀ k u v during status, Vanishing k u v during trace.notes → v.status = some status →
        (backends.serves status.backendType = true →
          ∃ reply on, .called k
            ⟨revocation status.backendType status.bucketId status.accountId, some reply⟩ on ∈
              during) ∧
        (∃ reply on, .called k ⟨.deleteSecret k.nsOrEmpty v.secretName, some reply⟩ on ∈ during) ∧
        (∀ t b a reply on, .called k ⟨revocation t b a, reply⟩ on ∈ during →
          status.backendType = t ∧ status.bucketId = b ∧ status.accountId = a) ∧
        ∀ ns name reply on, .called k ⟨.deleteSecret ns name, reply⟩ on ∈ during →
          k.nsOrEmpty = ns ∧ v.secretName = name) := by
  constructor
  · intro ω O start d trace o run k u v during status vanishing is
    have built : status.provisioned = true := by
      simpa [isBuilt, Managed.status?, Managed.built, is] using vanishing.built
    obtain ⟨made, only⟩ := (story_of_run (claims_conduct backends) run).torn_down vanishing
    refine ⟨fun policy served => ?_, fun t b r reply on mem => ?_⟩
    · exact made _ (Claims.mem_removal.2 ⟨status, is, built, policy, served, rfl⟩)
    · obtain ⟨status', is', -, policy, same⟩ :=
        removal_of_deletion (only _ on mem (untended_deletion t b r))
      obtain rfl := Option.some.inj (is.symm.trans is')
      exact ⟨policy, same⟩
  · intro ω O start d trace o run k u v during status vanishing is
    have granted : status.accessGranted = true := by
      simpa [isBuilt, Managed.status?, Managed.built, is] using vanishing.built
    obtain ⟨made, only⟩ := (story_of_run (accesses_conduct backends) run).torn_down vanishing
    refine ⟨fun served => ?_, ?_, fun t b a reply on mem => ?_, fun ns name reply on mem => ?_⟩
    · exact made _ (Accesses.mem_removal.2 ⟨status, is, granted, Or.inl ⟨served, rfl⟩⟩)
    · exact made _ (Accesses.mem_removal.2 ⟨status, is, granted, Or.inr rfl⟩)
    · obtain ⟨status', is', -, ⟨-, same⟩ | same⟩ :=
        Accesses.mem_removal.1 (only _ on mem (untended_revocation t b a))
      · obtain rfl := Option.some.inj (is.symm.trans is')
        simp only [revocation, Call.backend.injEq, Operation.revokeAccess.injEq] at same
        exact ⟨same.1.symm, same.2.1.symm, same.2.2.symm⟩
      · simp [revocation] at same
    · obtain ⟨status', is', -, ⟨-, same⟩ | same⟩ :=
        Accesses.mem_removal.1 (only _ on mem (untended_deleteSecret ns name))
      · simp at same
      · simp only [Call.deleteSecret.injEq] at same
        exact ⟨same.1.symm, same.2.symm⟩

/-! ## Two reconciles after a restart -/

/-- A claim whose bucket was created before the process started. -/
def earlierClaim : BucketClaim where
  metadata := { name := some "a", ns := some "n", uid := some "u", resourceVersion := some "1" }
  spec := { className := some "c" }
  status := some { provisioned := true, bucketId := "b", region := "r", backendType := "fake" }

/-- An access that was granted before the process started. -/
def earlierAccess : BucketAccess where
  metadata := { name := some "a", ns := some "n", uid := some "u", resourceVersion := some "1" }
  spec := { className := some "c", existingBucketId := some "b" }
  status := some { accessGranted := true, accountId := "x", bucketId := "b", backendType := "fake" }

/-- A plant with an object, and with the bucket, the grant and the secret that were made for it. -/
def stocked {α : Type} [Object α] (obj : α) : Plant α where
  server := .keeping (.namespaced "n" "a") obj
  facilities :=
    { backends := fun _ =>
        { buckets := ({} : Table String String).insert "b" "r"
          grants := ({} : Table (String × String) Credentials).insert ("b", "x") default }
      secrets := ({} : Table (String × String) Secret).insert ("n", "bucket-credentials-a") {} }

/-- The object that a plant is stocked with may be reported. -/
theorem stocked_shows {α : Type} [Object α] [Managed α] {fails others : Call → Prop} {obj : α}
    (identified : (Object.uid? obj).isSome) : (plant α fails others).shows (stocked obj) obj :=
  ⟨List.mem_singleton_self _, identified⟩

/-- An object vanishes if it is found and reconciled successfully with one call, and looked up in
vain next, and no status is written in the meantime. -/
theorem vanishing_of_notes {α : Type} [Object α] [Managed α] {k : ObjectKey} {u : String} {v : α}
    {during : List (Note α)} {first : Note α} {initial initial' : Option α}
    {outcome : Except Failure Unit} (built : isBuilt v = true) (named : Object.uid? v = some u)
    (quiet : ∀ note ∈ first :: during, ∃ made on, note = .called k made on ∧
      made.confirmed? (α := α) = none) :
    Vanishing k u v during (.finished k outcome :: (during ++
      [.lookedUp k none initial', .finished k (.ok ()), first, .lookedUp k (some v) initial])) := by
  have unseen : ∀ found initial, .lookedUp k found initial ∉ first :: during := by
    intro found initial mem
    obtain ⟨_, _, same, -⟩ := quiet _ mem
    cases same
  simp only [List.mem_cons, not_or] at unseen
  refine ⟨⟨[], outcome, none, initial', [.finished k (.ok ()), first, .lookedUp k (some v) initial],
      rfl, fun f i => (unseen f i).2, by simp [Shows], ?_⟩, built, named,
    Or.inl ⟨initial, by simp⟩, ?_⟩
  · refine ⟨[], [first, .lookedUp k (some v) initial], rfl, ?_,
      fun _ _ mem => absurd mem List.not_mem_nil⟩
    rw [(found_attemptAt_cons fun f i same => (unseen f i).1 same.symm).1, attemptAt_lookedUp_self]
    exact named
  · rintro v' (⟨i, mem⟩ | ⟨made, on, mem, told⟩) - -
    · have seen : Note.lookedUp k (some v') i = .lookedUp k (some v) initial := by
        simpa [unseen] using mem
      rw [Option.some.inj (Note.lookedUp.inj seen).2.1]
    · have called : .called k made on ∈ first :: during := by
        simpa [or_comm] using mem
      obtain ⟨_, _, same, silent⟩ := quiet _ called
      obtain ⟨-, rfl, -⟩ := Note.called.inj same
      rw [silent] at told
      cases told

/-- The claim is reconciled, vanishes and is torn down. -/
theorem run_earlierClaim : ∃ d trace p,
    Run (plant BucketClaim (fun _ => False) (fun _ => False)) (Claims.reconcile oneType) 1
      (.opening {} {}) (stocked earlierClaim) d trace p ∧
    Vanishing (.namespaced "n" "a") "u" earlierClaim
      [.called (.namespaced "n" "a") ⟨deletion "fake" "b" "r", some (.ok ())⟩ (some earlierClaim)]
      trace.notes := by
  obtain ⟨d, trace, p, rehearsed, notes⟩ : ∃ d trace p,
      Desk.rehearse (Plant.serveClaims onlySomeClass .granted) (Claims.reconcile oneType) 1
        (lifetime earlierClaim 9 8) (.opening {} {}) [] (stocked earlierClaim) =
          some (d, trace, p) ∧
      Trace.notes trace = [
        .finished (.namespaced "n" "a") (.ok ()),
        .called (.namespaced "n" "a") ⟨deletion "fake" "b" "r", some (.ok ())⟩ (some earlierClaim),
        .lookedUp (.namespaced "n" "a") none (some earlierClaim),
        .finished (.namespaced "n" "a") (.ok ()),
        .called (.namespaced "n" "a") ⟨.getClass "c", some (.ok someClass)⟩ none,
        .lookedUp (.namespaced "n" "a") (some earlierClaim) none] := ⟨_, _, _, by rfl, by rfl⟩
  refine ⟨d, trace, p, Run.start.rehearsed Plant.serveClaims_answers
    (reports_lifetime (stocked_shows rfl)) rehearsed, ?_⟩
  rw [notes]
  exact vanishing_of_notes (by rfl) (by rfl) (by simp; exact ⟨rfl, rfl⟩)

/-- The access is reconciled, vanishes and is torn down. -/
theorem run_earlierAccess : ∃ d trace p,
    Run (plant BucketAccess (fun _ => False) (fun _ => False)) (Accesses.reconcile oneType) 1
      (.opening {} {}) (stocked earlierAccess) d trace p ∧
    Vanishing (.namespaced "n" "a") "u" earlierAccess
      [.called (.namespaced "n" "a") ⟨.deleteSecret "n" "bucket-credentials-a", some (.ok ())⟩
          (some earlierAccess),
        .called (.namespaced "n" "a") ⟨revocation "fake" "b" "x", some (.ok ())⟩
          (some earlierAccess)] trace.notes := by
  obtain ⟨d, trace, p, rehearsed, notes⟩ : ∃ d trace p,
      Desk.rehearse (Plant.serveAccesses onlySomeClass .granted) (Accesses.reconcile oneType) 1
        (lifetime earlierAccess 9 8) (.opening {} {}) [] (stocked earlierAccess) =
          some (d, trace, p) ∧
      Trace.notes trace = [
        .finished (.namespaced "n" "a") (.ok ()),
        .called (.namespaced "n" "a") ⟨.deleteSecret "n" "bucket-credentials-a", some (.ok ())⟩
          (some earlierAccess),
        .called (.namespaced "n" "a") ⟨revocation "fake" "b" "x", some (.ok ())⟩
          (some earlierAccess),
        .lookedUp (.namespaced "n" "a") none (some earlierAccess),
        .finished (.namespaced "n" "a") (.ok ()),
        .called (.namespaced "n" "a") ⟨.getClass "c", some (.ok someClass)⟩ none,
        .lookedUp (.namespaced "n" "a") (some earlierAccess) none] := ⟨_, _, _, by rfl, by rfl⟩
  refine ⟨d, trace, p, Run.start.rehearsed Plant.serveAccesses_answers
    (reports_lifetime (stocked_shows rfl)) rehearsed, ?_⟩
  rw [notes]
  exact vanishing_of_notes (by rfl) (by rfl) (by simp; exact ⟨rfl, rfl, rfl⟩)

/-- A claim and an access that were built before the process started vanish after each has been
reconciled, and are torn down. -/
theorem torn_down_after_restart_once :
    (∃ d trace p, Run (plant BucketClaim (fun _ => False) (fun _ => False))
        (Claims.reconcile oneType) 1 (.opening {} {}) (stocked earlierClaim) d trace p ∧
      ∃ during, Vanishing (.namespaced "n" "a") "u" earlierClaim during trace.notes ∧
        ∃ reply on, .called (.namespaced "n" "a") ⟨deletion "fake" "b" "r", some reply⟩ on ∈
          during) ∧
    (∃ d trace p, Run (plant BucketAccess (fun _ => False) (fun _ => False))
        (Accesses.reconcile oneType) 1 (.opening {} {}) (stocked earlierAccess) d trace p ∧
      ∃ during, Vanishing (.namespaced "n" "a") "u" earlierAccess during trace.notes ∧
        (∃ reply on, .called (.namespaced "n" "a") ⟨revocation "fake" "b" "x", some reply⟩ on ∈
          during) ∧
        ∃ reply on, .called (.namespaced "n" "a") ⟨.deleteSecret "n" "bucket-credentials-a",
          some reply⟩ on ∈ during) := by
  constructor
  · obtain ⟨d, trace, p, run, vanishing⟩ := run_earlierClaim
    have torn := (torn_down_after_restart oneType {} 1).1 _ _ _ _ _ run _ _ _ _ _ vanishing rfl
    exact ⟨d, trace, p, run, _, vanishing, torn.1 rfl (by rfl)⟩
  · obtain ⟨d, trace, p, run, vanishing⟩ := run_earlierAccess
    have torn := (torn_down_after_restart oneType {} 1).2 _ _ _ _ _ run _ _ _ _ _ vanishing rfl
    exact ⟨d, trace, p, run, _, vanishing, torn.1 (by rfl), torn.2.1⟩

/-- What is noted if the class of the claim cannot be read. -/
def missingOutline : List Outline :=
  [.finished (.namespaced "n" "a") true, .lookedUp (.namespaced "n" "a") none none,
    .finished (.namespaced "n" "a") false, .classRead (.namespaced "n" "a") "c" none,
    .lookedUp (.namespaced "n" "a") (some "u") none]

/-- A claim that was provisioned before the process started, with the policy to delete its bucket, is
reconciled while its class is missing, and then vanishes.  The next reconcile of its key makes no
call, and the bucket stays behind. -/
theorem leaked_after_restart :
    earlierClaim.status = some
      { provisioned := true, bucketId := "b", region := "r", deletionPolicy := .delete
        backendType := "fake" } ∧
    oneType.serves "fake" = true ∧
    ∃ d trace p, Run (plant BucketClaim (fun _ => False) (fun _ => False))
        (Claims.reconcile oneType) 1 (.opening {} {}) (stocked earlierClaim) d trace p ∧
      trace.notes.map Note.outline = missingOutline ∧
      (p.facilities.backends "fake").hasBucket "b" = true := by
  have rehearsed : (Desk.rehearse (Plant.serveClaims noClass .granted) (Claims.reconcile oneType) 1
      (lifetime earlierClaim 9 8) (.opening {} {}) [] (stocked earlierClaim)).any (fun r =>
        decide (r.2.1.notes.map Note.outline = missingOutline) &&
        (r.2.2.facilities.backends "fake").hasBucket "b") = true := by
    decide +kernel
  obtain ⟨⟨d, trace, p⟩, rehearsed, facts⟩ := (Option.any_eq_true _ _).1 rehearsed
  simp only [Bool.and_eq_true, decide_eq_true_eq] at facts
  exact ⟨rfl, by rfl, d, trace, p, Run.start.rehearsed Plant.serveClaims_answers
    (reports_lifetime (stocked_shows rfl)) rehearsed, facts⟩

end BucketProvisioning.Engine
