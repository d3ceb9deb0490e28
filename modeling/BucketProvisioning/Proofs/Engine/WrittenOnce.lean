import BucketProvisioning.Proofs.Engine.Attempts
import BucketProvisioning.Proofs.Engine.Ledger
import BucketProvisioning.Proofs.Engine.Rehearsal
import BucketProvisioning.Proofs.Reconcile.Soberness

/-!
# Statuses are written once

The operator decides by a cached copy whether something has still to be built, and that copy may be
of any age.  What keeps it from writing a status twice is that the server refuses a write from a
copy that is not current.

`WritesOnce` says what the next steps of a desk can do to the statuses at the server: whichever step
changes the server writes the first status that the object gets, and no step after it writes
another (`once`); a step that writes from a stale copy changes nothing, and the attempt fails and
leaves the record of its key alone (`stale`); and no worker touches the records of other keys than
the one that it works on (`own`).  `statuses_written_once` says that this holds at every moment of
every run, for claims and for accesses.
-/

set_option autoImplicit false
set_option linter.unusedSectionVars false

namespace BucketProvisioning.Engine

open BucketProvisioning BucketProvisioning.Reconcile
open BucketProvisioning.Queue
open BucketProvisioning.Resource

variable {α ω : Type} [Object α] [Managed α] {O : Outside α ω} {backends : Backend.Registry}
variable {reconcile : String → Program α (Except Failure Unit)} {count : Nat}

/-- When something happens, a status is written from a copy for a key. -/
def Desk.Writes (d : Desk α) (h : Happening α) (k : ObjectKey) (made : Called) (copy : α)
    (status : Managed.Status α) : Prop :=
  ∃ text, d.made? h = some (text, made) ∧ ObjectKey.parse text = .ok k ∧
    Managed.written? made.call = some (copy, status)

/-- What can become of the statuses from a moment on. -/
structure WritesOnce (reconcile : String → Program α (Except Failure Unit)) (count : Nat)
    (d : Desk α) (notes : List (Note α)) (o : ApiServer α) : Prop where
  /-- A step that changes the server writes a status that says that everything has been built, to
  an object for which that was never said; from then on the object has that status whenever it is
  stored, and no step writes to it. -/
  once : ∀ {h d' o'}, d.happen reconcile count h = some d' → (apiServer α).Explains o d h o' →
    o' ≠ o → ∃ k made copy status obj, d.Writes h k made copy status ∧
      o.Accepts copy status k obj ∧ o' = o.put k obj ∧ Managed.built status = true ∧
      (∀ v ∈ o.past, Object.uid? v = Object.uid? obj → isBuilt v = false) ∧
      ∀ {d₁ later o₁}, Run (apiServer α) reconcile count d' o' d₁ later o₁ →
        (∀ k' v, o₁.stored.get? k' = some v → Object.uid? v = Object.uid? obj →
          Managed.status? v = some status) ∧
        ∀ {h₁ d₂ o₂}, d₁.happen reconcile count h₁ = some d₂ →
          (apiServer α).Explains o₁ d₁ h₁ o₂ → ∀ k' obj', o₂ = o₁.put k' obj' →
            Object.uid? obj' ≠ Object.uid? obj
  /-- A status that is written from a stale copy is refused.  Nothing was written in the attempt
  before; the record of the key is the one with which the attempt began, or that was one of an
  object that is gone and has been torn down.  The attempt only publishes its failure and fails;
  until the key is looked up again its record stays as it is and no call is made for it. -/
  stale : ∀ {h d' o' k made copy status}, d.happen reconcile count h = some d' →
    (apiServer α).Explains o d h o' → d.Writes h k made copy status →
    (∀ old, o.stored.get? k = some old → version? old ≠ version? copy) →
    o' = o ∧ (made.confirmed? : Option α) = none ∧
      (∀ called ∈ (d.attempt notes k).calls, (Managed.written? called.call : Option (α × _)) = none) ∧
      (d.attempt notes k).Untouched ∧
      (∀ i reply, h = .move (.work i reply) →
        ∃ text rest, d'.worker? i = some (.busy text rest) ∧ GivesUp rest) ∧
      ∀ {d₁ later o₁}, Run (apiServer α) reconcile count d' o' d₁ later o₁ →
        (∀ found initial, .lookedUp k found initial ∉ Trace.notes later) →
        d₁.record? k = d.record? k ∧
          (∀ made on, .called k made on ∉ Trace.notes later) ∧
          ∀ outcome, .finished k outcome ∈ Trace.notes later → ∃ e, outcome = .error e
  /-- A worker leaves the records of other keys alone. -/
  own : ∀ {h d' text k}, d.happen reconcile count h = some d' → d.busyText? h = some text →
    ObjectKey.parse text ≠ .ok k → d'.record? k = d.record? k

/-! ## A write that was not confirmed -/

section failing

variable {policy : RetryPolicy} {start o o' : ω} {d d' : Desk α} {trace : Trace α} {h : Happening α}
variable {k : ObjectKey} {text : String}

/-- Whoever is busy with a key for which a status write was not confirmed does nothing for it any
more but to fail or to look it up again. -/
theorem Desk.attempt_of_failing (conducts : Conducts backends reconcile)
    (soberly : Judged backends reconcile (sober α) fun _ => Attempt.Frank)
    (run : Run O reconcile count (.opening policy {}) start d trace o)
    (s : Step reconcile count d h d') (failing : (d.attempt trace.notes k).Failing)
    (unseen : ∀ found initial, d.note? h ≠ some (.lookedUp k found initial)) :
    d'.attempt ((d.note? h).toList ++ trace.notes) k = d.attempt trace.notes k ∧
      (∀ made on, d.note? h ≠ some (.called k made on)) ∧
      ∀ outcome, d.note? h = some (.finished k outcome) → ∃ e, outcome = .error e := by
  have upheld := upheld_of_run conducts run
  have calls {text : String} {made : Called} (is : d.made? h = some (text, made))
      (read : ObjectKey.parse text = .ok k) : False :=
    (allowed_of_made conducts soberly run is read).not_failing failing
  refine ⟨?_, ?_, fun outcome is => (held_of_finished conducts soberly run is failing).1⟩
  · by_cases busy : ∃ text, d.busyText? h = some text ∧ ObjectKey.parse text = .ok k
    swap
    · exact attempt_of_others upheld conducts s fun text is read => busy ⟨text, is, read⟩
    obtain ⟨text, busy, read⟩ := busy
    cases s with
    | received e idle => rfl
    | notified n idle => rfl
    | routed e rest due => simp [busyText?] at busy
    | started waiting synced => rfl
    | added aside keys adds =>
      rw [note?_of_aside aside]
      rfl
    | arranged ks same => rfl
    | turned was free free' same => simp [busyText?, was, Worker.begun?_of_free free] at busy
    | took was takes => simp [busyText?, was, Worker.begun?] at busy
    | @accessed i reply text' a next was =>
      obtain rfl : text' = text := by simpa [busyText?, was, Worker.begun?] using busy
      by_cases looks : ∃ k', a = .lookup k'
      · obtain ⟨k', rfl⟩ := looks
        obtain rfl := Except.ok.inj ((upheld.guided.looks conducts was).symm.trans read)
        cases found : d.stores.cache.lookup k' with
        | error e => simp [note?, made?, was, found, Except.toOption]; rfl
        | ok obj =>
          refine absurd ?_ (unseen obj (d.record? k'))
          simp [note?, made?, was, found, Except.toOption]
      · have permitted := (ensured_of_run conducts soberly run was read fun k' next' same =>
          looks ⟨k', by simpa using (Program.ask.inj same).1⟩).1
        exact absurd failing permitted
    | published was =>
      simp only [note?, made?, was]
      rfl
    | @called i reply text' c next was =>
      obtain rfl : text' = text := by simpa [busyText?, was, Worker.begun?] using busy
      have is : d.made? (.move (.work i reply)) = some (text', ⟨c, some (reply c)⟩) := by
        simp [made?, was]
      exact (calls is read).elim
    | @concluded i reply text' outcome queue keys was adds =>
      obtain rfl : text' = text := by simpa [busyText?, was, Worker.begun?] using busy
      simp only [note?, made?, was, read, Except.toOption, Option.map_some, Option.toList_some]
      rfl
    | released was => simp [busyText?, was, Worker.begun?] at busy
    | @lost i text' c next was =>
      obtain rfl : text' = text := by simpa [busyText?, was, Worker.begun?] using busy
      have is : d.made? (.lose i) = some (text', ⟨c, none⟩) := by simp [made?, was]
      exact (calls is read).elim
  · intro made on is
    obtain ⟨text, is, read, -⟩ := made_of_note is
    exact calls is read

/-- Once a status write for a key was not confirmed, nothing is done for it before it is looked up
again. -/
theorem Run.failing (conducts : Conducts backends reconcile)
    (soberly : Judged backends reconcile (sober α) fun _ => Attempt.Frank)
    (run : Run O reconcile count (.opening policy {}) start d trace o)
    (failing : (d.attempt trace.notes k).Failing) {later : Trace α}
    (more : Run O reconcile count d o d' later o')
    (unseen : ∀ found initial, .lookedUp k found initial ∉ later.notes) :
    d'.attempt (Trace.notes (later ++ trace)) k = d.attempt trace.notes k ∧
      (∀ made on, .called k made on ∉ later.notes) ∧
      ∀ outcome, .finished k outcome ∈ later.notes → ∃ e, outcome = .error e := by
  induction more with
  | start => exact ⟨rfl, fun _ _ => List.not_mem_nil, fun _ mem => absurd mem List.not_mem_nil⟩
  | @happened d₁ d₂ later o₁ o₂ h more happens explained ih =>
    rw [notes_cons] at unseen
    obtain ⟨same, calls, ends⟩ := ih fun found initial mem =>
      unseen found initial (List.mem_append_right _ mem)
    rw [← same] at failing
    obtain ⟨same', calls', ends'⟩ := Desk.attempt_of_failing conducts soberly (run.append more)
      (Desk.step_of_happen happens) failing fun found initial is =>
        unseen found initial (by simp [is])
    rw [List.cons_append, notes_cons, notes_cons]
    refine ⟨same'.trans same, fun made on mem => ?_, fun outcome mem => ?_⟩
    · rcases List.mem_append.1 mem with new | earlier
      · exact calls' made on (Option.mem_toList.1 new)
      · exact calls made on earlier
    · rcases List.mem_append.1 mem with new | earlier
      · exact ends' outcome (Option.mem_toList.1 new)
      · exact ends outcome earlier
  | drifted more drifts ih => exact ih unseen
  | closed more ih => exact ih unseen

end failing

/-! ## What the steps do to the statuses -/

section server

variable {policy : RetryPolicy} {d d' : Desk α} {trace : Trace α} {h : Happening α} {k : ObjectKey}
variable {made : Called} {copy obj : α} {status : Managed.Status α}

/-- A status is written only from the copy that the attempt found, which has none, and it says that
everything has been built. -/
theorem Desk.Writes.found {start o : ω} (writes : d.Writes h k made copy status)
    (conducts : Conducts backends reconcile)
    (run : Run O reconcile count (.opening policy {}) start d trace o) :
    (d.attempt trace.notes k).found = some copy ∧ isBuilt copy = false ∧
      Managed.built status = true := by
  obtain ⟨text, is, read, written⟩ := writes
  have permitted := allowed_of_made conducts (judged_of_conducts conducts) run is read
  rcases permitted.2 with ⟨old, -, -, removes, -⟩ | ⟨live, there, -, tends⟩
  · rw [Managed.written_of_removal backends k old made.call removes] at written
    simp at written
  · obtain ⟨rfl, unbuilt, built⟩ :=
      Managed.written_of_tends backends k live _ made.call copy status tends written
    exact ⟨there, unbuilt, built⟩

variable {start o o' : ApiServer α}

/-- A step that changes the server is a status write that it accepts. -/
theorem writes_of_changed (conducts : Conducts backends reconcile)
    (run : Run (apiServer α) reconcile count (.opening policy {}) start d trace o)
    (explained : (apiServer α).Explains o d h o') (changed : o' ≠ o) :
    ∃ k made copy status obj, d.Writes h k made copy status ∧ o.Accepts copy status k obj ∧
      o' = o.put k obj := by
  cases is : d.made? h with
  | none => exact absurd (explained.same is) changed
  | some both =>
    obtain ⟨text, made⟩ := both
    obtain ⟨k, read⟩ := (Desk.upheld_of_run conducts run).guided.key_of_made conducts is
    have answered : o.Answers made.call made.reply o' := explained.answered is
    rcases answered.cases with ⟨same, -⟩ | ⟨copy, status, k', obj, written, accepts, same, -⟩
    · exact absurd same changed
    · have writes : d.Writes h k made copy status := ⟨text, is, read, written⟩
      obtain ⟨there, -, -⟩ := writes.found conducts run
      obtain rfl : k' = k := by
        obtain ⟨place, -⟩ := (story_of_run conducts run).attempt_found there
        exact Option.some.inj (accepts.current.1.symm.trans place)
      exact ⟨k', made, copy, status, obj, writes, accepts, same⟩

/-- An accepted write is the first one to its object. -/
theorem unbuilt_of_accepted (conducts : Conducts backends reconcile) (sound : start.Sound)
    (run : Run (apiServer α) reconcile count (.opening policy {}) start d trace o)
    (writes : d.Writes h k made copy status) (accepts : o.Accepts copy status k obj) {v : α}
    (mem : v ∈ o.past) (same : Object.uid? v = Object.uid? obj) : isBuilt v = false := by
  have accounted := (story_of_run conducts run).accounted apiServer_hosts sound
  obtain ⟨there, unbuilt, -⟩ := writes.found conducts run
  have current := accounted.sound.eq_of_accepts (accounted.attempt_found there).1 accepts
  -- a version with a status would have left one on what is stored, which is the copy
  by_contra built
  have latest := accounted.sound.latest v mem ((Bool.not_eq_false _).mp built) k copy current
    (accepts.same.1.symm.trans same.symm)
  rw [unbuilt] at latest
  simp at latest

/-- After a status of an object was written, no later write for that object succeeds. -/
theorem once_of_run (conducts : Conducts backends reconcile) (sound : start.Sound)
    (run : Run (apiServer α) reconcile count (.opening policy {}) start d trace o)
    (happens : d.happen reconcile count h = some d')
    (explained : (apiServer α).Explains o d h o') (writes : d.Writes h k made copy status)
    (accepts : o.Accepts copy status k obj) (same : o' = o.put k obj) {d₁ : Desk α}
    {later : Trace α} {o₁ : ApiServer α}
    (more : Run (apiServer α) reconcile count d' o' d₁ later o₁) :
    (∀ k' v, o₁.stored.get? k' = some v → Object.uid? v = Object.uid? obj →
      Managed.status? v = some status) ∧
    ∀ {h₁ d₂ o₂}, d₁.happen reconcile count h₁ = some d₂ →
      (apiServer α).Explains o₁ d₁ h₁ o₂ → ∀ k' obj', o₂ = o₁.put k' obj' →
        Object.uid? obj' ≠ Object.uid? obj := by
  obtain ⟨-, -, built⟩ := writes.found conducts run
  have all := (run.happened happens explained).append more
  have accounted := (story_of_run conducts all).accounted apiServer_hosts sound
  have known : obj ∈ o₁.past := by
    subst same
    exact (more.shows ⟨List.mem_cons_self, accepts.same.2⟩).1
  have whole : isBuilt obj = true := isBuilt_of_status accepts.written built
  refine ⟨fun k' v is uid => ?_, fun {h₁ d₂ o₂} happens₁ explained₁ k' obj' put uid => ?_⟩
  · have latest := accounted.sound.latest obj known whole k' v is uid
    have past := (accounted.sound.stored k' v is).1
    rw [accounted.sound.statuses v past obj known uid latest whole]
    exact accepts.written
  · have changed : o₂ ≠ o₁ := by
      rintro rfl
      exact absurd (congrArg (·.past.length) put) (by simp [ApiServer.put])
    obtain ⟨k₂, made₂, copy₂, status₂, obj₂, writes₂, accepts₂, put₂⟩ :=
      writes_of_changed conducts all explained₁ changed
    obtain rfl : obj' = obj₂ := by
      have pasts := congrArg ApiServer.past (put.symm.trans put₂)
      exact (List.cons_eq_cons.1 pasts).1
    have first := unbuilt_of_accepted conducts sound all writes₂ accepts₂ known uid.symm
    rw [whole] at first
    simp at first

/-- A write from a stale copy is refused, and the reconcile that made it ends in a failure. -/
theorem stale_of_run (conducts : Conducts backends reconcile)
    (soberly : Judged backends reconcile (sober α) fun _ => Attempt.Frank)
    (run : Run (apiServer α) reconcile count (.opening policy {}) start d trace o)
    (happens : d.happen reconcile count h = some d')
    (explained : (apiServer α).Explains o d h o') (writes : d.Writes h k made copy status)
    (stale : ∀ old, o.stored.get? k = some old → version? old ≠ version? copy) :
    o' = o ∧ (made.confirmed? : Option α) = none ∧ (d.attempt trace.notes k).Sober ∧
      (d'.attempt (Trace.notes ((d, h) :: trace)) k).Failing ∧ d'.record? k = d.record? k ∧
      ∀ i reply, h = .move (.work i reply) →
        ∃ text rest, d'.worker? i = some (.busy text rest) ∧ GivesUp rest := by
  obtain ⟨there, -, -⟩ := writes.found conducts run
  obtain ⟨text, is, read, written⟩ := writes
  obtain ⟨place, -⟩ := (story_of_run conducts run).attempt_found there
  have answered : o.Answers made.call made.reply o' := explained.answered is
  obtain ⟨same, silent⟩ : o' = o ∧ (made.confirmed? : Option α) = none := by
    rcases answered.cases with unchanged | ⟨copy', status', k', obj, written', accepts, -⟩
    · exact unchanged
    · obtain ⟨rfl, rfl⟩ := Prod.mk.inj (Option.some.inj (written.symm.trans written'))
      obtain ⟨place', old, current, sameVersion, -⟩ := accepts.current
      obtain rfl := Option.some.inj (place.symm.trans place')
      exact absurd sameVersion (stale old current)
  have calm := allowed_of_made conducts soberly run is read
  have note : d.note? h = some (.called k made (d.record? k)) := by
    simp [Desk.note?, is, read, Except.toOption]
  have failed : (Managed.written? made.call : Option (α × _)).isSome ∧
      (made.confirmed? : Option α) = none := ⟨by simp [written], silent⟩
  refine ⟨same, silent, calm, ?_, ?_, ?_⟩
  · rw [notes_cons, note]
    show (attemptAt k (d'.record? k) (.called k made (d.record? k) :: trace.notes)).Failing
    rw [attemptAt_called_self]
    exact ⟨made, List.mem_cons_self, failed⟩
  · rcases Desk.step_of_made (Desk.step_of_happen happens) is with
      ⟨i, reply, c, next, -, -, -, rfl⟩ | ⟨i, -, rfl⟩ <;> rfl
  · rintro i reply rfl
    rcases Desk.step_of_made (Desk.step_of_happen happens) is with
      ⟨i', reply', c, next, same, was, rfl, rfl⟩ | ⟨i', other, -⟩
    · obtain ⟨rfl, rfl⟩ := Move.work.inj (Happening.move.inj same)
      refine ⟨text, _, by rw [Desk.worker?_setWorker was, if_pos rfl], ?_⟩
      have ensured := ensured_of_run conducts soberly run was read (by simp)
      exact givesUp (ensured.2 _ _ ⟨(apiServer α).lawful answered, rfl⟩)
        ⟨_, List.mem_cons_self, failed⟩
    · cases other

/-- What can become of the statuses follows from how a reconciler conducts itself. -/
theorem writesOnce_of_run (conducts : Conducts backends reconcile)
    (soberly : Judged backends reconcile (sober α) fun _ => Attempt.Frank) (sound : start.Sound)
    (run : Run (apiServer α) reconcile count (.opening policy {}) start d trace o) :
    WritesOnce reconcile count d trace.notes o where
  once := by
    intro h d' o' happens explained changed
    obtain ⟨k, made, copy, status, obj, writes, accepts, put⟩ :=
      writes_of_changed conducts run explained changed
    refine ⟨k, made, copy, status, obj, writes, accepts, put, (writes.found conducts run).2.2, ?_, ?_⟩
    · exact fun v mem same => unbuilt_of_accepted conducts sound run writes accepts mem same
    · exact once_of_run conducts sound run happens explained writes accepts put
  stale := by
    intro h d' o' k made copy status happens explained writes old
    obtain ⟨same, silent, calm, failing, kept, givesUp⟩ :=
      stale_of_run conducts soberly run happens explained writes old
    refine ⟨same, silent, calm.unwritten, calm.untouched, givesUp, ?_⟩
    intro d₁ later o₁ more unseen
    obtain ⟨left, calls, ends⟩ := Run.failing conducts soberly (run.happened happens explained)
      failing more unseen
    refine ⟨?_, calls, ends⟩
    have record := congrArg Attempt.record left
    simp only [Desk.attempt, record_attemptAt] at record
    exact record.trans kept
  own := by
    intro h d' text k happens busy other
    have left := Desk.attempt_of_others (Desk.upheld_of_run conducts run) conducts
      (Desk.step_of_happen happens) (k := k) fun text' busy' read =>
        other (Option.some.inj (busy.symm.trans busy') ▸ read)
    have record := congrArg Attempt.record left
    simpa only [Desk.attempt, record_attemptAt] using record

end server

/-- **Statuses are written once.**  At every moment of every run over an API server that gives every
version it stores a version number of its own and accepts a status only from a copy that is current,
for claims and for accesses, however old the cached copies are and however often keys are retried:
an object gets a status by at most one write of the operator and keeps it, and an attempt that writes
from a stale copy fails and leaves the server and the records as they were. -/
theorem statuses_written_once (backends : Backend.Registry) (policy : RetryPolicy) (count : Nat) :
    (∀ {start o : ApiServer BucketClaim} {d : Desk BucketClaim} {trace : Trace BucketClaim},
      start.Sound →
      Run (apiServer BucketClaim) (Claims.reconcile backends) count (.opening policy {}) start d
        trace o →
      WritesOnce (Claims.reconcile backends) count d trace.notes o) ∧
    ∀ {start o : ApiServer BucketAccess} {d : Desk BucketAccess} {trace : Trace BucketAccess},
      start.Sound →
      Run (apiServer BucketAccess) (Accesses.reconcile backends) count (.opening policy {}) start d
        trace o →
      WritesOnce (Accesses.reconcile backends) count d trace.notes o := by
  refine ⟨fun sound run => ?_, fun sound run => ?_⟩
  · exact writesOnce_of_run (claims_conduct backends) (claims_sober backends) sound run
  · exact writesOnce_of_run (accesses_conduct backends) (accesses_sober backends) sound run

/-! ## A write that is accepted, and one from a stale copy -/

/-- The access after somebody has edited it. -/
def editedAccess : BucketAccess :=
  { newAccess with metadata := { newAccess.metadata with resourceVersion := some "2" } }

/-- A plant with an access that has been edited; the watch may still report it as it was before. -/
def plantWithEdited : Plant BucketAccess :=
  { plantWith newAccess with
    server := (ApiServer.keeping (.namespaced "n" "a") newAccess).put (.namespaced "n" "a")
      editedAccess }

/-- A plant with an object that was edited has a sound server. -/
theorem plantWithEdited_sound : plantWithEdited.server.Sound := by
  have before : (ApiServer.keeping (.namespaced "n" "a") newAccess).Sound :=
    ApiServer.keeping_sound (by rfl) rfl (Or.inl rfl)
  have fresh : (ApiServer.keeping (.namespaced "n" "a") newAccess).Fresh (.namespaced "n" "a")
      editedAccess := by
    refine ⟨by rfl, fun v mem _ => ?_⟩
    obtain rfl : v = newAccess := by simpa [ApiServer.keeping, ApiServer.put] using mem
    decide
  exact before.changes (.edited _ newAccess editedAccess (by rfl) fresh rfl rfl)

/-- The status of a new claim is written; the status of an access that has been edited since it was
cached is not. -/
theorem statuses_written_once_each :
    (∃ d trace s h d' s', (ApiServer.keeping (.namespaced "n" "a") newClaim).Sound ∧
      Run (apiServer BucketClaim) (Claims.reconcile oneType) 1 (.opening {} {})
        (.keeping (.namespaced "n" "a") newClaim) d trace s ∧
      d.happen (Claims.reconcile oneType) 1 h = some d' ∧
      (apiServer BucketClaim).Explains s d h s' ∧ s' ≠ s ∧
      WritesOnce (Claims.reconcile oneType) 1 d trace.notes s) ∧
    ∃ d trace h d' made status, plantWithEdited.server.Sound ∧
      Run (apiServer BucketAccess) (Accesses.reconcile oneType) 1 (.opening {} {})
        plantWithEdited.server d trace plantWithEdited.server ∧
      d.happen (Accesses.reconcile oneType) 1 h = some d' ∧
      (apiServer BucketAccess).Explains plantWithEdited.server d h plantWithEdited.server ∧
      d.Writes h (.namespaced "n" "a") made newAccess status ∧
      version? editedAccess ≠ version? newAccess ∧
      plantWithEdited.server.stored.get? (.namespaced "n" "a") = some editedAccess ∧
      WritesOnce (Accesses.reconcile oneType) 1 d trace.notes plantWithEdited.server := by
  refine ⟨?_, ?_⟩
  · obtain ⟨d, trace, p, run, notes, -⟩ := run_newClaim (fun _ => False) (fun _ => False)
    have noted : .called (.namespaced "n" "a")
        ⟨.writeClaimStatus newClaim newClaimStatus,
          some (.ok (Plant.withClaimStatus newClaim newClaimStatus))⟩ none ∈ trace.notes := by
      rw [notes]
      simp [newClaimNotes]
    obtain ⟨later, d₁, h, earlier, text, rfl, made, -⟩ := made_of_noted noted
    obtain ⟨s, d₂, s', before, happens, explained, -⟩ := (run.hosted plant_hosts).split
    have sound : (ApiServer.keeping (.namespaced "n" "a") newClaim).Sound :=
      ApiServer.keeping_sound (by rfl) rfl (Or.inl rfl)
    refine ⟨d₁, earlier, s, h, d₂, s', sound, before, happens, explained, ?_,
      (statuses_written_once oneType {} 1).1 sound before⟩
    have answered : s.Answers (.writeClaimStatus newClaim newClaimStatus)
        (some (.ok (Plant.withClaimStatus newClaim newClaimStatus))) s' := explained.answered made
    obtain ⟨_, _, k, -, -, rfl⟩ := answered.told rfl
    intro same
    exact absurd (congrArg (·.past.length) same) (by simp [ApiServer.put])
  · obtain ⟨d, trace, p, d', rehearsed, same, made, happens⟩ : ∃ d trace p d',
        Desk.rehearse (Plant.serveAccesses onlySomeClass .granted) (Accesses.reconcile oneType) 1
          (opened [newAccess] ++ labour 8) (.opening {} {}) [] plantWithEdited =
            some (d, trace, p) ∧
        p.server = plantWithEdited.server ∧
        d.made? (.move (.work 0 fun _ => .error conflict)) =
          some ("n/a", ⟨.writeAccessStatus newAccess newAccessStatus, some (.error conflict)⟩) ∧
        d.happen (Accesses.reconcile oneType) 1 (.move (.work 0 fun _ => .error conflict)) =
          some d' :=
      ⟨_, _, _, _, by rfl, by rfl, by rfl, by rfl⟩
    have reports : ∀ h ∈ opened [newAccess] ++ labour 8,
        h.Reports ((plant BucketAccess (fun _ => False) fun _ => False).shows plantWithEdited) ∧
          ∀ i, h ≠ .lose i := by
      refine List.forall_mem_append.2 ⟨reports_opened ?_, reports_labour⟩
      exact List.forall_mem_singleton.2 ⟨by simp [plantWithEdited, ApiServer.keeping, ApiServer.put], rfl⟩
    have run := (Run.start.rehearsed Plant.serveAccesses_answers reports rehearsed).hosted plant_hosts
    rw [same] at run
    refine ⟨d, trace, _, d', _, newAccessStatus, plantWithEdited_sound, run, happens, ⟨trivial, ?_⟩,
      ⟨"n/a", made, by rfl, rfl⟩, by decide, by rfl,
      (statuses_written_once oneType {} 1).2 plantWithEdited_sound run⟩
    rw [made]
    exact Or.inl ⟨rfl, rfl⟩

end BucketProvisioning.Engine
