import BucketProvisioning.Proofs.Engine.Freshness
import BucketProvisioning.Proofs.Engine.Reported
import BucketProvisioning.Proofs.Reconcile.Records

/-!
# Nothing is left to be torn down

A record whose object is gone, or has been created anew under the same name, is torn down by a
reconcile of its key.  So it must never happen that such a record is there and nobody is going to
look at its key.

The argument has two halves.  `Settled` says that a key on which nobody works has a record that
fits what was found when the key was last looked up: it is kept by every step, because what a
worker does with a key is one program on one record, judged in `Reconcile.Settles`, and no two
workers work on the same key.  And a key that nobody is going to look at is not overlooked, so what
was found last is what is cached now.
-/

set_option autoImplicit false
set_option linter.unusedSectionVars false

namespace BucketProvisioning.Engine

open BucketProvisioning BucketProvisioning.Reconcile BucketProvisioning.Watch
open BucketProvisioning.Queue
open BucketProvisioning.Resource (Object BucketClaim BucketAccess)

variable {α : Type} [Object α]
variable {reconcile : String → Program α (Except Failure Unit)} {count : Nat}

/-- Every status write that succeeds replies with the object that was written. -/
def Happening.Answers {α : Type} : Happening α → Prop
  | .move (.work _ reply) => ∀ c, Faithful c (reply c)
  | _ => True

/-! ## What a program does to the records -/

/-- What a worker has begun and not finished. -/
def Worker.begun? {α : Type} : Worker α → Option String
  | .busy text _ => some text
  | .lost text => some text
  | _ => none

/-- Whoever has begun with a key holds it. -/
theorem Worker.key?_of_begun? {w : Worker α} {text : String} (h : w.begun? = some text) :
    w.key? = some text := by
  cases w <;> first | exact h | simp [Worker.begun?] at h

/-- Whoever holds no key has begun with none. -/
theorem Worker.begun?_of_free {w : Worker α} (free : w.key? = none) : w.begun? = none := by
  cases w <;> first | rfl | simp [Worker.key?] at free

/-- What was found when a key was last looked up; nothing if it never was. -/
def lastLive (k : ObjectKey) (sights : List (Sight α)) : Option α := (lastFound k sights).join

/-- A program that works on the record of one key does to the stores what it does in the world of
that record, and leaves the records of other keys alone. -/
theorem answer_slot (s : Stores α) {a : StoreAccess α} {k : ObjectKey}
    (allowed : (slot k).allows (s.records.get? k) (.store a)) :
    (slot k).answers (s.records.get? k) (.store a) (s.answer a).1 ((s.answer a).2.records.get? k) ∧
      ∀ k', k' ≠ k → (s.answer a).2.records.get? k' = s.records.get? k' := by
  cases a with
  | lookup k' => exact absurd allowed id
  | recordOf k' =>
    obtain rfl : k' = k := allowed
    exact ⟨⟨rfl, rfl⟩, fun _ _ => rfl⟩
  | remember k' obj =>
    obtain rfl : k' = k := allowed
    exact ⟨Table.get?_insert_self _ _ _, fun _ other => Table.get?_insert_of_ne _ _ other⟩
  | forget k' =>
    obtain rfl : k' = k := allowed
    exact ⟨Table.get?_erase_self _ _, fun _ other => Table.get?_erase_of_ne _ other⟩

namespace Desk

/-- The record of a key at a desk. -/
def record? (d : Desk α) (k : ObjectKey) : Option α := d.stores.records.get? k

/-- A worker is on its way with a text: it has not looked the key up yet and the record fits what
was found before, or the rest of the program will leave a record that fits what was found. -/
structure OnTheWay (reconcile : String → Program α (Except Failure Unit)) (d : Desk α)
    (sights : List (Sight α)) (text : String) (rest : Program α (Except Failure Unit)) : Prop where
  /-- A key is about to be looked up, or has been and is being settled. -/
  settling : ∀ k, ObjectKey.parse text = .ok k →
    (rest = reconcile text ∧ Fits (lastLive k sights) (d.record? k)) ∨
      rest.Ensures (slot k) (d.record? k) fun _ left => Fits (lastLive k sights) left
  /-- A text that is no key is being dropped. -/
  dropping : ∀ e, ObjectKey.parse text = .error e → ∃ outcome, rest = .done outcome

/-- Nobody has begun to work on a key and not finished. -/
def Unattended (d : Desk α) (k : ObjectKey) : Prop :=
  ∀ i w text, d.worker? i = some w → w.begun? = some text → ObjectKey.parse text ≠ .ok k

/-- What holds at every moment between the records and what was seen of the cache. -/
structure Settled (reconcile : String → Program α (Except Failure Unit)) (d : Desk α)
    (sights : List (Sight α)) : Prop where
  /-- Every worker is on its way. -/
  working : ∀ i text rest, d.worker? i = some (.busy text rest) →
    OnTheWay reconcile d sights text rest
  /-- The record of a key on which nobody works fits what was last found. -/
  resting : ∀ k, d.Unattended k → Fits (lastLive k sights) (d.record? k)
  /-- Whatever was found has a well-formed key. -/
  looked : ∀ k live, lastLive k sights = some live → k.WellFormed

/-- At first there is nothing to settle. -/
theorem settled_opening (policy : RetryPolicy) (cache : Cache α) :
    (opening policy { cache }).Settled reconcile [] where
  working := by simp [opening, worker?]
  resting := fun k _ => fits_none _
  looked := by simp [lastLive, lastFound]

/-- A step does not touch a key: neither its record nor what was last found. -/
def Untouched (d d' : Desk α) (sights sights' : List (Sight α)) (k : ObjectKey) : Prop :=
  d'.record? k = d.record? k ∧ lastLive k sights' = lastLive k sights

namespace Settled

variable {d d' : Desk α} {sights sights' : List (Sight α)}

/-- A step that touches no key and changes no worker. -/
theorem of_untouched (h : d.Settled reconcile sights) (workers : d'.workers = d.workers)
    (untouched : ∀ k, Untouched d d' sights sights' k) : d'.Settled reconcile sights' where
  working := by
    intro i text rest is
    have before := h.working i text rest (by simpa [worker?, workers] using is)
    refine ⟨fun k read => ?_, before.dropping⟩
    rw [(untouched k).1, (untouched k).2]
    exact before.settling k read
  resting := by
    intro k free
    rw [(untouched k).1, (untouched k).2]
    exact h.resting k fun i w text is => free i w text (by simpa [worker?, workers] using is)
  looked := by
    intro k live found
    rw [(untouched k).2] at found
    exact h.looked k live found

/-- A worker takes a step.  It touches no key but the one that it has begun to work on; it is on
its way afterwards if it is busy; and if it is finished with the key, the record fits. -/
theorem turn (h : d.Settled reconcile sights) (order : d.InOrder) {i : Nat} {w w' : Worker α}
    (was : d.worker? i = some w) {queue : RetryQueue String} {stores : Stores α}
    (same : d' = { d with queue, stores }.setWorker i w')
    (others : ∀ k, (∀ text, w.begun? = some text → ObjectKey.parse text ≠ .ok k) →
      Untouched d d' sights sights' k)
    (mine : ∀ text rest, w' = .busy text rest → OnTheWay reconcile d' sights' text rest)
    (finished : ∀ text k, w.begun? = some text → ObjectKey.parse text = .ok k →
      w'.begun? = some text ∨ Fits (lastLive k sights') (d'.record? k)) :
    d'.Settled reconcile sights' := by
  have worker : ∀ j, d'.worker? j = if j = i then some w' else d.worker? j := by
    intro j
    rw [same]
    exact worker?_setWorker (d := { d with queue, stores }) was w' j
  -- another worker works on another key
  have apart : ∀ j v text k, j ≠ i → d.worker? j = some v → v.begun? = some text →
      ObjectKey.parse text = .ok k → Untouched d d' sights sights' k := by
    intro j v text k other is begun read
    refine others k fun text' begun' read' => other ?_
    have texts : text' = text :=
      (ObjectKey.text_of_parse read').symm.trans (ObjectKey.text_of_parse read)
    refine order.apart j i text ?_ ?_
    · rw [keyOf?_of_worker is]
      exact Worker.key?_of_begun? begun
    · rw [keyOf?_of_worker was, ← texts]
      exact Worker.key?_of_begun? begun'
  refine ⟨?_, ?_, ?_⟩
  · intro j text rest is
    rw [worker] at is
    split at is
    · exact mine text rest (Option.some.inj is)
    · rename_i other
      have before := h.working j text rest is
      refine ⟨fun k read => ?_, before.dropping⟩
      have untouched := apart j _ text k other is rfl read
      rw [untouched.1, untouched.2]
      exact before.settling k read
  · intro k free
    by_cases working : ∃ text, w.begun? = some text ∧ ObjectKey.parse text = .ok k
    · obtain ⟨text, begun, read⟩ := working
      rcases finished text k begun read with going | fits
      · exact absurd read (free i w' text (by rw [worker, if_pos rfl]) going)
      · exact fits
    · have untouched := others k fun text begun read => working ⟨text, begun, read⟩
      rw [untouched.1, untouched.2]
      refine h.resting k fun j v text is begun read => ?_
      by_cases here : j = i
      · rw [here, was] at is
        exact working ⟨text, Option.some.inj is ▸ begun, read⟩
      · exact free j v text (by rw [worker, if_neg here, is]) begun read
  · intro k live found
    by_cases working : ∃ text, w.begun? = some text ∧ ObjectKey.parse text = .ok k
    · obtain ⟨text, -, read⟩ := working
      exact (ObjectKey.parse_eq_ok.1 read).1
    · rw [(others k fun text begun read => working ⟨text, begun, read⟩).2] at found
      exact h.looked k live found

/-- A worker without a key turns to something else without one. -/
theorem turned (h : d.Settled reconcile sights) (order : d.InOrder) {i : Nat} {w w' : Worker α}
    (was : d.worker? i = some w) (idle : w.begun? = none) (idle' : w'.begun? = none)
    (queue : RetryQueue String) : ({ d with queue }.setWorker i w').Settled reconcile sights := by
  refine h.turn order was rfl (fun k _ => ⟨rfl, rfl⟩) ?_ ?_
  · rintro text rest rfl
    simp [Worker.begun?] at idle'
  · intro text k begun
    simp [idle] at begun

/-- A worker is handed a key, on which nobody has been working. -/
theorem took (h : d.Settled reconcile sights) (order : d.InOrder) (settles : Settles reconcile)
    {i : Nat} {queue : RetryQueue String} {key : String} (was : d.worker? i = some .listening)
    (takes : d.queue.keys.take? = some (key, queue.keys)) :
    ({ d with queue }.setWorker i (.busy key (reconcile key))).Settled reconcile sights := by
  refine h.turn order was rfl (fun k _ => ⟨rfl, rfl⟩) ?_ (by simp [Worker.begun?])
  rintro _ _ ⟨⟩
  refine ⟨fun k read => Or.inl ⟨rfl, h.resting k ?_⟩, fun e read => settles.drops key e read⟩
  intro j v text is begun read'
  obtain ⟨-, rest, first, -⟩ := WorkQueue.take?_eq_some.1 takes
  have same : text = key :=
    (ObjectKey.text_of_parse read').symm.trans (ObjectKey.text_of_parse read)
  have holds : d.keyOf? j = some key := by
    rw [keyOf?_of_worker is, ← same]
    exact Worker.key?_of_begun? begun
  exact order.keys.waiting_idle key (by simp [first]) (order.held j key holds)

/-- The program of a key goes on after a request other than a look into the cache. -/
theorem proceeded (h : d.Settled reconcile sights) (order : d.InOrder) (settles : Settles reconcile)
    {i : Nat} {text : String} {r : Request α} {next : r.Reply → Program α (Except Failure Unit)}
    (was : d.worker? i = some (.busy text (.ask r next))) {reply : r.Reply} {stores : Stores α}
    (sees : ∀ k, r ≠ .store (.lookup k))
    (answered : ∀ k, (slot k).allows (d.record? k) r →
      (slot k).answers (d.record? k) r reply (stores.records.get? k) ∧
        ∀ k', k' ≠ k → stores.records.get? k' = d.record? k') :
    ({ d with stores }.setWorker i (.busy text (next reply))).Settled reconcile sights := by
  have way := h.working i text _ was
  cases read : ObjectKey.parse text with
  | error e =>
    obtain ⟨outcome, same⟩ := way.dropping e read
    simp at same
  | ok k =>
    have ensured : (Program.ask r next).Ensures (slot k) (d.record? k) fun _ left =>
        Fits (lastLive k sights) left := by
      rcases way.settling k read with ⟨whole, -⟩ | ensured
      · obtain ⟨_, looks, -⟩ := settles.settles text k read
        rw [looks] at whole
        exact absurd (Program.ask.inj whole).1 (sees k)
      · exact ensured
    obtain ⟨allowed, later⟩ := ensured
    obtain ⟨answer, elsewhere⟩ := answered k allowed
    refine h.turn order was rfl ?_ ?_ (fun text' k' begun _ => Or.inl begun)
    · intro k' other
      refine ⟨elsewhere k' ?_, rfl⟩
      rintro rfl
      exact other text rfl read
    · rintro _ _ ⟨⟩
      refine ⟨fun k' read' => Or.inr ?_, fun e read' => by simp [read] at read'⟩
      obtain rfl : k = k' := Except.ok.inj (read.symm.trans read')
      exact later reply _ answer

/-- The program of a key looks the key up: from now on the record is judged by what is found. -/
theorem lookedUp (h : d.Settled reconcile sights) (order : d.InOrder) (settles : Settles reconcile)
    (objects : d.Holds fun obj : α => (Object.uid? obj).isSome)
    {i : Nat} {text : String} {k : ObjectKey}
    {next : Except Failure (Option α) → Program α (Except Failure Unit)}
    (was : d.worker? i = some (.busy text (.ask (.store (.lookup k)) next))) :
    (d.access i text (.lookup k) next).Settled reconcile
      (.lookedUp k (d.stores.cache.objects.get? k) :: sights) := by
  have way := h.working i text _ was
  have sync := order.synced (ne_nil_of_worker was)
  cases read : ObjectKey.parse text with
  | error e =>
    obtain ⟨outcome, same⟩ := way.dropping e read
    simp at same
  | ok k' =>
    obtain ⟨whole, fits⟩ := (way.settling k' read).resolve_right fun ensured => ensured.1
    obtain ⟨next', looks, ensures⟩ := settles.settles text k' read
    rw [looks] at whole
    obtain ⟨request, same⟩ := Program.ask.inj whole
    obtain rfl : k = k' := by simpa using request
    obtain rfl := eq_of_heq same
    -- the workers run over a complete cache, so the look finds what is there
    have found : d.stores.cache.lookup k = .ok (d.stores.cache.objects.get? k) :=
      Cache.lookup_of_synced sync k
    refine h.turn order was rfl ?_ ?_ (fun text' k' begun _ => Or.inl begun)
    · intro k' other
      refine ⟨rfl, ?_⟩
      have ne : k ≠ k' := fun same => other text rfl (same ▸ read)
      simp [lastLive, lastFound, ne]
    · rintro _ _ ⟨⟩
      refine ⟨fun k' read' => Or.inr ?_, fun e read' => by simp [read] at read'⟩
      obtain rfl : k = k' := Except.ok.inj (read.symm.trans read')
      have last : lastLive k (.lookedUp k (d.stores.cache.objects.get? k) :: sights)
          = d.stores.cache.objects.get? k := by simp [lastLive, lastFound]
      rw [last]
      show (next (d.stores.cache.lookup k)).Ensures (slot k) (d.record? k) _
      rw [found]
      exact ensures _ _ (objects.cached k) fits.identified

/-- The program of a key has come to its end, and the record fits. -/
theorem concluded (h : d.Settled reconcile sights) (order : d.InOrder) (settles : Settles reconcile)
    {i : Nat} {text : String} {outcome : Except Failure Unit}
    (was : d.worker? i = some (.busy text (.done outcome))) (queue : RetryQueue String) :
    ({ d with queue }.setWorker i (.closing text)).Settled reconcile sights := by
  refine h.turn order was rfl (fun k _ => ⟨rfl, rfl⟩) nofun ?_
  rintro _ k ⟨⟩ read
  rcases (h.working i text _ was).settling k read with ⟨whole, -⟩ | ensured
  · obtain ⟨_, looks, -⟩ := settles.settles text k read
    rw [looks] at whole
    simp at whole
  · exact Or.inr ensured

/-- What is settled stays so at every step, as status writes reply with what was written. -/
theorem step (h : d.Settled reconcile sights) (order : d.InOrder) (settles : Settles reconcile)
    (objects : d.Holds fun obj : α => (Object.uid? obj).isSome) {happening : Happening α}
    (faithful : happening.Answers) (s : Step reconcile count d happening d') :
    d'.Settled reconcile ((d.sight? happening).toList ++ sights) := by
  cases s with
  | received e idle => exact h.of_untouched rfl fun k => ⟨rfl, rfl⟩
  | notified n idle => exact h.of_untouched rfl fun k => ⟨rfl, rfl⟩
  | routed e rest due =>
    refine h.of_untouched (workers_apply _ e) fun k => ⟨?_, ?_⟩
    · unfold record?
      rw [stores_apply]
    · -- changes of the cache are not looks
      have sight : d.sight? (.move .route) = (changedKey? e).map .changed := by simp [sight?, due]
      rw [sight]
      cases changedKey? e <;> rfl
  | started waiting synced =>
    have nobody := order.unstarted waiting
    refine ⟨?_, ?_, h.looked⟩
    · intro i text rest is
      simp [worker?, List.getElem?_replicate] at is
    · intro k _
      refine h.resting k fun i w text is => ?_
      simp [worker?, nobody] at is
  | added aside keys adds =>
    rw [sight?_of_aside aside]
    exact h.of_untouched rfl fun k => ⟨rfl, rfl⟩
  | arranged ks same => exact h.of_untouched rfl fun k => ⟨rfl, rfl⟩
  | @turned i reply queue w w' was free free' same =>
    rw [sight?_work was, Worker.wanted?_of_free free]
    exact h.turned order was (Worker.begun?_of_free free)
      (Worker.begun?_of_free free') queue
  | took was takes =>
    rw [sight?_work was]
    exact h.took order settles was takes
  | @accessed i reply key a next was =>
    rw [sight?_work was]
    cases a with
    | lookup k => exact h.lookedUp order settles objects was
    | recordOf k => exact h.proceeded order settles was (by simp) fun k => answer_slot d.stores
    | remember k obj => exact h.proceeded order settles was (by simp) fun k => answer_slot d.stores
    | forget k => exact h.proceeded order settles was (by simp) fun k => answer_slot d.stores
  | @published i reply key e about next was =>
    rw [sight?_work was]
    exact h.proceeded order settles was (by simp) fun k _ => ⟨rfl, fun _ _ => rfl⟩
  | @called i reply key c next was =>
    rw [sight?_work was]
    exact h.proceeded order settles was (by simp) fun k _ => ⟨⟨faithful c, rfl⟩, fun _ _ => rfl⟩
  | @concluded i reply key outcome queue keys was adds =>
    rw [sight?_work was]
    exact h.concluded order settles was queue
  | released was =>
    rw [sight?_work was]
    exact h.turned order was rfl rfl _
  | @lost i key c next was =>
    refine h.turn order was rfl (fun k _ => ⟨rfl, rfl⟩) ?_ (fun text k begun _ => Or.inl begun)
    intro text rest is
    simp at is

end Settled

/-! ## Whole courses -/

section course

variable {policy : RetryPolicy} {cache : Cache α} {d : Desk α} {trace : Trace α}

/-- Throughout a course everything is settled. -/
theorem settled_of_course (settles : Settles reconcile)
    (course : Course reconcile count (opening policy { cache }) d trace)
    (cached : ∀ k, Identified (cache.objects.get? k))
    (trusted : ∀ e ∈ trace, e.2.Reports (fun obj => (Object.uid? obj).isSome) ∧ e.2.Answers) :
    d.Settled reconcile trace.sights := by
  induction course with
  | start => exact settled_opening policy cache
  | next course happens ih =>
    rw [List.forall_mem_cons] at trusted
    have objects := holds_of_course course cached fun e mem => (trusted.2 e mem).1
    rw [sights_cons]
    exact (ih trusted.2).step (inOrder_of_course course) settles objects trusted.1.2
      (step_of_happen happens)

/-- A key that nobody is going to look at has a record that fits what is cached. -/
theorem fits_of_course (settles : Settles reconcile)
    (course : Course reconcile count (opening policy { cache }) d trace)
    (cached : ∀ k, Identified (cache.objects.get? k))
    (trusted : ∀ e ∈ trace, e.2.Reports (fun obj => (Object.uid? obj).isSome) ∧ e.2.Answers)
    {k : ObjectKey} (clean : k.text ∉ d.queue.keys.dirty) (idle : ∀ i, d.keyOf? i ≠ some k.text)
    (routed : d.routing.head? ≠ some (.enqueue k)) :
    Fits (d.stores.cache.objects.get? k) (d.record? k) := by
  have settled := settled_of_course settles course cached trusted
  have looksUp : LooksUp reconcile := fun text k read =>
    (settles.settles text k read).imp fun _ h => h.1
  have watched := watched_of_course looksUp course
  have unattended : d.Unattended k := by
    intro i w text is begun read
    refine idle i ?_
    rw [keyOf?_of_worker is, ObjectKey.text_of_parse read]
    exact Worker.key?_of_begun? begun
  intro old is
  obtain ⟨identified, live, last, same⟩ := settled.resting k unattended old is
  have found : lastFound k trace.sights = some (some live) := Option.join_eq_some_iff.1 last
  have fresh : ¬ Overlooked k trace.sights := by
    intro missed
    rcases watched.awaited k (settled.looked k live last).slashFree missed with
      dirty | ⟨i, w, is, holds, -⟩ | next
    · exact clean dirty
    · exact idle i ((keyOf?_of_worker is).trans holds)
    · exact routed next
  exact ⟨identified, live, watched.found k _ found fresh, same⟩

end course

/-- **Nothing is left to be torn down.**  At first there are no records.  Whatever happens at the
desk of either kind before it is shut down, as long as every object that is reported has a unique
identifier and every status write that succeeds replies with the object that was written: if a key
is not dirty, no worker holds it, and it is not the next thing that the router queues, then an
object that is on record for it is the one that is cached.  In other words, what is on record for
an object that is gone or was created anew is going to be looked at. -/
theorem nothing_left_behind (backends : Backend.Registry) (policy : RetryPolicy) (count : Nat) :
    (∀ cache d trace, (∀ k, Identified (cache.objects.get? k)) →
      Course (Claims.reconcile backends) count (opening policy { cache }) d trace →
      (∀ e ∈ trace, e.2.Reports (fun obj => (Object.uid? obj).isSome) ∧ e.2.Answers) →
      ∀ k : ObjectKey, k.text ∉ d.queue.keys.dirty → (∀ i, d.keyOf? i ≠ some k.text) →
        d.routing.head? ≠ some (.enqueue k) →
        ∀ old, d.stores.records.get? k = some old →
          ∃ live, d.stores.cache.objects.get? k = some live ∧
            Object.uid? live = Object.uid? old) ∧
    (∀ cache d trace, (∀ k, Identified (cache.objects.get? k)) →
      Course (Accesses.reconcile backends) count (opening policy { cache }) d trace →
      (∀ e ∈ trace, e.2.Reports (fun obj => (Object.uid? obj).isSome) ∧ e.2.Answers) →
      ∀ k : ObjectKey, k.text ∉ d.queue.keys.dirty → (∀ i, d.keyOf? i ≠ some k.text) →
        d.routing.head? ≠ some (.enqueue k) →
        ∀ old, d.stores.records.get? k = some old →
          ∃ live, d.stores.cache.objects.get? k = some live ∧
            Object.uid? live = Object.uid? old) := by
  constructor
  · intro cache d trace cached course trusted k clean idle routed old is
    have fits := fits_of_course (claims_settle backends) course cached trusted clean idle routed
    exact (fits old is).2
  · intro cache d trace cached course trusted k clean idle routed old is
    have fits := fits_of_course (accesses_settle backends) course cached trusted clean idle routed
    exact (fits old is).2

/-! ## A claim and an access on record -/

section onRecord

variable {α : Type} [Object α]

/-- An object is listed, and a worker looks it up and takes some more steps. -/
def listedAndWorked (obj : α) (steps : Nat) : List (Happening α) :=
  [.move (.receive .listBegin), .move (.receive (.listed obj)), .move (.receive .listEnd),
    .move .route, .move .route, .move .route, .move .start] ++
    List.replicate steps (.move (.work 0 fun
      | .getClass _ => .ok {}
      | _ => .error (.internal "api" "down")))

/-- What is reported has a unique identifier if the object has, and no status is written. -/
theorem trusted_listedAndWorked {obj : α} {steps : Nat} (identified : (Object.uid? obj).isSome) :
    ∀ h ∈ listedAndWorked obj steps,
      h.Reports (fun obj => (Object.uid? obj).isSome) ∧ h.Answers := by
  intro h mem
  rcases List.mem_append.1 mem with reported | worked
  · simp only [List.mem_cons, List.not_mem_nil, or_false] at reported
    rcases reported with rfl | rfl | rfl | rfl | rfl | rfl | rfl
    case inr.inl => exact ⟨identified, trivial⟩
    all_goals exact ⟨trivial, trivial⟩
  · rw [List.eq_of_mem_replicate worked]
    refine ⟨trivial, fun c => ?_⟩
    cases c <;> trivial

/-- Whether nobody is going to look at any key, and there is a record of a key, with a unique
identifier. -/
def restsOn (k : ObjectKey) (u : String) (d : Desk α) : Bool :=
  d.workers.all (·.key?.isNone) && d.queue.keys.dirty.isEmpty && d.routing.isEmpty &&
    (d.stores.records.get? k).any fun old => Object.uid? old = some u

variable {reconcile : String → Program α (Except Failure Unit)} {k : ObjectKey} {u : String}

/-- A desk that rests on a record holds no key of it and has none to enqueue. -/
theorem at_rest_of_restsOn {d : Desk α} (rests : d.restsOn k u = true) :
    k.text ∉ d.queue.keys.dirty ∧ (∀ i, d.keyOf? i ≠ some k.text) ∧
      d.routing.head? ≠ some (.enqueue k) ∧
      ∃ old, d.stores.records.get? k = some old ∧ Object.uid? old = some u := by
  simp only [restsOn, Bool.and_eq_true, List.isEmpty_iff, List.all_eq_true, Option.any_eq_true,
    decide_eq_true_eq] at rests
  obtain ⟨⟨⟨workers, dirty⟩, routing⟩, recorded⟩ := rests
  refine ⟨by simp [dirty], fun i holds => ?_, by simp [routing], recorded⟩
  obtain ⟨w, is, key⟩ := Option.bind_eq_some_iff.1 holds
  have none := workers w (List.mem_of_getElem? is)
  simp [key] at none

/-- An object is listed and worked on until the desk rests on a record of it; this is a course in
which everything that is reported has a unique identifier. -/
theorem course_of_restsOn {obj : α} {steps : Nat} (identified : (Object.uid? obj).isSome)
    (ran : (follow reconcile 1 (opening {} {}) [] (listedAndWorked obj steps)).any
      (fun r => r.1.restsOn k u) = true) :
    ∃ d trace, follow reconcile 1 (opening {} {}) [] (listedAndWorked obj steps) = some (d, trace) ∧
      Course reconcile 1 (opening {} {}) d trace ∧
      (∀ e ∈ trace, e.2.Reports (fun obj => (Object.uid? obj).isSome) ∧ e.2.Answers) ∧
      d.restsOn k u = true := by
  obtain ⟨⟨d, trace⟩, follows, rests⟩ := (Option.any_eq_true _ _).1 ran
  refine ⟨d, trace, follows, course_of_follow .start follows, fun e mem => ?_, rests⟩
  exact trusted_listedAndWorked identified e.2
    ((mem_of_follow follows mem).resolve_left List.not_mem_nil)

end onRecord

/-- A claim whose bucket has been created. -/
def provisionedClaim : BucketClaim where
  metadata := { name := some "a", uid := some "u" }
  spec := { className := some "c" }
  status := some { provisioned := true }

/-- An access that has been granted. -/
def grantedAccess : BucketAccess where
  metadata := { name := some "a", uid := some "u" }
  spec := { className := some "c", existingBucketId := some "b" }
  status := some { accessGranted := true }

/-- The claim and the access are on record when the worker is done, and they are cached. -/
theorem nothing_left_behind_on_record :
    (∃ d trace, follow (Claims.reconcile {}) 1 (opening {} {}) []
        (listedAndWorked provisionedClaim 8) = some (d, trace) ∧
      ∃ old live, d.stores.records.get? (.cluster "a") = some old ∧
        d.stores.cache.objects.get? (.cluster "a") = some live ∧
        Object.uid? old = some "u" ∧ Object.uid? live = Object.uid? old) ∧
    (∃ d trace, follow (Accesses.reconcile {}) 1 (opening {} {}) []
        (listedAndWorked grantedAccess 8) = some (d, trace) ∧
      ∃ old live, d.stores.records.get? (.cluster "a") = some old ∧
        d.stores.cache.objects.get? (.cluster "a") = some live ∧
        Object.uid? old = some "u" ∧ Object.uid? live = Object.uid? old) := by
  constructor
  · have ran : (follow (Claims.reconcile {}) 1 (opening {} {}) []
        (listedAndWorked provisionedClaim 8)).any
          (fun r => r.1.restsOn (.cluster "a") "u") = true := by
      decide +kernel
    obtain ⟨d, trace, follows, course, trusted, rests⟩ := course_of_restsOn rfl ran
    obtain ⟨clean, idle, routed, old, record, uid⟩ := at_rest_of_restsOn rests
    obtain ⟨live, cached, same⟩ := (nothing_left_behind {} {} 1).1 {} d trace
      (fun _ => identified_none) course trusted (.cluster "a") clean idle routed old record
    exact ⟨d, trace, follows, old, live, record, cached, uid, same⟩
  · have ran : (follow (Accesses.reconcile {}) 1 (opening {} {}) []
        (listedAndWorked grantedAccess 8)).any
          (fun r => r.1.restsOn (.cluster "a") "u") = true := by
      decide +kernel
    obtain ⟨d, trace, follows, course, trusted, rests⟩ := course_of_restsOn rfl ran
    obtain ⟨clean, idle, routed, old, record, uid⟩ := at_rest_of_restsOn rests
    obtain ⟨live, cached, same⟩ := (nothing_left_behind {} {} 1).2 {} d trace
      (fun _ => identified_none) course trusted (.cluster "a") clean idle routed old record
    exact ⟨d, trace, follows, old, live, record, cached, uid, same⟩

end Desk

end BucketProvisioning.Engine
