import BucketProvisioning.Proofs.Engine.Course
import BucketProvisioning.Proofs.History
import BucketProvisioning.Proofs.Key
import BucketProvisioning.Reconcile.Accesses
import BucketProvisioning.Reconcile.Claims

/-!
# No update is missed

The cache is written first and the key is queued in a later step; a worker is handed the key first
and looks it up in a later step; and meanwhile more reports may come in.  A key is *overlooked* as
long as its entry in the cache has changed since a worker last looked it up.  An overlooked key is
always *awaited*: it is dirty in the queue, or a worker is about to look it up, or it is the very
next thing to be queued.  So however many changes collapse into one, somebody will look at the
latest.

`Followed` is what makes this true on the side of the reports, and `LooksUp` on the side of the
workers.
-/

set_option autoImplicit false
set_option linter.unusedSectionVars false

namespace BucketProvisioning.Engine

open BucketProvisioning BucketProvisioning.Reconcile BucketProvisioning.Watch
open BucketProvisioning.Queue
open BucketProvisioning.Resource (Object BucketClaim)

variable {α : Type} [Object α]
variable {reconcile : String → Program α (Except Failure Unit)} {count : Nat}

/-! ## What is seen of the cache -/

/-- Something that concerns the entry of a key in the cache. -/
inductive Sight (α : Type) where
  /-- The entry is written or removed. -/
  | changed (k : ObjectKey)
  /-- A worker looks the key up and finds what is cached. -/
  | lookedUp (k : ObjectKey) (found : Option α)

namespace Sight

/-- The entry of a key changes. -/
def Changes {α : Type} (k : ObjectKey) (s : Sight α) : Prop := s = .changed k

/-- A worker looks a key up. -/
def Looks {α : Type} (k : ObjectKey) (s : Sight α) : Prop := ∃ found, s = .lookedUp k found

end Sight

/-- The entry of a key has changed since a worker last looked it up, or has changed and was never
looked up. -/
def Overlooked (k : ObjectKey) (sights : List (Sight α)) : Prop :=
  Since (Sight.Changes k) (Sight.Looks k) sights

/-- What a worker found that last looked a key up. -/
def lastFound (k : ObjectKey) : List (Sight α) → Option (Option α)
  | [] => none
  | .changed _ :: sights => lastFound k sights
  | .lookedUp k' found :: sights => if k' = k then some found else lastFound k sights

/-- The key whose entry a consequence of a report writes or removes. -/
def changedKey? : Effect α → Option ObjectKey
  | .put k _ => some k
  | .drop k => some k
  | _ => none

/-- The key that a worker is about to look up. -/
def Worker.wanted? {α : Type} : Worker α → Option ObjectKey
  | .busy _ (.ask (.store (.lookup k)) _) => some k
  | _ => none

/-- A worker without a key wants none. -/
theorem Worker.wanted?_of_free {w : Worker α} (free : w.key? = none) : w.wanted? = none := by
  cases w <;> first | rfl | simp [Worker.key?] at free

namespace Desk

/-- What is seen of the cache when something happens to a desk. -/
def sight? (d : Desk α) : Happening α → Option (Sight α)
  | .move .route => (d.routing.head?.bind changedKey?).map .changed
  | .move (.work i _) =>
    ((d.worker? i).bind Worker.wanted?).map fun k => .lookedUp k (d.stores.cache.objects.get? k)
  | _ => none

/-- A worker holds a key and is about to look it up. -/
def AboutToLook (d : Desk α) (k : ObjectKey) (i : Nat) : Prop :=
  ∃ w, d.worker? i = some w ∧ w.key? = some k.text ∧ w.wanted? = some k

/-- Somebody is going to look a key up: it is dirty, or a worker is about to, or it is the next to
be queued. -/
def Awaited (d : Desk α) (k : ObjectKey) : Prop :=
  k.text ∈ d.queue.keys.dirty ∨ (∃ i, d.AboutToLook k i) ∨ d.routing.head? = some (.enqueue k)

end Desk

/-- What was seen of the cache in a trace, the latest first. -/
def Trace.sights (trace : Trace α) : List (Sight α) := trace.filterMap fun e => e.1.sight? e.2

/-! ## Histories of sights -/

section sights

variable {k : ObjectKey} {sights : List (Sight α)}

/-- A key is overlooked once it has changed. -/
@[simp] theorem overlooked_changed {k' : ObjectKey} :
    Overlooked k (.changed k' :: sights) ↔ k' = k ∨ Overlooked k sights := by
  simp [Overlooked, since_cons, Sight.Changes, Sight.Looks]

/-- A key that is looked up is overlooked no longer. -/
@[simp] theorem overlooked_lookedUp {k' : ObjectKey} {found : Option α} :
    Overlooked k (.lookedUp k' found :: sights) ↔ k' ≠ k ∧ Overlooked k sights := by
  simp [Overlooked, since_cons, Sight.Changes, Sight.Looks]

/-- Whatever is overlooked has changed. -/
theorem changed_of_overlooked (h : Overlooked k sights) : .changed k ∈ sights := by
  obtain ⟨s, seen, rfl⟩ := exists_of_since h
  exact seen

/-- The latest sight comes in front of the others. -/
theorem sights_cons (d : Desk α) (h : Happening α) (trace : Trace α) :
    Trace.sights ((d, h) :: trace) = (d.sight? h).toList ++ trace.sights := by
  unfold Trace.sights
  rw [List.filterMap_cons]
  cases d.sight? h <;> rfl

end sights

/-! ## Reports -/

/-- Whatever changes the entry of a key is followed at once by the queueing of that key, which has
a name. -/
def Followed : List (Effect α) → Prop
  | [] => True
  | e :: rest =>
    (∀ k, changedKey? e = some k → k.Named ∧ rest.head? = some (.enqueue k)) ∧ Followed rest

namespace Followed

/-- Effects that are followed stay so with others behind them. -/
theorem append {es es' : List (Effect α)} (h : Followed es) (h' : Followed es') :
    Followed (es ++ es') := by
  induction es with
  | nil => exact h'
  | cons e rest ih =>
    obtain ⟨first, later⟩ := h
    refine ⟨fun k changes => ?_, ih later⟩
    obtain ⟨named, next⟩ := first k changes
    refine ⟨named, ?_⟩
    show (rest ++ es').head? = some (.enqueue k)
    rw [List.head?_append, next]
    rfl

/-- An object that is cached has its key queued. -/
theorem put {k : ObjectKey} (obj : α) (named : k.Named) : Followed [.put k obj, .enqueue k] := by
  refine ⟨?_, by simp [changedKey?], trivial⟩
  rintro _ ⟨⟩
  exact ⟨named, rfl⟩

/-- An object that is dropped has its key queued. -/
theorem drop {k : ObjectKey} (named : k.Named) :
    Followed ([.drop k, .enqueue k] : List (Effect α)) := by
  refine ⟨?_, by simp [changedKey?], trivial⟩
  rintro _ ⟨⟩
  exact ⟨named, rfl⟩

/-- The key of an object that is gone has a name, whether a copy of it is at hand or not. -/
theorem named_of_deleted {what : Deleted α} {k : ObjectKey} (h : what.key? = some k) :
    k.Named := by
  cases what with
  | object obj => exact ObjectKey.named_of_ofObject? h
  | unseen key last =>
    cases last with
    | some obj => exact ObjectKey.named_of_ofObject? h
    | none =>
      cases read : ObjectKey.parse key with
      | error e => simp [Deleted.key?, read, Except.toOption] at h
      | ok k' =>
        obtain rfl : k' = k := by simpa [Deleted.key?, read, Except.toOption] using h
        exact (ObjectKey.parse_eq_ok.1 read).1.named

/-- Every notification queues what it changes. -/
theorem notification (n : Notification α) : Followed n.effects := by
  have there : ∀ obj : α, Followed (Notification.modified obj).effects := by
    intro obj
    simp only [Notification.effects]
    split
    · rename_i k is
      exact put obj (ObjectKey.named_of_ofObject? is)
    · trivial
  cases n with
  | added obj => exact there obj
  | modified obj => exact there obj
  | deleted what =>
    simp only [Notification.effects]
    split
    · rename_i k is
      exact drop (named_of_deleted is)
    · trivial

/-- What a list no longer has is dropped and queued, one key after the other. -/
theorem vanishAll (listed ks : List ObjectKey) (cache : Cache α) :
    Followed (Reflector.vanishAll listed ks cache) := by
  induction ks generalizing cache with
  | nil => trivial
  | cons k ks ih =>
    refine append ?_ (ih _)
    unfold Reflector.vanishEffects
    split
    · trivial
    · exact notification _

/-- A list queues whatever it drops or caches. -/
theorem listEffects (cache : Cache α) (listed : List α) :
    Followed (Reflector.listEffects cache listed) := by
  have placed : Followed (listed.flatMap Reflector.applyEffects) := by
    induction listed with
    | nil => trivial
    | cons obj objs ih => exact append (notification _) ih
  have last : Followed ([.complete] : List (Effect α)) := ⟨by simp [changedKey?], trivial⟩
  exact ((vanishAll _ _ cache).append placed).append last

/-- Whatever the watch reports, each change is followed by the queueing of its key. -/
theorem received (r : Reflector α) (cache : Cache α) (e : WatchEvent α) :
    Followed (r.effects cache e).1 := by
  cases e with
  | apply obj => exact notification (.modified obj)
  | delete obj => exact notification (.deleted (.object obj))
  | listBegin => trivial
  | listed obj => trivial
  | listEnd => exact listEffects cache _

end Followed

/-! ## Workers -/

/-- The program of a key begins by looking the key up. -/
def LooksUp (reconcile : String → Program α (Except Failure Unit)) : Prop :=
  ∀ text k, ObjectKey.parse text = .ok k →
    ∃ next, reconcile text = .ask (.store (.lookup k)) next

/-- A reconcile of a claim begins with the look at its key. -/
theorem claims_lookUp (backends : Backend.Registry) : LooksUp (Claims.reconcile backends) := by
  intro text k read
  unfold Claims.reconcile
  rw [read]
  exact ⟨_, rfl⟩

/-- A reconcile of an access begins with the look at its key. -/
theorem accesses_lookUp (backends : Backend.Registry) : LooksUp (Accesses.reconcile backends) := by
  intro text k read
  unfold Accesses.reconcile
  rw [read]
  exact ⟨_, rfl⟩

namespace Desk

/-! ## What a step leaves as it is -/

section frame

variable {d : Desk α}

/-- Keys that are added take nothing away from what is awaited. -/
theorem Awaited.of_added {d' : Desk α} {k : ObjectKey} (h : d.Awaited k) (keys : List String)
    (adds : d'.queue.keys = d.queue.keys.addAll keys)
    (workers : ∀ i, d.AboutToLook k i → d'.AboutToLook k i)
    (routing : d.routing.head? = some (.enqueue k) → d'.Awaited k) : d'.Awaited k := by
  rcases h with dirty | ⟨i, looks⟩ | next
  · left
    rw [adds]
    exact WorkQueue.mem_dirty_addAll_of_mem keys dirty
  · exact Or.inr (Or.inl ⟨i, workers i looks⟩)
  · exact routing next

/-- A worker that turns to something else leaves alone the others that are about to look. -/
theorem AboutToLook.setWorker {k : ObjectKey} {j : Nat} (h : d.AboutToLook k j) {i : Nat}
    {w : Worker α} (was : d.worker? i = some w) (other : w.wanted? ≠ some k) (w' : Worker α) :
    (d.setWorker i w').AboutToLook k j := by
  obtain ⟨v, is, holds, wants⟩ := h
  refine ⟨v, ?_, holds, wants⟩
  rw [worker?_setWorker was]
  split
  · rename_i here
    rw [here, was] at is
    rw [← Option.some.inj is] at wants
    exact absurd wants other
  · exact is

/-- A worker that was not about to look a key up leaves it awaited, whatever it turns to. -/
theorem Awaited.setWorker {k : ObjectKey} (h : d.Awaited k) {i : Nat} {w : Worker α}
    (was : d.worker? i = some w) (other : w.wanted? ≠ some k) (w' : Worker α)
    {queue : RetryQueue String} (keys : List String)
    (adds : queue.keys = d.queue.keys.addAll keys) {stores : Stores α} :
    ({ d with queue, stores }.setWorker i w').Awaited k := by
  refine h.of_added keys adds (fun j looks => ?_) fun next => Or.inr (Or.inr next)
  exact AboutToLook.setWorker (d := { d with queue, stores }) looks was other w'

/-- What concerns neither the cache nor a look is no sight. -/
theorem sight?_of_aside {h : Happening α} (aside : h.isAside = true) : d.sight? h = none := by
  cases h with
  | move m => cases m <;> first | rfl | simp [Happening.isAside] at aside
  | _ => rfl

/-- A worker that takes a step is seen if it is about to look something up. -/
theorem sight?_work {i : Nat} {w : Worker α} (was : d.worker? i = some w)
    (reply : Replies) :
    d.sight? (.move (.work i reply)) =
      w.wanted?.map fun k => .lookedUp k (d.stores.cache.objects.get? k) := by
  simp [sight?, was]

end frame

/-! ## The invariant -/

/-- What holds at every moment between what was seen of the cache and the rest of the desk. -/
structure Watched (d : Desk α) (sights : List (Sight α)) : Prop where
  /-- Whatever is still going to change an entry will queue its key at once. -/
  followed : Followed d.routing
  /-- Every key whose entry changed has a name. -/
  named : ∀ k, .changed k ∈ sights → k.Named
  /-- Whatever is overlooked is awaited. -/
  awaited : ∀ k, k.SlashFree → Overlooked k sights → d.Awaited k
  /-- What was not overlooked is cached as it was found. -/
  found : ∀ k seen, lastFound k sights = some seen → ¬ Overlooked k sights →
    d.stores.cache.objects.get? k = seen

/-- At first nothing has changed and nothing has been looked up. -/
theorem watched_opening (policy : RetryPolicy) (stores : Stores α) :
    (opening policy stores).Watched [] where
  followed := trivial
  named := by simp
  awaited := by simp [Overlooked]
  found := by simp [lastFound]

namespace Watched

variable {d d' : Desk α} {sights : List (Sight α)}

/-- A step that shows nothing of the cache only has to keep what is awaited. -/
theorem of_unseen (h : d.Watched sights) (followed : Followed d'.routing)
    (cache : ∀ k, d'.stores.cache.objects.get? k = d.stores.cache.objects.get? k)
    (awaited : ∀ k, k.SlashFree → k.Named → d.Awaited k → d'.Awaited k) : d'.Watched sights where
  followed := followed
  named := h.named
  awaited := fun k free missed =>
    awaited k free (h.named k (changed_of_overlooked missed)) (h.awaited k free missed)
  found := by
    intro k seen last fresh
    rw [cache]
    exact h.found k seen last fresh

/-- The entry of a key changes, and the next thing to happen is that the key is queued. -/
theorem changed (h : d.Watched sights) {e : Effect α} {rest : List (Effect α)} {k : ObjectKey}
    (due : d.routing = e :: rest) (changes : changedKey? e = some k) :
    ({ d with routing := rest }.apply e).Watched (.changed k :: sights) := by
  have followed := h.followed
  rw [due] at followed
  obtain ⟨named, next⟩ := followed.1 k changes
  refine ⟨by simpa using followed.2, ?_, ?_, ?_⟩
  · intro k' mem
    rcases List.mem_cons.1 mem with same | earlier
    · obtain rfl : k' = k := by simpa using same
      exact named
    · exact h.named k' earlier
  · intro k' free missed
    rcases overlooked_changed.1 missed with rfl | earlier
    · exact Or.inr (Or.inr (by simpa using next))
    · refine (h.awaited k' free earlier).of_added _ (keys_apply _ e) ?_ ?_
      · intro i looks
        simpa [AboutToLook, worker?] using looks
      · -- what changes an entry queues nothing
        rw [due]
        rintro ⟨⟩
        simp [changedKey?] at changes
  · intro k' seen last fresh
    rw [overlooked_changed, not_or] at fresh
    rw [stores_apply]
    have before := h.found k' seen last fresh.2
    cases e with
    | put k obj =>
      obtain rfl := Option.some.inj changes
      rw [← before]
      exact Table.get?_insert_of_ne _ _ fun same => fresh.1 same.symm
    | drop k =>
      obtain rfl := Option.some.inj changes
      rw [← before]
      exact Table.get?_erase_of_ne _ fun same => fresh.1 same.symm
    | enqueue k => simp [changedKey?] at changes
    | complete => simp [changedKey?] at changes

/-- A consequence of a report that changes no entry. -/
theorem unchanged (h : d.Watched sights) (opened : d.queue.keys.shuttingDown = false)
    {e : Effect α} {rest : List (Effect α)} (due : d.routing = e :: rest)
    (same : changedKey? e = none) : ({ d with routing := rest }.apply e).Watched sights := by
  have followed := h.followed
  rw [due] at followed
  refine h.of_unseen (by simpa using followed.2) ?_ ?_
  · rw [stores_apply]
    cases e <;> first | exact fun _ => rfl | simp [changedKey?] at same
  · intro k _ _ awaited
    refine awaited.of_added _ (keys_apply _ e) ?_ ?_
    · intro i looks
      simpa [AboutToLook, worker?] using looks
    · rw [due]
      rintro ⟨⟩
      left
      rw [keys_apply]
      exact (WorkQueue.mem_dirty_add opened k.text k.text).2 (Or.inr rfl)

/-- A worker looks a key up. -/
theorem lookedUp (h : d.Watched sights) {i : Nat} {key : String} {k : ObjectKey}
    {next : Except Failure (Option α) → Program α (Except Failure Unit)}
    (was : d.worker? i = some (.busy key (.ask (.store (.lookup k)) next))) :
    (d.access i key (.lookup k) next).Watched
      (.lookedUp k (d.stores.cache.objects.get? k) :: sights) where
  followed := h.followed
  named := by simpa using h.named
  awaited := by
    intro k' free missed
    rw [overlooked_lookedUp] at missed
    refine (h.awaited k' free missed.2).setWorker was ?_ _ [] rfl
    rintro ⟨⟩
    exact missed.1 rfl
  found := by
    intro k' seen last fresh
    rw [overlooked_lookedUp, not_and] at fresh
    show d.stores.cache.objects.get? k' = seen
    simp only [lastFound] at last
    split at last
    · rename_i same
      rw [← same]
      exact Option.some.inj last
    · rename_i other
      exact h.found k' seen last (fresh other)

/-- A worker that was not about to look anything up turns to something else. -/
theorem of_setWorker (h : d.Watched sights) {i : Nat} {w : Worker α}
    (was : d.worker? i = some w) (other : w.wanted? = none) (w' : Worker α)
    {queue : RetryQueue String} (keys : List String)
    (adds : queue.keys = d.queue.keys.addAll keys) {stores : Stores α}
    (cache : stores.cache = d.stores.cache) :
    ({ d with queue, stores }.setWorker i w').Watched sights := by
  refine h.of_unseen h.followed ?_ ?_
  · intro k
    show stores.cache.objects.get? k = d.stores.cache.objects.get? k
    rw [cache]
  · intro k _ _ awaited
    exact awaited.setWorker was (by simp [other]) w' keys adds

/-- A worker is handed a key, which is no longer dirty: but the first thing that the worker does
is to look it up. -/
theorem took (h : d.Watched sights) (looksUp : LooksUp reconcile) {i : Nat}
    {queue : RetryQueue String} {key : String} (was : d.worker? i = some .listening)
    (takes : d.queue.keys.take? = some (key, queue.keys)) :
    ({ d with queue }.setWorker i (.busy key (reconcile key))).Watched sights := by
  refine h.of_unseen h.followed (fun _ => rfl) ?_
  intro k free named awaited
  rcases awaited with dirty | ⟨j, looks⟩ | next
  · by_cases same : k.text = key
    · have read : ObjectKey.parse key = .ok k := by
        rw [← same]
        exact ObjectKey.parse_text ⟨named, free⟩
      obtain ⟨next, begins⟩ := looksUp key k read
      refine Or.inr (Or.inl ⟨i, .busy key (reconcile key), ?_, ?_, ?_⟩)
      · rw [worker?_setWorker (d := { d with queue }) was, if_pos rfl]
      · rw [same]
        rfl
      · rw [begins]
        rfl
    · left
      obtain ⟨-, rest, -, taken⟩ := WorkQueue.take?_eq_some.1 takes
      show k.text ∈ queue.keys.dirty
      rw [taken]
      exact WorkQueue.mem_remove.2 ⟨dirty, same⟩
  · refine Or.inr (Or.inl ⟨j, ?_⟩)
    exact AboutToLook.setWorker (d := { d with queue }) looks was nofun _
  · exact Or.inr (Or.inr next)

/-- A key that is given back stays dirty if it is. -/
theorem released (h : d.Watched sights) {i : Nat} {key : String}
    (was : d.worker? i = some (.closing key)) : (d.release i key).Watched sights := by
  refine h.of_unseen h.followed (fun _ => rfl) ?_
  intro k _ _ awaited
  rcases awaited with dirty | ⟨j, looks⟩ | next
  · left
    show k.text ∈ (d.queue.done key).keys.dirty
    rw [RetryQueue.keys_done]
    exact dirty
  · refine Or.inr (Or.inl ⟨j, ?_⟩)
    exact AboutToLook.setWorker (d := { d with queue := d.queue.done key }) looks was nofun _
  · exact Or.inr (Or.inr next)

/-- A report that is taken in changes nothing yet. -/
theorem reported (h : d.Watched sights) (idle : d.routing = []) {routing : List (Effect α)}
    (followed : Followed routing) (reflector : Reflector α) :
    ({ d with routing, reflector } : Desk α).Watched sights := by
  refine h.of_unseen followed (fun _ => rfl) ?_
  intro k _ _ awaited
  refine awaited.of_added [] rfl (fun i looks => looks) ?_
  rw [idle]
  simp

/-- Whatever has been overlooked is still going to be looked at after a step. -/
theorem step (h : d.Watched sights) (order : d.InOrder) (looksUp : LooksUp reconcile)
    {happening : Happening α} (s : Step reconcile count d happening d') :
    d'.Watched ((d.sight? happening).toList ++ sights) := by
  cases s with
  | received e idle => exact h.reported idle (.received _ _ e) _
  | notified n idle => exact h.reported idle (.notification n) _
  | routed e rest due =>
    have sight : d.sight? (.move .route) = (changedKey? e).map .changed := by simp [sight?, due]
    rw [sight]
    cases changes : changedKey? e with
    | none => exact h.unchanged order.opened due changes
    | some k => exact h.changed due changes
  | started waiting synced =>
    refine h.of_unseen h.followed (fun _ => rfl) ?_
    intro k _ _ awaited
    refine awaited.of_added [] rfl ?_ fun next => Or.inr (Or.inr next)
    rintro i ⟨w, is, -, -⟩
    simp [worker?, order.unstarted waiting] at is
  | added aside keys adds =>
    rw [sight?_of_aside aside]
    refine h.of_unseen h.followed (fun _ => rfl) ?_
    intro k _ _ awaited
    exact awaited.of_added keys adds (fun i looks => looks) fun next => Or.inr (Or.inr next)
  | arranged ks same =>
    exact h.of_unseen h.followed (get?_of_arranged same) fun k _ _ awaited => awaited
  | @turned i reply queue w w' was free free' same =>
    rw [sight?_work was, Worker.wanted?_of_free free]
    exact h.of_setWorker was (Worker.wanted?_of_free free) w' [] same rfl
  | took was takes =>
    rw [sight?_work was]
    exact h.took looksUp was takes
  | @accessed i reply key a next was =>
    rw [sight?_work was]
    cases a with
    | lookup k => exact h.lookedUp was
    | recordOf k => exact h.of_setWorker was rfl _ [] rfl rfl
    | remember k obj => exact h.of_setWorker was rfl _ [] rfl rfl
    | forget k => exact h.of_setWorker was rfl _ [] rfl rfl
  | @published i reply key e about next was =>
    rw [sight?_work was]
    exact h.of_setWorker was rfl (.busy key (next ())) [] rfl rfl
  | @called i reply key c next was =>
    rw [sight?_work was]
    exact h.of_setWorker was rfl (.busy key (next (reply c))) [] rfl rfl
  | @concluded i reply key outcome queue keys was adds =>
    rw [sight?_work was]
    exact h.of_setWorker was rfl (.closing key) keys adds rfl
  | released was =>
    rw [sight?_work was]
    exact h.released was
  | @lost i key c next was => exact h.of_setWorker was rfl (.lost key) [] rfl rfl

end Watched

/-- In a course nothing is overlooked that nobody is going to look at. -/
theorem watched_of_course (looksUp : LooksUp reconcile) {policy : RetryPolicy}
    {stores : Stores α} {d : Desk α} {trace : Trace α}
    (course : Course reconcile count (opening policy stores) d trace) : d.Watched trace.sights := by
  induction course with
  | start => exact watched_opening policy stores
  | next course happens ih =>
    rw [sights_cons]
    exact ih.step (inOrder_of_course course) looksUp (step_of_happen happens)

/-- **No update is missed.**  Whatever happens at the desk of either kind before it is shut down,
with however many workers: a key that holds no slash and whose entry in the cache has changed since
a worker last looked it up is dirty in the queue, or a worker holds it and is about to look it up,
or it is the next thing that the router queues.  A key that is not overlooked is still cached as
the last look found it. -/
theorem no_update_missed (backends : Backend.Registry) (policy : RetryPolicy) (count : Nat)
    (k : ObjectKey) (free : k.SlashFree) :
    (∀ stores d trace,
      Course (Claims.reconcile backends) count (opening policy stores) d trace →
        (Overlooked k trace.sights → d.Awaited k) ∧
        ∀ seen, lastFound k trace.sights = some seen → ¬ Overlooked k trace.sights →
          d.stores.cache.objects.get? k = seen) ∧
    (∀ stores d trace,
      Course (Accesses.reconcile backends) count (opening policy stores) d trace →
        (Overlooked k trace.sights → d.Awaited k) ∧
        ∀ seen, lastFound k trace.sights = some seen → ¬ Overlooked k trace.sights →
          d.stores.cache.objects.get? k = seen) := by
  constructor
  · intro stores d trace course
    have watched := watched_of_course (claims_lookUp backends) course
    exact ⟨watched.awaited k free, watched.found k⟩
  · intro stores d trace course
    have watched := watched_of_course (accesses_lookUp backends) course
    exact ⟨watched.awaited k free, watched.found k⟩

/-- A claim comes in, a worker looks it up, and the claim changes before the worker is done. -/
def changeInFlight : List (Happening BucketClaim) :=
  let claim : BucketClaim := { metadata := { name := some "a", uid := some "u" } }
  let work : Happening BucketClaim := .move (.work 0 fun _ => .error (.internal "api" "down"))
  [.move .start, .move (.notify (.added claim)), .move .route, .move .route, work, work, work,
    .move (.notify (.modified claim)), .move .route, .move .route]

/-- The key of a claim that changes in flight is only marked, for the worker still holds it; but it
is awaited. -/
theorem no_update_missed_in_flight :
    ∃ d trace,
      follow (Claims.reconcile {}) 1 (opening {} { cache := { synced := true } }) []
        changeInFlight = some (d, trace) ∧
      Overlooked (.cluster "a") trace.sights ∧ d.queue.keys.waiting = [] ∧
      d.Awaited (.cluster "a") := by
  have free : (ObjectKey.cluster "a").SlashFree := ⟨by decide, nofun⟩
  have missed : ∀ d trace,
      follow (Claims.reconcile {}) 1 (opening {} { cache := { synced := true } }) []
        changeInFlight = some (d, trace) →
      Overlooked (.cluster "a") trace.sights → d.Awaited (.cluster "a") := by
    intro d trace follows
    exact ((no_update_missed {} {} 1 _ free).1 _ d trace (course_of_follow .start follows)).1
  refine ⟨_, _, by rfl, ?_, by rfl, missed _ _ (by rfl) ?_⟩
  · exact overlooked_changed.2 (Or.inl rfl)
  · exact overlooked_changed.2 (Or.inl rfl)

end Desk

end BucketProvisioning.Engine
