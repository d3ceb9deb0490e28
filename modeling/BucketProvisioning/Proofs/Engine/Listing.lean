import BucketProvisioning.Proofs.Engine.Freshness
import BucketProvisioning.Proofs.Engine.Reported
import BucketProvisioning.Proofs.Engine.Retention
import BucketProvisioning.Proofs.Watch.Relist

/-!
# Lists and the cache

The cache of a desk over its whole lifetime, its shutdown included, while reports come in in any
order and workers run between any two consequences of a report.

* `Lifetime`: whatever may happen to a desk; its `Chronicle` says what did.  `Uptake` is the same as
  far as cache and reports are concerned.
* `Desk.progress_of_uptake`: since the last report the cache has followed the consequences of that
  report, one after the other, and the rest of them is still to be routed.
* `Desk.synced_of_lifetime`: a cache is complete only after a whole list has been applied.
* `Desk.expected_of_changed`: whoever changes the entry of a key queues the key at once.
* `cache_follows_reports`: what all this says of the cache.
-/

set_option autoImplicit false
set_option linter.unusedSectionVars false

namespace BucketProvisioning.Engine

open BucketProvisioning BucketProvisioning.Reconcile BucketProvisioning.Watch
open BucketProvisioning.Queue
open BucketProvisioning.Resource (Object)

variable {α : Type} [Object α]
variable {reconcile : String → Program α (Except Failure Unit)} {count : Nat}

/-! ## The lifetime of a desk -/

/-- What happened to a desk, the latest first, each with the desk to which it happened.  Where
nothing is named the desk was shut down. -/
abbrev Chronicle (α : Type) := List (Desk α × Option (Happening α))

/-- The desks that can come of a desk, with what happened in between.  A desk can be shut down at
any time, and things go on happening to it. -/
inductive Lifetime (reconcile : String → Program α (Except Failure Unit)) (count : Nat)
    (first : Desk α) : Desk α → Chronicle α → Prop
  /-- Nothing has happened yet. -/
  | start : Lifetime reconcile count first first []
  /-- Something more happens. -/
  | next {d d' : Desk α} {log : Chronicle α} {h : Happening α}
      (life : Lifetime reconcile count first d log)
      (happens : d.happen reconcile count h = some d') :
      Lifetime reconcile count first d' ((d, some h) :: log)
  /-- The desk is shut down. -/
  | shutDown {d : Desk α} {log : Chronicle α} (life : Lifetime reconcile count first d log) :
      Lifetime reconcile count first d.shutDown ((d, none) :: log)

/-- The chronicle of a desk that has not been shut down. -/
def Trace.chronicle (trace : Trace α) : Chronicle α := trace.map fun e => (e.1, some e.2)

/-- A course is a lifetime in which nobody shuts the desk down. -/
theorem Course.lifetime {first d : Desk α} {trace : Trace α}
    (course : Course reconcile count first d trace) :
    Lifetime reconcile count first d trace.chronicle := by
  induction course with
  | start => exact .start
  | next course happens ih => exact .next ih happens

/-- What a lifetime was before something happened. -/
theorem Lifetime.before {first d : Desk α} {later log : Chronicle α}
    {e : Desk α × Option (Happening α)}
    (life : Lifetime reconcile count first d (later ++ e :: log)) :
    Lifetime reconcile count first e.1 log := by
  induction later generalizing d with
  | nil => cases life <;> assumption
  | cons e' later ih => cases life with
    | next life happens => exact ih life
    | shutDown life => exact ih life

namespace Desk

/-! ## What happens to the cache -/

/-- Whether a report is taken in. -/
def isReport : Option (Happening α) → Bool
  | some (.move (.receive _)) => true
  | some (.move (.notify _)) => true
  | _ => false

/-- The consequences of the report that is taken in. -/
def consequences (d : Desk α) : Option (Happening α) → List (Effect α)
  | some (.move (.receive e)) => (d.reflector.effects d.stores.cache e).1
  | some (.move (.notify n)) => n.effects
  | _ => []

/-- The list being received after something has happened. -/
def listingAfter (d : Desk α) : Option (Happening α) → Reflector α
  | some (.move (.receive e)) => (d.reflector.effects d.stores.cache e).2
  | _ => d.reflector

/-- The key whose entry in the cache is written or removed. -/
def entryChanged? (d : Desk α) : Option (Happening α) → Option ObjectKey
  | some (.move .route) => d.routing.head?.bind changedKey?
  | _ => none

/-- The key that a worker is handed. -/
def given? (d : Desk α) (o : Option (Happening α)) : Option String := o.bind d.handedKey?

/-- What happens to cache and reports: a report is taken in, or a consequence of the last one takes
effect, or something else happens. -/
inductive Intake (d : Desk α) (o : Option (Happening α)) (d' : Desk α) : Prop
  /-- A report is taken in. -/
  | reported (reports : isReport o = true) (idle : d.routing = [])
      (cache : d'.stores.cache = d.stores.cache) (routing : d'.routing = d.consequences o)
      (reflector : d'.reflector = d.listingAfter o)
  /-- A consequence takes effect. -/
  | routed (e : Effect α) (is : o = some (.move .route))
      (due : d.routing = e :: d'.routing) (cache : d'.stores.cache = e.onCache d.stores.cache)
      (reflector : d'.reflector = d.reflector)
      (keys : d'.queue.keys = d.queue.keys.addAll e.queued?.toList)
  /-- Something else happens. -/
  | aside (unreported : isReport o = false) (unrouted : o ≠ some (.move .route))
      (cache : SameEntries d.stores.cache d'.stores.cache) (routing : d'.routing = d.routing)
      (reflector : d'.reflector = d.reflector)

/-- Every step takes in what it does to the cache in one of the ways of an intake. -/
theorem intake_of_step {d d' : Desk α} {h : Happening α} (s : Step reconcile count d h d') :
    d.Intake (some h) d' := by
  cases s with
  | received e idle => exact .reported rfl idle rfl rfl rfl
  | notified n idle => exact .reported rfl idle rfl rfl rfl
  | routed e rest due => exact .routed e rfl (by simp [due]) (by simp) (by simp) (by simp)
  | @added h queue aside keys adds =>
    refine .aside ?_ ?_ (.of_eq rfl) rfl rfl
    · unfold isReport
      split <;> simp_all [Happening.isAside]
    · rintro ⟨⟩
      simp [Happening.isAside] at aside
  | accessed was =>
    exact .aside rfl (by simp) (.of_eq (Stores.answer_cache _ _)) rfl rfl
  | arranged ks same => exact .aside rfl (by simp) (.arrange same) rfl rfl
  | _ => exact .aside rfl (by simp) (.of_eq rfl) rfl rfl

/-- Shutting a desk down is of no account for the cache. -/
theorem intake_shutDown (d : Desk α) : d.Intake none d.shutDown :=
  .aside rfl (by simp) (.of_eq rfl) rfl rfl

end Desk

/-- The desks that can come of a desk as far as cache and reports are concerned, whatever happens to
the rest of it. -/
inductive Uptake (first : Desk α) : Desk α → Chronicle α → Prop
  /-- Nothing has happened yet. -/
  | start : Uptake first first []
  /-- Something more happens. -/
  | next {d d' : Desk α} {log : Chronicle α} {o : Option (Happening α)}
      (uptake : Uptake first d log) (intake : d.Intake o d') : Uptake first d' ((d, o) :: log)

/-- A lifetime takes up what was reported. -/
theorem Lifetime.uptake {first d : Desk α} {log : Chronicle α}
    (life : Lifetime reconcile count first d log) : Uptake first d log := by
  induction life with
  | start => exact .start
  | next life happens ih => exact ih.next (Desk.intake_of_step (Desk.step_of_happen happens))
  | shutDown life ih => exact ih.next (Desk.intake_shutDown _)

/-- What holds of a desk at first, and is kept by whatever may happen to cache and reports, holds
all the time. -/
theorem Uptake.invariant {first d : Desk α} {log : Chronicle α}
    {P : Desk α → Chronicle α → Prop}
    (uptake : Uptake first d log) (start : P first [])
    (next : ∀ d o d' log, d.Intake o d' → P d log → P d' ((d, o) :: log)) : P d log := by
  induction uptake with
  | start => exact start
  | next uptake intake ih => exact next _ _ _ _ intake ih

/-- What holds of a desk at first, and is kept by every step and by a shutdown, holds all the
time. -/
theorem Lifetime.invariant {first d : Desk α} {log : Chronicle α}
    {P : Desk α → Chronicle α → Prop}
    (life : Lifetime reconcile count first d log) (start : P first [])
    (next : ∀ d o d' log, d.Intake o d' → P d log → P d' ((d, o) :: log)) : P d log :=
  life.uptake.invariant start next

namespace Chronicle

/-- The objects that have been listed since a list last began or was complete. -/
def listed : Chronicle α → List α
  | [] => []
  | (_, some (.move (.receive .listBegin))) :: _ => []
  | (_, some (.move (.receive .listEnd))) :: _ => []
  | (_, some (.move (.receive (.listed obj)))) :: log => listed log ++ [obj]
  | _ :: log => listed log

/-- The last report that was taken in was `e`; `applying` is what happened afterwards and `before`
what happened earlier. -/
structure LastReport (log applying : Chronicle α) (e : Desk α × Option (Happening α))
    (before : Chronicle α) : Prop where
  /-- It is a part of the chronicle. -/
  split : log = applying ++ e :: before
  /-- It is a report. -/
  reports : Desk.isReport e.2 = true
  /-- No later report has been taken in. -/
  last : ∀ x ∈ applying, Desk.isReport x.2 = false

namespace LastReport

variable {log applying before : Chronicle α} {e x : Desk α × Option (Happening α)}

/-- The last report is still the last one after anything but a report. -/
theorem cons (last : log.LastReport applying e before) (unreported : Desk.isReport x.2 = false) :
    LastReport (x :: log) (x :: applying) e before where
  split := by rw [last.split]; rfl
  reports := last.reports
  last := List.forall_mem_cons.2 ⟨unreported, last.last⟩

/-- The last report was the last one before anything but a report. -/
theorem of_cons (last : LastReport (x :: log) applying e before)
    (unreported : Desk.isReport x.2 = false) :
    ∃ applied, applying = x :: applied ∧ log.LastReport applied e before := by
  obtain ⟨split, reports, later⟩ := last
  cases applying with
  | nil =>
    obtain ⟨rfl, -⟩ := List.cons.inj split
    simp [unreported] at reports
  | cons y applied =>
    rw [List.cons_append] at split
    obtain ⟨rfl, rest⟩ := List.cons.inj split
    exact ⟨applied, rfl, rest, reports, (List.forall_mem_cons.1 later).2⟩

/-- A report that has just been taken in is the last one. -/
theorem of_reports (last : LastReport (x :: log) applying e before)
    (reports : Desk.isReport x.2 = true) : applying = [] ∧ e = x ∧ before = log := by
  obtain ⟨split, -, later⟩ := last
  cases applying with
  | nil =>
    obtain ⟨rfl, rfl⟩ := List.cons.inj split
    exact ⟨rfl, rfl, rfl⟩
  | cons y applied =>
    rw [List.cons_append] at split
    obtain ⟨rfl, -⟩ := List.cons.inj split
    simp [later _ List.mem_cons_self] at reports

end LastReport

/-- A list has come in, and all its consequences have taken effect. -/
def ListApplied (log : Chronicle α) (d : Desk α) : Prop :=
  ∃ later e before, log = later ++ e :: before ∧ e.2 = some (.move (.receive .listEnd)) ∧
    (d.routing = [] ∨ ∃ x ∈ later, x.1.routing = [])

/-- A list that has been applied stays so. -/
theorem ListApplied.next {log : Chronicle α} {d d' : Desk α} {o : Option (Happening α)}
    (applied : log.ListApplied d) : ListApplied ((d, o) :: log) d' := by
  obtain ⟨later, e, before, rfl, ends, done⟩ := applied
  refine ⟨(d, o) :: later, e, before, rfl, ends, Or.inr ?_⟩
  rcases done with idle | ⟨x, mem, idle⟩
  · exact ⟨_, List.mem_cons_self, idle⟩
  · exact ⟨x, List.mem_cons_of_mem _ mem, idle⟩

end Chronicle

/-! ## The progress of a report -/

namespace Desk

variable {policy : RetryPolicy} {d : Desk α} {log : Chronicle α}

/-- Every object is cached under its own key, no key is cached twice, and whatever is going to
change an entry will queue its key at once. -/
structure Kept (d : Desk α) : Prop where
  /-- What is cached is in place. -/
  place : Watch.InPlace d.stores.cache
  /-- What is going to be cached will be. -/
  placing : PutsInPlace d.routing
  /-- Every key is cached once. -/
  distinct : d.stores.cache.objects.keys.Nodup
  /-- Changes are going to be queued. -/
  followed : Followed d.routing

/-- Whatever is taken in, the cache is kept. -/
theorem Kept.intake {d' : Desk α} {o : Option (Happening α)} (h : d.Kept)
    (intake : d.Intake o d') : d'.Kept := by
  cases intake with
  | reported reports idle cache routing reflector =>
    unfold consequences at routing
    split at routing
    · exact ⟨cache ▸ h.place, routing ▸ .received _ _ _, cache ▸ h.distinct,
        routing ▸ .received _ _ _⟩
    · exact ⟨cache ▸ h.place, routing ▸ .notification _, cache ▸ h.distinct,
        routing ▸ .notification _⟩
    · exact ⟨cache ▸ h.place, routing ▸ fun _ _ mem => absurd mem List.not_mem_nil,
        cache ▸ h.distinct, routing ▸ trivial⟩
  | routed e is due cache reflector keys =>
    obtain ⟨place, placing, distinct, followed⟩ := h
    rw [due] at placing followed
    refine ⟨?_, fun k obj mem => placing k obj (List.mem_cons_of_mem _ mem), ?_, followed.2⟩
    · rw [cache]
      intro k obj cached
      rcases cached_of_onCache cached with rfl | earlier
      · exact placing k obj List.mem_cons_self
      · exact place k obj earlier
    · rw [cache]
      cases e with
      | put k obj => exact Table.nodup_keys_insert _ k obj distinct
      | drop k => exact Table.nodup_keys_erase _ k distinct
      | enqueue k => exact distinct
      | complete => exact distinct
  | aside unreported unrouted cache routing reflector =>
    refine ⟨fun k obj cached => h.place k obj ?_, routing ▸ h.placing,
      cache.keys.nodup_iff.2 h.distinct, routing ▸ h.followed⟩
    rw [← cache.get?, cached]

/-- A cache is kept for a lifetime. -/
theorem kept_of_lifetime (life : Lifetime reconcile count (opening policy {}) d log) : d.Kept := by
  refine life.invariant (P := fun d _ => d.Kept) ?_ fun _ _ _ _ intake h => h.intake intake
  exact ⟨by simp [opening, Watch.InPlace, Table.get?], fun _ _ mem => absurd mem List.not_mem_nil,
    by simp [opening, Table.keys], trivial⟩

/-- The list being received holds what has been listed. -/
theorem listing_of_lifetime (life : Lifetime reconcile count (opening policy {}) d log) :
    d.reflector.listing.getD [] = log.listed := by
  refine life.invariant (P := fun d log => d.reflector.listing.getD [] = log.listed) rfl ?_
  intro d o d' log intake same
  have after : d'.reflector = d.listingAfter o := by
    cases intake with
    | reported _ _ _ _ reflector => exact reflector
    | routed e is due cache reflector keys =>
      subst is
      exact reflector
    | aside unreported unrouted cache routing reflector =>
      rw [reflector]
      unfold listingAfter
      split
      · simp [isReport] at unreported
      · rfl
  rw [after]
  unfold listingAfter
  split
  · rename_i e
    cases e <;> simp [Reflector.effects, Chronicle.listed, same]
  · rename_i unlisted
    unfold Chronicle.listed
    split <;> simp_all

/-- **How far a report has been applied.**  If something is still to take effect then a report was
taken in.  And since the last report the cache has followed its consequences, as far as they do not
still have to take effect. -/
theorem progress_of_uptake (uptake : Uptake (opening policy {}) d log) :
    (d.routing ≠ [] → ∃ applying e before, log.LastReport applying e before) ∧
    ∀ applying e before, log.LastReport applying e before →
      ∃ done, e.1.consequences e.2 = done ++ d.routing ∧
        ∀ k, d.stores.cache.objects.get? k = (cacheAfter e.1.stores.cache done).objects.get? k := by
  refine uptake.invariant (P := fun d log =>
    (d.routing ≠ [] → ∃ applying e before, log.LastReport applying e before) ∧
    ∀ applying e before, log.LastReport applying e before →
      ∃ done, e.1.consequences e.2 = done ++ d.routing ∧
        ∀ k, d.stores.cache.objects.get? k =
          (cacheAfter e.1.stores.cache done).objects.get? k) ?_ ?_
  · exact ⟨by simp [opening], fun applying e before last => by simpa using last.split⟩
  · intro d o d' log intake earlier
    obtain ⟨came, follows⟩ := earlier
    cases intake with
    | reported reports idle cache routing reflector =>
      refine ⟨fun _ => ⟨[], (d, o), log, rfl, reports, by simp⟩, ?_⟩
      intro applying e before last
      obtain ⟨rfl, rfl, rfl⟩ := last.of_reports reports
      exact ⟨[], routing.symm, fun k => by rw [cache]; rfl⟩
    | routed e is due cache reflector keys =>
      have unreported : isReport o = false := by rw [is]; rfl
      refine ⟨fun _ => ?_, fun applying e' before last => ?_⟩
      · obtain ⟨applying, e', before, last⟩ := came (by simp [due])
        exact ⟨_, e', before, last.cons unreported⟩
      · obtain ⟨applied, -, last⟩ := last.of_cons unreported
        obtain ⟨done, rest, same⟩ := follows _ _ _ last
        refine ⟨done ++ [e], by simp [rest, due], fun k => ?_⟩
        rw [cache, cacheAfter_append]
        exact get?_onCache_congr e same k
    | aside unreported unrouted cache routing reflector =>
      refine ⟨fun due => ?_, fun applying e before last => ?_⟩
      · obtain ⟨applying, e, before, last⟩ := came (routing ▸ due)
        exact ⟨_, e, before, last.cons unreported⟩
      · obtain ⟨applied, -, last⟩ := last.of_cons unreported
        obtain ⟨done, rest, same⟩ := follows _ _ _ last
        exact ⟨done, routing ▸ rest, fun k => (cache.get? k).trans (same k)⟩

/-! ## Complete caches -/

/-- No notification completes a cache. -/
theorem uncompleted_notification (n : Notification α) : .complete ∉ n.effects := by
  cases n <;> simp only [Notification.effects] <;> split <;> simp

/-- What vanishes from a list does not complete a cache. -/
theorem uncompleted_vanish (listed ks : List ObjectKey) (c : Cache α) :
    .complete ∉ Reflector.vanishAll listed ks c := by
  induction ks generalizing c with
  | nil => simp [Reflector.vanishAll]
  | cons k ks ih =>
    simp only [Reflector.vanishAll, List.mem_append, not_or]
    refine ⟨?_, ih _⟩
    unfold Reflector.vanishEffects
    split
    · simp
    · exact uncompleted_notification _

/-- What completes the cache is the very last consequence of a list. -/
theorem complete_of_consequences {o : Option (Happening α)} {es es' : List (Effect α)}
    (split : d.consequences o = es ++ .complete :: es') :
    o = some (.move (.receive .listEnd)) ∧ es' = [] := by
  have mem : .complete ∈ d.consequences o := by simp [split]
  unfold consequences at mem split
  split at mem
  · rename_i e
    cases e with
    | apply obj => exact absurd mem (uncompleted_notification (.modified obj))
    | delete obj => exact absurd mem (uncompleted_notification (.deleted (.object obj)))
    | listBegin => simp [Reflector.effects] at mem
    | listed obj => simp [Reflector.effects] at mem
    | listEnd =>
      simp only [Reflector.effects, Reflector.listEffects] at split
      refine ⟨rfl, ?_⟩
      rcases List.append_eq_append_iff.1 split with ⟨between, -, last⟩ | ⟨between, front, last⟩
      · cases between with
        | nil => simpa using last.symm
        | cons e between => simp at last
      · cases between with
        | nil => simpa using last
        | cons e between =>
          -- nothing before the end completes the cache
          obtain ⟨rfl, -⟩ := List.cons.inj last
          have early : (.complete : Effect α) ∈ es ++ .complete :: between := by simp
          rw [← front, List.mem_append, List.mem_flatMap] at early
          rcases early with vanishes | ⟨obj, -, places⟩
          · exact absurd vanishes (uncompleted_vanish _ _ _)
          · exact absurd places (uncompleted_notification (.modified obj))
  · exact absurd mem (uncompleted_notification _)
  · exact absurd mem List.not_mem_nil

/-- A cache is complete only after a whole list has been applied, whatever happens to the rest of
the desk. -/
theorem synced_of_uptake (uptake : Uptake (opening policy {}) d log)
    (synced : d.stores.cache.synced = true) : log.ListApplied d := by
  induction uptake with
  | start => simp [opening] at synced
  | @next d d' log o uptake intake ih =>
    cases intake with
    | reported reports idle cache routing reflector => exact (ih (cache ▸ synced)).next
    | aside unreported unrouted cache routing reflector =>
      exact (ih (cache.synced ▸ synced)).next
    | routed e is due cache reflector keys =>
      by_cases before : d.stores.cache.synced = true
      · exact (ih before).next
      · have completes : e = .complete := by
          rw [cache] at synced
          cases e <;> first | rfl | exact absurd synced before
        obtain ⟨came, follows⟩ := progress_of_uptake uptake
        obtain ⟨applying, e', earlier, last⟩ := came (by simp [due])
        obtain ⟨done, split, -⟩ := follows _ _ _ last
        rw [due, completes] at split
        obtain ⟨ends, idle⟩ := complete_of_consequences split
        exact ⟨(d, o) :: applying, e', earlier, by rw [last.split]; rfl, ends, Or.inl idle⟩

/-- **A cache is complete only after a whole list has been applied.** -/
theorem synced_of_lifetime (life : Lifetime reconcile count (opening policy {}) d log)
    (synced : d.stores.cache.synced = true) : log.ListApplied d :=
  synced_of_uptake life.uptake synced

/-! ## Changes are queued -/

/-- A key is dirty, or a worker has been handed it in the meantime. -/
def Queued (d : Desk α) (since : Chronicle α) (k : ObjectKey) : Prop :=
  k.text ∈ d.queue.keys.dirty ∨ ∃ y ∈ since, y.1.given? y.2 = some k.text

/-- A key is queued, or is the next to be. -/
def Expected (d : Desk α) (since : Chronicle α) (k : ObjectKey) : Prop :=
  d.Queued since k ∨ d.routing.head? = some (.enqueue k)

/-- What a consequence does not change stays as it is. -/
theorem get?_onCache_of_unchanged {e : Effect α} {k : ObjectKey}
    (unchanged : changedKey? e ≠ some k)
    (c : Cache α) : (e.onCache c).objects.get? k = c.objects.get? k := by
  cases e with
  | put k' obj => exact Table.get?_insert_of_ne _ obj fun same => unchanged (same ▸ rfl)
  | drop k' => exact Table.get?_erase_of_ne _ fun same => unchanged (same ▸ rfl)
  | enqueue k' => rfl
  | complete => rfl

/-- The entry of a key is as it was unless something has changed it. -/
theorem get?_of_unchanged {first : Desk α} {later : Chronicle α}
    {e : Desk α × Option (Happening α)} {k : ObjectKey}
    (life : Lifetime reconcile count first d (later ++ e :: log))
    (reports : isReport e.2 = true)
    (unchanged : ∀ x ∈ later, x.1.entryChanged? x.2 ≠ some k) :
    d.stores.cache.objects.get? k = e.1.stores.cache.objects.get? k := by
  have next {d d' : Desk α} {o : Option (Happening α)} (intake : d.Intake o d')
      (same : d.entryChanged? o ≠ some k) :
      d'.stores.cache.objects.get? k = d.stores.cache.objects.get? k := by
    cases intake with
    | reported reports idle cache routing reflector => rw [cache]
    | aside unreported unrouted cache routing reflector => exact cache.get? k
    | routed e is due cache reflector keys =>
      rw [cache]
      refine get?_onCache_of_unchanged (fun changes => same ?_) _
      simp [entryChanged?, is, due, changes]
  have untouched : e.1.entryChanged? e.2 ≠ some k := by
    unfold entryChanged?
    split
    · rename_i is
      simp [is, isReport] at reports
    · simp
  induction later generalizing d with
  | nil =>
    cases life with
    | next life happens => exact next (intake_of_step (step_of_happen happens)) untouched
    | shutDown life => exact next (intake_shutDown _) untouched
  | cons x later ih =>
    rw [List.forall_mem_cons] at unchanged
    cases life with
    | next life happens =>
      exact (next (intake_of_step (step_of_happen happens)) unchanged.1).trans (ih life unchanged.2)
    | shutDown life => exact (next (intake_shutDown _) unchanged.1).trans (ih life unchanged.2)

/-- A key that is expected stays so as long as the queue is open. -/
theorem Expected.next {d' : Desk α} {since : Chronicle α} {k : ObjectKey} {h : Happening α}
    (expected : d.Expected since k) (s : Step reconcile count d h d')
    (opened : d.queue.isShuttingDown = false) : d'.Expected ((d, some h) :: since) k := by
  by_cases given : d.handedKey? h = some k.text
  · exact Or.inl (Or.inr ⟨_, List.mem_cons_self, given⟩)
  · rcases expected with (dirty | ⟨y, mem, earlier⟩) | due
    · exact Or.inl (Or.inl (mem_dirty_of_step dirty s given))
    · exact Or.inl (Or.inr ⟨y, List.mem_cons_of_mem _ mem, earlier⟩)
    · cases intake_of_step s with
      | reported reports idle cache routing reflector => simp [idle] at due
      | aside unreported unrouted cache routing reflector => exact Or.inr (routing ▸ due)
      | routed e is next cache reflector keys =>
        obtain rfl : e = .enqueue k := by simpa [next] using due
        refine Or.inl (Or.inl ?_)
        rw [keys]
        exact (WorkQueue.mem_dirty_add opened k.text k.text).2 (Or.inr rfl)

/-- A queue that is open has always been open. -/
theorem opened_of_lifetime {first : Desk α} {later : Chronicle α}
    {e : Desk α × Option (Happening α)}
    (life : Lifetime reconcile count first d (later ++ e :: log))
    (opened : d.queue.isShuttingDown = false) : e.1.queue.isShuttingDown = false := by
  induction later generalizing d with
  | nil =>
    cases life with
    | next life happens => exact (shuttingDown_of_step (step_of_happen happens)).symm.trans opened
    | shutDown life => simp [shutDown, RetryQueue.isShuttingDown, WorkQueue.shutDown] at opened
  | cons e' later ih =>
    cases life with
    | next life happens =>
      exact ih life ((shuttingDown_of_step (step_of_happen happens)).symm.trans opened)
    | shutDown life => simp [shutDown, RetryQueue.isShuttingDown, WorkQueue.shutDown] at opened

/-- **Whoever changes the entry of a key queues the key at once.** -/
theorem expected_of_changed {newer older : Chronicle α} {x : Desk α × Option (Happening α)}
    {k : ObjectKey} (life : Lifetime reconcile count (opening policy {}) d (newer ++ x :: older))
    (opened : d.queue.isShuttingDown = false) (changed : x.1.entryChanged? x.2 = some k) :
    d.Expected newer k := by
  induction newer generalizing d with
  | nil =>
    obtain ⟨d₀, o⟩ := x
    have followed := (kept_of_lifetime life.before).followed
    cases life with
    | shutDown life => simp [entryChanged?] at changed
    | @next _ _ _ h life happens =>
      cases intake_of_step (step_of_happen happens) with
      | reported reports idle cache routing reflector =>
        unfold entryChanged? at changed
        split at changed
        · simp [idle] at changed
        · simp at changed
      | aside unreported unrouted cache routing reflector =>
        unfold entryChanged? at changed
        split at changed
        · rename_i is
          exact absurd is unrouted
        · simp at changed
      | routed e is due cache reflector keys =>
        rw [due] at followed
        obtain rfl := Option.some.inj is
        exact Or.inr (followed.1 k (by simpa [entryChanged?, due] using changed)).2
  | cons y newer ih =>
    have before : y.1.queue.isShuttingDown = false :=
      opened_of_lifetime (show Lifetime _ _ _ d ([] ++ y :: (newer ++ x :: older)) from life) opened
    cases life with
    | next life happens => exact (ih life before).next (step_of_happen happens) before
    | shutDown life => simp [shutDown, RetryQueue.isShuttingDown, WorkQueue.shutDown] at opened

/-! ## Reports and lists -/

section reports

variable {applying before : Chronicle α} {e : Desk α × Option (Happening α)}
variable (life : Lifetime reconcile count (opening policy {}) d log)
variable (last : log.LastReport applying e before)

include life last

/-- Once a report has taken effect, every key whose entry it has changed is queued. -/
theorem queued_of_changed (idle : d.routing = []) (opened : d.queue.isShuttingDown = false)
    {newer older : Chronicle α} {x : Desk α × Option (Happening α)} {k : ObjectKey}
    (parts : applying = newer ++ x :: older) (changed : x.1.entryChanged? x.2 = some k) :
    d.Queued newer k := by
  rw [last.split, parts, List.append_assoc, List.cons_append] at life
  refine (expected_of_changed life opened changed).resolve_right fun due => ?_
  simp [idle] at due

/-- Once a report has taken effect, every key is queued whose entry is not what it was. -/
theorem queued_of_ne (idle : d.routing = []) (opened : d.queue.isShuttingDown = false)
    {k : ObjectKey} (other : d.stores.cache.objects.get? k ≠ e.1.stores.cache.objects.get? k) :
    d.Queued applying k := by
  have changed : ∃ x ∈ applying, x.1.entryChanged? x.2 = some k := by
    by_contra unchanged
    rw [last.split] at life
    exact other (get?_of_unchanged life last.reports fun x mem changes =>
      unchanged ⟨x, mem, changes⟩)
  obtain ⟨x, mem, changed⟩ := changed
  obtain ⟨newer, older, parts⟩ := List.append_of_mem mem
  refine (queued_of_changed life last idle opened parts changed).imp_right ?_
  rintro ⟨y, mem, given⟩
  exact ⟨y, parts ▸ List.mem_append_left _ mem, given⟩

variable (ends : e.2 = some (.move (.receive .listEnd)))

include ends

/-- How far a list has been applied. -/
theorem progress_of_list : ∃ done,
    Reflector.listEffects e.1.stores.cache before.listed = done ++ d.routing ∧
      ∀ k, d.stores.cache.objects.get? k =
        (cacheAfter e.1.stores.cache done).objects.get? k := by
  obtain ⟨done, split, same⟩ := (progress_of_uptake life.uptake).2 _ _ _ last
  rw [last.split] at life
  refine ⟨done, ?_, same⟩
  rw [← split, ends, ← listing_of_lifetime life.before]
  rfl

/-- Once a list has been applied, the cache holds what was listed. -/
theorem get?_of_list (idle : d.routing = []) (k : ObjectKey) :
    d.stores.cache.objects.get? k = Reflector.lastOf k before.listed := by
  obtain ⟨done, all, same⟩ := progress_of_list life last ends
  rw [last.split] at life
  have kept := kept_of_lifetime life.before
  rw [idle, List.append_nil] at all
  rw [same, ← all]
  exact Reflector.get?_listEffects kept.place kept.distinct _ k

/-- While a list is applied, what is cached and listed is found. -/
theorem found_of_listed {k : ObjectKey}
    (cached : (e.1.stores.cache.objects.get? k).isSome = true)
    (isListed : ∃ obj ∈ before.listed, ObjectKey.ofObject? obj = some k) :
    ∃ obj, d.stores.cache.lookup k = .ok (some obj) := by
  obtain ⟨done, all, same⟩ := progress_of_list life last ends
  rw [last.split] at life
  have kept := kept_of_lifetime life.before
  have undropped := Reflector.undropped_of_listed kept.place kept.distinct isListed
  rw [all, List.mem_append, not_or] at undropped
  have still := isSome_cacheAfter undropped.1 cached
  rw [← same k] at still
  obtain ⟨obj, is⟩ := Option.isSome_iff_exists.1 still
  exact ⟨obj, by simp [Cache.lookup, is]⟩

end reports

end Desk

/-- **The cache follows the reports.**  Over the whole lifetime of a desk that begins with an empty
cache, with reports of any kind in any order, and in whatever order the cache is walked when a list
is complete:

* every object is cached under its own key;
* unless a list has come in and has been applied completely, no key is found to be absent;
* once the last report was a complete list and that has taken effect, the cache holds exactly the
  objects of the list, the last copy for each key; even before that every key that was cached and
  is listed is found at any moment; and a key that was cached and is not listed is then queued as it
  was cached, unless the queue was shut down;
* once a report of any kind has taken effect, an entry that it has neither written nor removed is as
  it was, and the key of any other entry has been queued since then, unless the queue was shut
  down; it is still dirty if no worker has been handed it in between. -/
theorem cache_follows_reports {policy : RetryPolicy} {d : Desk α} {log : Chronicle α}
    (life : Lifetime reconcile count (.opening policy {}) d log) :
    (∀ k obj, d.stores.cache.objects.get? k = some obj → ObjectKey.ofObject? obj = some k) ∧
    (∀ k, d.stores.cache.lookup k = .ok none → log.ListApplied d) ∧
    ∀ applying e before, log.LastReport applying e before →
      (e.2 = some (.move (.receive .listEnd)) →
        (d.routing = [] → ∀ k, d.stores.cache.objects.get? k = Reflector.lastOf k before.listed) ∧
        (∀ k, (e.1.stores.cache.objects.get? k).isSome = true →
          (∃ obj ∈ before.listed, ObjectKey.ofObject? obj = some k) →
          ∃ obj, d.stores.cache.lookup k = .ok (some obj)) ∧
        (d.routing = [] → d.queue.isShuttingDown = false → ∀ k,
          (e.1.stores.cache.objects.get? k).isSome = true →
          (∀ obj ∈ before.listed, ObjectKey.ofObject? obj ≠ some k) → d.Queued applying k)) ∧
      (d.routing = [] → ∀ k,
        ((∀ x ∈ applying, x.1.entryChanged? x.2 ≠ some k) →
          d.stores.cache.objects.get? k = e.1.stores.cache.objects.get? k) ∧
        (d.queue.isShuttingDown = false → ∀ newer x older, applying = newer ++ x :: older →
          x.1.entryChanged? x.2 = some k → d.Queued newer k)) := by
  refine ⟨(Desk.kept_of_lifetime life).place, fun k absent => ?_, fun applying e before last => ?_⟩
  · refine Desk.synced_of_lifetime life ?_
    unfold Cache.lookup at absent
    split at absent
    · simp at absent
    · by_contra unsynced
      simp [unsynced] at absent
  · refine ⟨fun ends => ⟨Desk.get?_of_list life last ends,
      fun k => Desk.found_of_listed life last ends, fun idle opened k cached unlisted => ?_⟩,
      fun idle k => ⟨?_, fun opened newer x older => Desk.queued_of_changed life last idle opened⟩⟩
    · have gone := (Desk.get?_of_list life last ends idle k).trans
        (Reflector.lastOf_eq_none.2 unlisted)
      refine Desk.queued_of_ne life last idle opened fun same => ?_
      simp [← same, gone] at cached
    · rw [last.split] at life
      exact Desk.get?_of_unchanged life last.reports

/-! ## A claim that vanishes -/

/-- The last report, by its place in a chronicle. -/
theorem Chronicle.lastReport_at {log : Chronicle α} {place : Nat}
    {e : Desk α × Option (Happening α)} (there : log[place]? = some e)
    (reports : Desk.isReport e.2 = true)
    (last : ∀ x ∈ log.take place, Desk.isReport x.2 = false) :
    log.LastReport (log.take place) e (log.drop (place + 1)) where
  split := by
    obtain ⟨inside, same⟩ := List.getElem?_eq_some_iff.1 there
    rw [← same, List.getElem_cons_drop, List.take_append_drop]
  reports := reports
  last := last

/-- The trace of some happenings lists them, the latest first. -/
theorem Desk.happenings_of_follow {d d' : Desk α} {trace trace' : Trace α}
    {happenings : List (Happening α)}
    (follows : d.follow reconcile count trace happenings = some (d', trace')) :
    trace'.map Prod.snd = happenings.reverse ++ trace.map Prod.snd := by
  induction happenings generalizing d trace with
  | nil =>
    obtain ⟨rfl, rfl⟩ := Prod.mk.inj (Option.some.inj follows)
    rfl
  | cons h later ih =>
    unfold follow at follows
    split at follows
    · rw [ih follows]
      simp
    · simp at follows

/-- A claim is listed, and the next list is empty. -/
def vanishing : List (Happening Resource.BucketClaim) :=
  opened [newClaim] ++ [.move (.receive .listBegin), .move (.receive .listEnd)] ++
    List.replicate 3 (.move .route)

/-- A claim that was cached and is not listed any more is not cached any more, and is queued. -/
theorem cache_follows_reports_vanished : ∃ d log applying e before,
    Lifetime (Claims.reconcile oneType) 1 (.opening {} {}) d log ∧
    log.LastReport applying e before ∧ e.2 = some (.move (.receive .listEnd)) ∧
    d.routing = [] ∧ (e.1.stores.cache.objects.get? (.namespaced "n" "a")).isSome = true ∧
    d.stores.cache.objects.get? (.namespaced "n" "a") = none ∧
    d.Queued applying (.namespaced "n" "a") := by
  have rehearsed : ((Desk.opening {} {}).follow (Claims.reconcile oneType) 1 [] vanishing).any
      (fun r => r.1.routing.isEmpty && r.1.queue.isShuttingDown == false &&
        r.2.chronicle[3]?.any fun e =>
          (e.1.stores.cache.objects.get? (.namespaced "n" "a")).isSome &&
          (r.2.chronicle.take 3).all (fun y => Desk.isReport y.2 == false) &&
          (Chronicle.listed (r.2.chronicle.drop 4)).isEmpty) = true := by
    decide +kernel
  simp only [Option.any_eq_true, Bool.and_eq_true, beq_iff_eq, List.all_eq_true,
    List.isEmpty_iff] at rehearsed
  obtain ⟨⟨d, past⟩, follows, ⟨idle, opened⟩, ⟨d₀, o⟩, there, ⟨cached, quiet⟩, unlisted⟩ :=
    rehearsed
  obtain rfl : some (.move (.receive .listEnd)) = o := by
    have fourth : (past.map Prod.snd)[3]? = some (.move (.receive .listEnd)) := by
      rw [Desk.happenings_of_follow follows]
      rfl
    rw [Trace.chronicle, List.getElem?_map] at there
    rw [List.getElem?_map] at fourth
    cases here : past[3]? with
    | none => simp [here] at fourth
    | some e =>
      simp only [here, Option.map_some, Option.some.injEq, Prod.mk.injEq] at there fourth
      exact fourth ▸ there.2
  have life : Lifetime (Claims.reconcile oneType) 1 (.opening {} {}) d past.chronicle :=
    (Desk.course_of_follow .start follows).lifetime
  have last := Chronicle.lastReport_at there rfl quiet
  obtain ⟨-, -, reported⟩ := cache_follows_reports life
  obtain ⟨lists, -⟩ := reported _ _ _ last
  obtain ⟨holds, -, queues⟩ := lists rfl
  have nothing : Chronicle.listed (past.chronicle.drop (3 + 1)) = [] := unlisted
  refine ⟨d, _, _, _, _, life, last, rfl, idle, cached, ?_, ?_⟩
  · rw [holds idle, nothing]
    rfl
  · exact queues idle opened _ cached (by simp [nothing])

end BucketProvisioning.Engine
