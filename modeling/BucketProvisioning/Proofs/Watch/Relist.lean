import BucketProvisioning.Watch.Notification

/-!
# What a list does to the cache

A list is applied as a row of single consequences: first the keys that vanished are dropped and
queued one by one, then every listed object is put in place, and at last the cache is complete.
Which key a vanished object is queued under is read off its last copy, so it matters that every
object is cached under its own key and that no key is cached twice.

* `Reflector.vanishAll_eq`: every key that is cached and not listed is dropped and queued, as it is.
* `Reflector.get?_listEffects`: after all that the cache holds the last listed copy for each key.
* `Reflector.undropped_of_listed`: nothing drops a key that is listed.
-/

set_option autoImplicit false

namespace BucketProvisioning.Watch

open BucketProvisioning
open BucketProvisioning.Resource (Object)

variable {α : Type}

/-- Every object of a cache is cached under its own key. -/
def InPlace [Object α] (c : Cache α) : Prop :=
  ∀ k obj, c.objects.get? k = some obj → ObjectKey.ofObject? obj = some k

/-- Two caches hold the same, perhaps in different orders. -/
structure SameEntries (c c' : Cache α) : Prop where
  /-- The same is found under every key. -/
  get? : ∀ k, c'.objects.get? k = c.objects.get? k
  /-- The keys are the same. -/
  keys : c'.objects.keys.Perm c.objects.keys
  /-- The one is complete if the other one is. -/
  synced : c'.synced = c.synced

/-- A cache that has not changed holds what it held. -/
theorem SameEntries.of_eq {c c' : Cache α} (same : c' = c) : SameEntries c c' := by
  subst same
  exact ⟨fun _ => rfl, .refl _, rfl⟩

/-- A cache that has got another order holds what it held. -/
theorem SameEntries.arrange {c : Cache α} {ks : List ObjectKey} (same : ks.Perm c.objects.keys) :
    SameEntries c (c.arrange ks) where
  get? := Table.get?_arrange same
  keys := (List.Perm.of_eq (Table.keys_arrange fun _ => same.mem_iff.1)).trans same
  synced := rfl

/-- A consequence does the same to caches in which the same is found. -/
theorem get?_onCache_congr {c c' : Cache α} (e : Effect α)
    (same : ∀ k, c.objects.get? k = c'.objects.get? k) (k : ObjectKey) :
    (e.onCache c).objects.get? k = (e.onCache c').objects.get? k := by
  cases e with
  | put k' obj => simp only [Effect.onCache, Cache.insert, Table.get?_insert, same k]
  | drop k' => simp only [Effect.onCache, Cache.erase, Table.get?_erase, same k]
  | enqueue k' | complete => exact same k

/-- The cache after some consequences. -/
def cacheAfter (c : Cache α) (es : List (Effect α)) : Cache α := es.foldl (fun c e => e.onCache c) c

section cacheAfter

variable (c : Cache α)

/-- Without effects nothing changes. -/
@[simp] theorem cacheAfter_nil : cacheAfter c [] = c := rfl

/-- Effects are felt one after the other. -/
@[simp] theorem cacheAfter_cons (e : Effect α) (es : List (Effect α)) :
    cacheAfter c (e :: es) = cacheAfter (e.onCache c) es := rfl

/-- Effects in a row are felt as the first ones and then the others. -/
theorem cacheAfter_append (es es' : List (Effect α)) :
    cacheAfter c (es ++ es') = cacheAfter (cacheAfter c es) es' :=
  List.foldl_append

/-- A key that is cached stays cached unless it is dropped. -/
theorem isSome_cacheAfter {k : ObjectKey} {es : List (Effect α)} (undropped : .drop k ∉ es)
    {c : Cache α} (cached : (c.objects.get? k).isSome = true) :
    ((cacheAfter c es).objects.get? k).isSome = true := by
  induction es generalizing c with
  | nil => exact cached
  | cons e es ih =>
    rw [List.mem_cons, not_or] at undropped
    refine ih undropped.2 ?_
    cases e with
    | put k' obj =>
      simp only [Effect.onCache, Cache.insert, Table.get?_insert]
      split
      · rfl
      · exact cached
    | drop k' =>
      have other : k ≠ k' := fun same => undropped.1 (same ▸ rfl)
      simp only [Effect.onCache, Cache.erase]
      rwa [Table.get?_erase_of_ne _ other]
    | enqueue k' => exact cached
    | complete => exact cached

end cacheAfter

namespace Reflector

variable [Object α]

/-- The last of some objects that has a key. -/
def lastOf (k : ObjectKey) (objs : List α) : Option α :=
  (objs.filter fun obj => ObjectKey.ofObject? obj = some k).getLast?

/-- The last object of a key is among the later ones, or it is the first. -/
theorem lastOf_cons (k : ObjectKey) (obj : α) (objs : List α) :
    lastOf k (obj :: objs) =
      (lastOf k objs).or (if ObjectKey.ofObject? obj = some k then some obj else none) := by
  unfold lastOf
  by_cases own : ObjectKey.ofObject? obj = some k
  · simp only [own, List.filter_cons, decide_true, if_true, List.getLast?_cons]
    cases (objs.filter fun obj => ObjectKey.ofObject? obj = some k).getLast? <;> rfl
  · simp [own]

/-- There is no last object of a key if there is none at all. -/
theorem lastOf_eq_none {k : ObjectKey} {objs : List α} :
    lastOf k objs = none ↔ ∀ obj ∈ objs, ObjectKey.ofObject? obj ≠ some k := by
  simp [lastOf]

/-- What follows for keys that have vanished. -/
def dropEffects (ks : List ObjectKey) : List (Effect α) :=
  ks.flatMap fun k => [.drop k, .enqueue k]

/-- **A vanished object is queued under the key it was cached under.**  Every key that is not listed
is dropped and queued, as it is, and nothing else is. -/
theorem vanishAll_eq {listed ks : List ObjectKey} {c : Cache α} (place : InPlace c)
    (distinct : ks.Nodup) (cached : ∀ k ∈ ks, ∃ obj, c.objects.get? k = some obj) :
    vanishAll listed ks c = dropEffects (ks.filter (· ∉ listed)) := by
  induction ks generalizing c with
  | nil => rfl
  | cons k ks ih =>
    rw [List.forall_mem_cons] at cached
    obtain ⟨first, distinct⟩ := List.nodup_cons.1 distinct
    by_cases isListed : k ∈ listed
    · have kept : vanishEffects c listed k = [] := by simp [vanishEffects, isListed]
      have rest := ih place distinct cached.2
      simp only [vanishAll, kept, List.nil_append, List.foldl_nil, rest]
      simp [isListed]
    · obtain ⟨obj, is⟩ := cached.1
      have gone : vanishEffects c listed k = [.drop k, .enqueue k] := by
        simp [vanishEffects, isListed, is, Notification.effects, Deleted.key?, place k obj is]
      have erased (k' : ObjectKey) : (c.erase k).objects.get? k' =
          if k' = k then none else c.objects.get? k' := Table.get?_erase _ k k'
      have rest : vanishAll listed ks (c.erase k) = dropEffects (ks.filter (· ∉ listed)) := by
        refine ih (fun k' obj' is' => ?_) distinct fun k' mem => ?_
        · rw [erased] at is'
          split at is'
          · simp at is'
          · exact place k' obj' is'
        · have other : k' ≠ k := fun same => first (same ▸ mem)
          rw [erased, if_neg other]
          exact cached.2 k' mem
      simp only [vanishAll, gone, List.foldl_cons, List.foldl_nil, Effect.onCache, rest]
      simp [dropEffects, isListed]

omit [Object α] in
/-- Vanished keys are not cached any more, and all others are as before. -/
theorem get?_dropEffects (ks : List ObjectKey) (c : Cache α) (k : ObjectKey) :
    (cacheAfter c (dropEffects ks)).objects.get? k =
      if k ∈ ks then none else c.objects.get? k := by
  induction ks generalizing c with
  | nil => simp [dropEffects]
  | cons k' ks ih =>
    have split : dropEffects (k' :: ks) = [.drop k', .enqueue k'] ++ dropEffects (α := α) ks := rfl
    rw [split, cacheAfter_append, ih]
    simp only [cacheAfter_cons, cacheAfter_nil, Effect.onCache, Cache.erase, Table.get?_erase,
      List.mem_cons]
    grind

/-- Listed objects are put in place, the last copy for each key. -/
theorem get?_applyEffects (objs : List α) (c : Cache α) (k : ObjectKey) :
    (cacheAfter c (objs.flatMap applyEffects)).objects.get? k =
      (lastOf k objs).or (c.objects.get? k) := by
  induction objs generalizing c with
  | nil => rfl
  | cons obj objs ih =>
    rw [List.flatMap_cons, cacheAfter_append, ih, lastOf_cons, Option.or_assoc]
    congr 1
    cases own : ObjectKey.ofObject? obj with
    | none => simp [applyEffects, Notification.effects, own]
    | some k' =>
      simp only [applyEffects, Notification.effects, own, cacheAfter_cons, cacheAfter_nil,
        Effect.onCache, Cache.insert, Table.get?_insert, Option.some.injEq]
      by_cases same : k = k'
      · simp [same]
      · simp [same, Ne.symm same]

section listEffects

variable {c : Cache α} (place : InPlace c) (distinct : c.objects.keys.Nodup)

include place distinct

/-- A list is applied in three parts. -/
theorem listEffects_eq (objs : List α) : listEffects c objs =
    dropEffects (c.objects.keys.filter (· ∉ objs.filterMap ObjectKey.ofObject?)) ++
      objs.flatMap applyEffects ++ [.complete] := by
  unfold listEffects
  rw [vanishAll_eq place distinct]
  intro k mem
  rw [Table.mem_keys] at mem
  exact Option.isSome_iff_exists.1 mem

/-- **After a list the cache holds what is listed**, the last copy for each key. -/
theorem get?_listEffects (objs : List α) (k : ObjectKey) :
    (cacheAfter c (listEffects c objs)).objects.get? k = lastOf k objs := by
  rw [listEffects_eq place distinct, cacheAfter_append, cacheAfter_append]
  simp only [cacheAfter_cons, cacheAfter_nil, Effect.onCache, Cache.markSynced,
    get?_applyEffects, get?_dropEffects]
  cases last : lastOf k objs with
  | some obj => rfl
  | none =>
    have unlisted : k ∉ objs.filterMap ObjectKey.ofObject? := by
      rw [List.mem_filterMap]
      rintro ⟨obj, mem, own⟩
      exact lastOf_eq_none.1 last obj mem own
    have gone : c.objects.get? k = none ∨ k ∈ c.objects.keys := by
      rw [Table.mem_keys, Table.contains]
      cases c.objects.get? k <;> simp
    rcases gone with absent | cached
    · simp [absent]
    · have vanished : k ∈ c.objects.keys.filter (· ∉ objs.filterMap ObjectKey.ofObject?) :=
        List.mem_filter.2 ⟨cached, decide_eq_true unlisted⟩
      rw [if_pos vanished]
      rfl

/-- Nothing drops a key that is listed. -/
theorem undropped_of_listed {objs : List α} {k : ObjectKey}
    (isListed : ∃ obj ∈ objs, ObjectKey.ofObject? obj = some k) :
    .drop k ∉ listEffects c objs := by
  rw [listEffects_eq place distinct]
  simp only [List.mem_append, List.mem_singleton, reduceCtorEq, or_false, not_or]
  constructor
  · intro mem
    simp only [dropEffects, List.mem_flatMap, List.mem_filter, List.mem_cons, reduceCtorEq,
      Effect.drop.injEq, List.not_mem_nil, or_false, decide_eq_true_eq] at mem
    obtain ⟨k', ⟨-, unlisted⟩, rfl⟩ := mem
    exact unlisted (List.mem_filterMap.2 isListed)
  · intro mem
    obtain ⟨obj, -, drops⟩ := List.mem_flatMap.1 mem
    unfold applyEffects Notification.effects at drops
    dsimp only at drops
    split at drops <;> simp at drops

end listEffects

end Reflector

end BucketProvisioning.Watch
