import BucketProvisioning.Proofs.Engine.Course

/-!
# What is reported is what is cached

Whatever is cached was cached at first or has been reported since: an object of the list being
received waits in the reflector, and then among the consequences of the report.  So what holds of
every object that is reported holds of every cached object, at any time (`Desk.holds_of_course`).
Whatever is cached is cached under its own key (`Desk.InPlace`).
-/

set_option autoImplicit false
set_option linter.unusedSectionVars false

namespace BucketProvisioning.Engine

open BucketProvisioning BucketProvisioning.Reconcile BucketProvisioning.Watch
open BucketProvisioning.Queue
open BucketProvisioning.Resource (Object)

variable {α : Type} [Object α]
variable {reconcile : String → Program α (Except Failure Unit)} {count : Nat}

/-! ## Reports -/

/-- Every object that is reported to be there satisfies `P`. -/
def Happening.Reports (P : α → Prop) : Happening α → Prop
  | .move (.receive (.apply obj)) => P obj
  | .move (.receive (.listed obj)) => P obj
  | .move (.notify (.added obj)) => P obj
  | .move (.notify (.modified obj)) => P obj
  | _ => True

/-- What is reported if less may be reported is reported if more may. -/
theorem Happening.Reports.mono {P Q : α → Prop} (weaker : ∀ obj, P obj → Q obj) {h : Happening α}
    (reports : h.Reports P) : h.Reports Q := by
  unfold Happening.Reports at reports ⊢
  split at reports <;> first | exact weaker _ reports | trivial

/-- Every object that is going to be put into the cache satisfies `P`. -/
def PutsOnly (P : α → Prop) (es : List (Effect α)) : Prop :=
  ∀ k obj, Effect.put k obj ∈ es → P obj

namespace PutsOnly

variable {P : α → Prop}

/-- Effects in a row cache only what they cache one by one. -/
theorem append {es es' : List (Effect α)} (h : PutsOnly P es) (h' : PutsOnly P es') :
    PutsOnly P (es ++ es') := by
  intro k obj mem
  rcases List.mem_append.1 mem with here | there
  · exact h k obj here
  · exact h' k obj there

/-- That an object is there caches that object only. -/
theorem there {obj : α} (holds : P obj) : PutsOnly P (Notification.modified obj).effects := by
  intro k other mem
  simp only [Notification.effects] at mem
  split at mem
  · obtain ⟨-, rfl⟩ : k = _ ∧ other = obj := by simpa using mem
    exact holds
  · simp at mem

/-- That an object is gone caches nothing. -/
theorem gone (what : Deleted α) : PutsOnly P (Notification.deleted what).effects := by
  intro k obj mem
  simp only [Notification.effects] at mem
  split at mem <;> simp at mem

/-- What vanishes from a list is dropped, so nothing is cached. -/
theorem vanishAll (listed ks : List ObjectKey) (cache : Cache α) :
    PutsOnly P (Reflector.vanishAll listed ks cache) := by
  induction ks generalizing cache with
  | nil => exact fun _ _ mem => absurd mem List.not_mem_nil
  | cons k ks ih =>
    refine append ?_ (ih _)
    unfold Reflector.vanishEffects
    split
    · exact fun _ _ mem => absurd mem List.not_mem_nil
    · exact gone _

/-- A list caches only what is listed. -/
theorem listEffects (cache : Cache α) {listed : List α} (holds : ∀ obj ∈ listed, P obj) :
    PutsOnly P (Reflector.listEffects cache listed) := by
  refine append (append (vanishAll _ _ cache) ?_) (fun k obj mem => by simp at mem)
  intro k obj mem
  obtain ⟨listedObj, isListed, put⟩ := List.mem_flatMap.1 mem
  exact there (holds listedObj isListed) k obj put

end PutsOnly

/-- Every object that is going to be put into the cache is put under its own key. -/
def PutsInPlace (es : List (Effect α)) : Prop :=
  ∀ k obj, Effect.put k obj ∈ es → ObjectKey.ofObject? obj = some k

namespace PutsInPlace

/-- Effects in a row cache objects in place if they do so one by one. -/
theorem append {es es' : List (Effect α)} (h : PutsInPlace es) (h' : PutsInPlace es') :
    PutsInPlace (es ++ es') := by
  intro k obj mem
  rcases List.mem_append.1 mem with here | there
  · exact h k obj here
  · exact h' k obj there

/-- Every notification caches its object under its own key. -/
theorem notification (n : Notification α) : PutsInPlace n.effects := by
  intro k obj mem
  cases n <;> simp only [Notification.effects] at mem <;> split at mem <;>
    simp only [List.mem_cons, Effect.put.injEq, reduceCtorEq, List.not_mem_nil, or_false] at mem
  all_goals
    rename_i is
    obtain ⟨rfl, rfl⟩ := mem
    exact is

/-- What vanishes from a list is dropped, so nothing is cached out of place. -/
theorem vanishAll (listed ks : List ObjectKey) (cache : Cache α) :
    PutsInPlace (Reflector.vanishAll listed ks cache) := by
  induction ks generalizing cache with
  | nil => exact fun _ _ mem => absurd mem List.not_mem_nil
  | cons k ks ih =>
    refine append ?_ (ih _)
    unfold Reflector.vanishEffects
    split
    · exact fun _ _ mem => absurd mem List.not_mem_nil
    · exact notification _

/-- Whatever the watch reports is cached in place. -/
theorem received (r : Reflector α) (cache : Cache α) (e : WatchEvent α) :
    PutsInPlace (r.effects cache e).1 := by
  have nothing : PutsInPlace ([] : List (Effect α)) := fun _ _ mem => absurd mem List.not_mem_nil
  cases e with
  | apply obj => exact notification (.modified obj)
  | delete obj => exact notification (.deleted (.object obj))
  | listBegin => exact nothing
  | listed obj => exact nothing
  | listEnd =>
    refine append (append (vanishAll _ _ cache) ?_) (fun k obj mem => by simp at mem)
    intro k obj mem
    obtain ⟨listed, -, put⟩ := List.mem_flatMap.1 mem
    exact notification (.modified listed) k obj put

end PutsInPlace

/-! ## The desk -/

/-- What is cached after a consequence of a report has been put there by it or was there before. -/
theorem cached_of_onCache {c : Cache α} {e : Effect α} {k : ObjectKey} {obj : α}
    (is : (e.onCache c).objects.get? k = some obj) :
    e = .put k obj ∨ c.objects.get? k = some obj := by
  cases e with
  | put k' new =>
    replace is : (c.objects.insert k' new).get? k = some obj := is
    rw [Table.get?_insert] at is
    split at is
    · rename_i same
      exact Or.inl (by rw [same, Option.some.inj is])
    · exact Or.inr is
  | drop k' =>
    replace is : (c.objects.erase k').get? k = some obj := is
    rw [Table.get?_erase] at is
    split at is
    · simp at is
    · exact Or.inr is
  | enqueue k' => exact Or.inr is
  | complete => exact Or.inr is

namespace Desk

/-- Every cached object is cached under its own key, and so is every object about to be cached. -/
structure InPlace (d : Desk α) : Prop where
  /-- Every cached object is. -/
  cached : ∀ k obj, d.stores.cache.objects.get? k = some obj → ObjectKey.ofObject? obj = some k
  /-- Every object about to be cached is going to be. -/
  routed : PutsInPlace d.routing

/-- No step caches an object out of place. -/
theorem InPlace.step {d d' : Desk α} (h : d.InPlace) {happening : Happening α}
    (s : Step reconcile count d happening d') : d'.InPlace := by
  cases s with
  | received e idle => exact ⟨h.cached, .received _ _ e⟩
  | notified n idle => exact ⟨h.cached, .notification n⟩
  | routed e rest due =>
    refine ⟨?_, ?_⟩
    · rw [stores_apply]
      intro k obj is
      rcases cached_of_onCache is with rfl | earlier
      · exact h.routed k obj (by simp [due])
      · exact h.cached k obj earlier
    · rw [routing_apply]
      exact fun k obj mem => h.routed k obj (by rw [due]; exact List.mem_cons_of_mem _ mem)
  | @accessed i reply key a next was =>
    refine ⟨?_, h.routed⟩
    show ∀ k obj, (d.stores.answer a).2.cache.objects.get? k = some obj → _
    rw [Stores.answer_cache]
    exact h.cached
  | arranged ks same => exact ⟨fun k => get?_of_arranged same k ▸ h.cached k, h.routed⟩
  | _ => exact ⟨h.cached, h.routed⟩

/-- Every object at a desk satisfies `P`, whether it is cached, listed or about to be cached. -/
structure Holds (P : α → Prop) (d : Desk α) : Prop where
  /-- Every cached object does. -/
  cached : ∀ k obj, d.stores.cache.objects.get? k = some obj → P obj
  /-- Every object of the list being received does. -/
  listed : ∀ obj ∈ d.reflector.listing.getD [], P obj
  /-- Every object about to be cached does. -/
  routed : PutsOnly P d.routing

namespace Holds

variable {P : α → Prop} {d d' : Desk α}

/-- What is said of all objects of a desk may be weakened. -/
theorem mono {P' : α → Prop} (h : d.Holds P) (weaker : ∀ obj, P obj → P' obj) : d.Holds P' where
  cached k obj is := weaker obj (h.cached k obj is)
  listed obj mem := weaker obj (h.listed obj mem)
  routed k obj mem := weaker obj (h.routed k obj mem)

/-- An event hands on only objects that it reports or that were listed before. -/
theorem received (h : d.Holds P) {e : WatchEvent α}
    (reports : Happening.Reports P (.move (.receive e))) :
    (∀ obj ∈ (d.reflector.effects d.stores.cache e).2.listing.getD [], P obj) ∧
      PutsOnly P (d.reflector.effects d.stores.cache e).1 := by
  have nothing : PutsOnly P [] := fun _ _ mem => absurd mem List.not_mem_nil
  cases e with
  | apply obj => exact ⟨h.listed, .there reports⟩
  | delete obj => exact ⟨h.listed, .gone _⟩
  | listBegin => exact ⟨by simp [Reflector.effects], nothing⟩
  | listed obj =>
    refine ⟨?_, nothing⟩
    intro other mem
    rcases List.mem_append.1 mem with earlier | new
    · exact h.listed other earlier
    · rw [List.mem_singleton.1 new]
      exact reports
  | listEnd => exact ⟨by simp [Reflector.effects], .listEffects _ h.listed⟩

/-- A notification hands on only the object that it reports. -/
theorem notified {n : Notification α} (reports : Happening.Reports P (.move (.notify n))) :
    PutsOnly P n.effects := by
  cases n with
  | added obj => exact PutsOnly.there reports
  | modified obj => exact .there reports
  | deleted what => exact .gone what

/-- An effect that is due caches only what has been said of all that is routed. -/
theorem onCache (h : d.Holds P) {e : Effect α} {rest : List (Effect α)}
    (due : d.routing = e :: rest) (k : ObjectKey) (obj : α)
    (is : (e.onCache d.stores.cache).objects.get? k = some obj) : P obj := by
  rcases cached_of_onCache is with rfl | earlier
  · exact h.routed k obj (by simp [due])
  · exact h.cached k obj earlier

/-- If it is so of whatever is reported, it is so of all objects of a desk after every step. -/
theorem step (h : d.Holds P) {happening : Happening α} (reports : happening.Reports P)
    (s : Step reconcile count d happening d') : d'.Holds P := by
  cases s with
  | received e idle => exact ⟨h.cached, (h.received reports).1, (h.received reports).2⟩
  | notified n idle => exact ⟨h.cached, h.listed, notified reports⟩
  | routed e rest due =>
    refine ⟨?_, by simpa using h.listed, ?_⟩
    · rw [stores_apply]
      exact h.onCache due
    · rw [routing_apply]
      exact fun k obj mem => h.routed k obj (by rw [due]; exact List.mem_cons_of_mem _ mem)
  | @accessed i reply key a next was =>
    refine ⟨?_, h.listed, h.routed⟩
    show ∀ k obj, (d.stores.answer a).2.cache.objects.get? k = some obj → P obj
    rw [Stores.answer_cache]
    exact h.cached
  | arranged ks same => exact ⟨fun k => get?_of_arranged same k ▸ h.cached k, h.listed, h.routed⟩
  | _ => exact ⟨h.cached, h.listed, h.routed⟩

end Holds

/-- What holds of every object that is cached at first and of every object that is reported holds
of every cached object. -/
theorem holds_of_course {P : α → Prop} {policy : RetryPolicy} {stores : Stores α} {d : Desk α}
    {trace : Trace α} (course : Course reconcile count (opening policy stores) d trace)
    (cached : ∀ k obj, stores.cache.objects.get? k = some obj → P obj)
    (reports : ∀ e ∈ trace, e.2.Reports P) : d.Holds P := by
  induction course with
  | start => exact ⟨cached, by simp [opening], fun _ _ mem => absurd mem List.not_mem_nil⟩
  | next course happens ih =>
    rw [List.forall_mem_cons] at reports
    exact (ih reports.2).step reports.1 (step_of_happen happens)

end Desk

end BucketProvisioning.Engine
