import BucketProvisioning.Proofs.Engine.Story

/-!
# The API server

The objects of a kind as the API server keeps them, with every version that it has ever kept.
Users create, edit and remove objects, but never write a status: whoever creates an object gives it
a new unique identifier and no status, and whoever edits one leaves both as they are.  The operator
writes statuses, each from a copy, and the server accepts a write only if the copy shows the
version that is stored.  A write may have been accepted although the operator hears of a failure,
or of nothing.

`Sound` is what follows from that for an operator that writes a status only to an object without
one: once a status has been written to an object it never changes, and no version without a status
comes after it.
-/

set_option autoImplicit false
set_option linter.unusedSectionVars false

namespace BucketProvisioning.Engine

open BucketProvisioning BucketProvisioning.Reconcile
open BucketProvisioning.Resource (Object)

variable {α ω : Type} [Object α] [Managed α]

/-- The version of an object. -/
def version? (obj : α) : Option String := (Object.metadata obj).resourceVersion

/-- The objects of a kind at the API server. -/
structure ApiServer (α : Type) where
  /-- The objects. -/
  stored : Store α := {}
  /-- Every version that was ever stored, the latest first. -/
  past : List α := []

namespace ApiServer

/-- The server after it has stored an object. -/
def put (s : ApiServer α) (k : ObjectKey) (obj : α) : ApiServer α :=
  ⟨s.stored.insert k obj, obj :: s.past⟩

/-- No object of the same key ever had this version. -/
def Fresh (s : ApiServer α) (k : ObjectKey) (obj : α) : Prop :=
  ObjectKey.ofObject? obj = some k ∧
    ∀ v ∈ s.past, ObjectKey.ofObject? v = some k → version? v ≠ version? obj

/-- What users do at the server. -/
inductive Changes (s : ApiServer α) : ApiServer α → Prop
  /-- An object is created. -/
  | created (k : ObjectKey) (obj : α) (absent : s.stored.get? k = none) (fresh : s.Fresh k obj)
      (identified : (Object.uid? obj).isSome) (new : ∀ v ∈ s.past, Object.uid? v ≠ Object.uid? obj)
      (blank : Managed.status? obj = none) : Changes s (s.put k obj)
  /-- An object is edited. -/
  | edited (k : ObjectKey) (old obj : α) (there : s.stored.get? k = some old)
      (fresh : s.Fresh k obj) (same : Object.uid? obj = Object.uid? old)
      (kept : Managed.status? obj = Managed.status? old) : Changes s (s.put k obj)
  /-- An object is removed. -/
  | removed (k : ObjectKey) : Changes s { s with stored := s.stored.erase k }

/-- The server accepts the write of a status from a copy and stores an object. -/
structure Accepts (s : ApiServer α) (copy : α) (status : Managed.Status α) (k : ObjectKey)
    (obj : α) : Prop where
  /-- The copy is one of the stored object and shows its version. -/
  current : ObjectKey.ofObject? copy = some k ∧ ∃ old, s.stored.get? k = some old ∧
    version? old = version? copy ∧ Object.uid? old = Object.uid? copy
  /-- What is stored has a version of its own. -/
  fresh : s.Fresh k obj
  /-- It is the same object. -/
  same : Object.uid? obj = Object.uid? copy ∧ (Object.uid? obj).isSome
  /-- It has the new status. -/
  written : Managed.status? obj = some status

/-- A status is written from a copy: the write is refused, or it is accepted and told of or not. -/
def Writes (s : ApiServer α) (copy : α) (status : Managed.Status α) (told : Option α)
    (s' : ApiServer α) : Prop :=
  (s' = s ∧ told = none) ∨
    ∃ k obj, s.Accepts copy status k obj ∧ s' = s.put k obj ∧ (told = none ∨ told = some obj)

/-- A call is answered; only status writes concern the server's objects. -/
def Answers (s : ApiServer α) (c : Call) (reply : Option (Except Failure c.Result))
    (s' : ApiServer α) : Prop :=
  match Managed.written? c with
  | some (copy, status) => s.Writes copy status (reply.bind (Managed.confirmed? c)) s'
  | none => s' = s

/-- What holds of a server as long as a status is written only to objects without one. -/
structure Sound (s : ApiServer α) : Prop where
  /-- What is stored is a version of its key. -/
  stored : ∀ k obj, s.stored.get? k = some obj → obj ∈ s.past ∧ ObjectKey.ofObject? obj = some k
  /-- A version of a key is one object. -/
  versions : ∀ v ∈ s.past, ∀ v' ∈ s.past, ObjectKey.ofObject? v = ObjectKey.ofObject? v' →
    version? v = version? v' → v = v'
  /-- A unique identifier belongs to one key. -/
  keys : ∀ v ∈ s.past, ∀ v' ∈ s.past, Object.uid? v = Object.uid? v' →
    ObjectKey.ofObject? v = ObjectKey.ofObject? v'
  /-- Every object has a unique identifier. -/
  identified : ∀ v ∈ s.past, (Object.uid? v).isSome
  /-- An object has a status only once everything has been built for it. -/
  blank : ∀ v ∈ s.past, Managed.status? v = none ∨ isBuilt v = true
  /-- Once written, the status of an object never changes. -/
  statuses : ∀ v ∈ s.past, ∀ v' ∈ s.past, Object.uid? v = Object.uid? v' → isBuilt v = true →
    isBuilt v' = true → Managed.status? v = Managed.status? v'
  /-- Once written, the status of an object is stored. -/
  latest : ∀ v ∈ s.past, isBuilt v = true → ∀ k obj, s.stored.get? k = some obj →
    Object.uid? obj = Object.uid? v → isBuilt obj = true

namespace Sound

variable {s : ApiServer α}

/-- A server that has stored nothing is sound. -/
theorem empty : ({} : ApiServer α).Sound where
  stored _ _ is := nomatch is
  versions _ mem := absurd mem List.not_mem_nil
  keys _ mem := absurd mem List.not_mem_nil
  identified _ mem := absurd mem List.not_mem_nil
  blank _ mem := absurd mem List.not_mem_nil
  statuses _ mem := absurd mem List.not_mem_nil
  latest _ mem := absurd mem List.not_mem_nil

/-- An object that fits to the versions before it may be stored. -/
theorem put (h : s.Sound) {k : ObjectKey} {obj : α} (fresh : s.Fresh k obj)
    (identified : (Object.uid? obj).isSome)
    (keys : ∀ v ∈ s.past, Object.uid? v = Object.uid? obj → ObjectKey.ofObject? v = some k)
    (blank : Managed.status? obj = none ∨ isBuilt obj = true)
    (statuses : ∀ v ∈ s.past, Object.uid? v = Object.uid? obj → isBuilt v = true →
      Managed.status? v = Managed.status? obj) :
    (s.put k obj).Sound where
  stored k' o is := by
    replace is : (s.stored.insert k obj).get? k' = some o := is
    rw [Table.get?_insert] at is
    split at is
    · rename_i here
      rw [← Option.some.inj is, here]
      exact ⟨List.mem_cons_self, fresh.1⟩
    · exact (h.stored k' o is).imp_left (List.mem_cons_of_mem _)
  versions v mem v' mem' sameKey sameVersion := by
    rcases List.mem_cons.1 mem with rfl | earlier <;> rcases List.mem_cons.1 mem' with rfl | earlier'
    · rfl
    · exact absurd sameVersion.symm (fresh.2 v' earlier' (sameKey.symm.trans fresh.1))
    · exact absurd sameVersion (fresh.2 v earlier (sameKey.trans fresh.1))
    · exact h.versions v earlier v' earlier' sameKey sameVersion
  keys v mem v' mem' same := by
    rcases List.mem_cons.1 mem with rfl | earlier <;> rcases List.mem_cons.1 mem' with rfl | earlier'
    · rfl
    · exact fresh.1.trans (keys v' earlier' same.symm).symm
    · exact (keys v earlier same).trans fresh.1.symm
    · exact h.keys v earlier v' earlier' same
  identified := List.forall_mem_cons.2 ⟨identified, h.identified⟩
  blank := List.forall_mem_cons.2 ⟨blank, h.blank⟩
  statuses v mem v' mem' same is is' := by
    rcases List.mem_cons.1 mem with rfl | earlier <;> rcases List.mem_cons.1 mem' with rfl | earlier'
    · rfl
    · exact (statuses v' earlier' same.symm is').symm
    · exact statuses v earlier same is
    · exact h.statuses v earlier v' earlier' same is is'
  latest v mem is k' o there same := by
    replace there : (s.stored.insert k obj).get? k' = some o := there
    rw [Table.get?_insert] at there
    rcases List.mem_cons.1 mem with rfl | earlier <;> split at there
    · rw [← Option.some.inj there]
      exact is
    · -- another key cannot hold an object of the same identifier
      rename_i other
      obtain ⟨past, place⟩ := h.stored k' o there
      exact absurd (Option.some.inj (place.symm.trans (keys o past same))) other
    · -- a version with a status leaves none without one behind it
      obtain rfl := Option.some.inj there
      exact (isBuilt_congr (statuses v earlier same.symm is)).symm.trans is
    · exact h.latest v earlier is k' o there same

/-- Whatever changes in a sound server leaves it sound. -/
theorem changes (h : s.Sound) {s' : ApiServer α} (changes : s.Changes s') : s'.Sound := by
  cases changes with
  | created k obj absent fresh identified new blank =>
    exact h.put fresh identified (fun v mem same => absurd same (new v mem)) (Or.inl blank)
      fun v mem same => absurd same (new v mem)
  | edited k old obj there fresh same kept =>
    obtain ⟨past, place⟩ := h.stored k old there
    refine h.put fresh (same ▸ h.identified old past) ?_ ?_ ?_
    · intro v mem same'
      exact (h.keys v mem old past (same'.trans same)).trans place
    · rw [isBuilt_congr kept, kept]
      exact h.blank old past
    · intro v mem same' built
      have current := h.latest v mem built k old there (same.symm.trans same'.symm)
      exact (h.statuses v mem old past (same'.trans same) built current).trans kept.symm
  | removed k =>
    have there : ∀ {k' : ObjectKey} {obj : α}, (s.stored.erase k).get? k' = some obj →
        s.stored.get? k' = some obj := by
      intro k' obj is
      rw [Table.get?_erase] at is
      split at is
      · simp at is
      · exact is
    exact ⟨fun k' obj is => h.stored k' obj (there is), h.versions, h.keys, h.identified, h.blank,
      h.statuses, fun v mem is k' obj there' => h.latest v mem is k' obj (there there')⟩

/-- An accepted write from a copy of the past is one to the object that the copy shows. -/
theorem eq_of_accepts (h : s.Sound) {copy obj : α} {status : Managed.Status α} {k : ObjectKey}
    (known : copy ∈ s.past) (accepts : s.Accepts copy status k obj) :
    s.stored.get? k = some copy := by
  obtain ⟨place, old, there, sameVersion, -⟩ := accepts.current
  obtain ⟨past, place'⟩ := h.stored k old there
  rw [there, h.versions old past copy known (place'.trans place.symm) sameVersion]

/-- A status may be written to an object without one. -/
theorem accepts (h : s.Sound) {copy obj : α} {status : Managed.Status α} {k : ObjectKey}
    (known : copy ∈ s.past) (unbuilt : isBuilt copy = false)
    (built : Managed.built status = true) (accepts : s.Accepts copy status k obj) :
    (s.put k obj).Sound := by
  have there := h.eq_of_accepts known accepts
  obtain ⟨same, identified⟩ := accepts.same
  obtain ⟨-, place⟩ := h.stored k copy there
  refine h.put accepts.fresh identified ?_ (Or.inr (isBuilt_of_status accepts.written built)) ?_
  · intro v mem same'
    exact (h.keys v mem copy known (same'.trans same)).trans place
  · -- the object had no status yet
    intro v mem same' is
    have current := h.latest v mem is k copy there (same.symm.trans same'.symm)
    rw [unbuilt] at current
    simp at current

end Sound

/-- Every version that was ever stored is remembered. -/
theorem past_put (s : ApiServer α) (k : ObjectKey) (obj : α) : s.past ⊆ (s.put k obj).past :=
  List.subset_cons_self obj s.past

/-- A change forgets no version that was stored. -/
theorem Changes.past {s s' : ApiServer α} (h : s.Changes s') : s.past ⊆ s'.past := by
  cases h <;> first | exact s.past_put _ _ | exact List.Subset.refl _

/-- A call leaves the objects as they are and tells of none, or it is a status write that is
accepted and tells of nothing but what was stored. -/
theorem Answers.cases {s s' : ApiServer α} {c : Call} {reply : Option (Except Failure c.Result)}
    (h : s.Answers c reply s') :
    (s' = s ∧ reply.bind (Managed.confirmed? (α := α) c) = none) ∨
      ∃ copy status k obj, Managed.written? c = some (copy, status) ∧
        s.Accepts copy status k obj ∧ s' = s.put k obj ∧
        ∀ told, reply.bind (Managed.confirmed? c) = some told → told = obj := by
  unfold Answers at h
  split at h
  · rename_i copy status written
    rcases h with ⟨rfl, silent⟩ | ⟨k, obj, accepts, rfl, silent | told⟩
    · exact Or.inl ⟨rfl, silent⟩
    · refine Or.inr ⟨copy, status, k, obj, written, accepts, rfl, fun told is => ?_⟩
      rw [silent] at is
      simp at is
    · refine Or.inr ⟨copy, status, k, obj, written, accepts, rfl, fun told' is => ?_⟩
      exact Option.some.inj (is.symm.trans told)
  · rename_i unwritten
    refine Or.inl ⟨h, ?_⟩
    cases told : reply.bind (Managed.confirmed? (α := α) c) with
    | none => rfl
    | some obj =>
      obtain ⟨r, -, confirmed⟩ := Option.bind_eq_some_iff.1 told
      have written := Managed.written_of_confirmed c r obj confirmed
      simp [unwritten] at written

/-- A call forgets no version that was stored, whatever becomes of it. -/
theorem Answers.past {s s' : ApiServer α} {c : Call} {reply : Option (Except Failure c.Result)}
    (h : s.Answers c reply s') : s.past ⊆ s'.past := by
  rcases h.cases with ⟨rfl, -⟩ | ⟨_, _, k, obj, -, -, rfl, -⟩
  · exact List.Subset.refl _
  · exact s.past_put k obj

/-- An object that a call tells of is the one that was stored. -/
theorem Answers.told {s s' : ApiServer α} {c : Call} {reply : Except Failure c.Result} {obj : α}
    (h : s.Answers c (some reply) s') (told : Managed.confirmed? c reply = some obj) :
    ∃ copy status k, Managed.written? c = some (copy, status) ∧ s.Accepts copy status k obj ∧
      s' = s.put k obj := by
  rcases h.cases with ⟨-, silent⟩ | ⟨copy, status, k, stored, written, accepts, same, only⟩
  · exact absurd (silent.symm.trans told) (by simp)
  · obtain rfl := only obj told
    exact ⟨copy, status, k, written, accepts, same⟩

end ApiServer

/-- A world outside whose API server is seen through `server`. -/
structure Outside.Hosts (O : Outside α ω) (server : ω → ApiServer α) : Prop where
  /-- Calls are answered as the server does. -/
  answers : ∀ {o c reply o'}, O.answers o c reply o' → (server o).Answers c reply (server o')
  /-- What changes by itself is what users do. -/
  drifts : ∀ {o o'}, O.drifts o o' → server o' = server o ∨ (server o).Changes (server o')
  /-- The watch reports versions that were stored. -/
  shows : ∀ {o obj}, O.shows o obj → obj ∈ (server o).past

/-- A world outside that is an API server; calls other than status writes may give anything. -/
def apiServer (α : Type) [Object α] [Managed α] : Outside α (ApiServer α) where
  shows s obj := obj ∈ s.past ∧ (Object.uid? obj).isSome
  answers s c reply s' := s.Answers c reply s'
  drifts s s' := s.Changes s'
  identified shown := shown.2
  lawful answered := by
    intro obj copy status told written
    obtain ⟨copy', status', k, written', accepts, -⟩ := ApiServer.Answers.told answered told
    obtain ⟨rfl, rfl⟩ := Prod.mk.inj (Option.some.inj (written.symm.trans written'))
    exact ⟨accepts.same.1, accepts.fresh.1.trans accepts.current.1.symm, accepts.written⟩
  shows_confirmed answered told := by
    obtain ⟨copy, status, k, -, accepts, rfl⟩ := ApiServer.Answers.told answered told
    exact ⟨List.mem_cons_self, accepts.same.2⟩
  shows_answers answered shown := shown.imp_left fun mem => answered.past mem
  shows_drifts drifts shown := shown.imp_left fun mem => drifts.past mem

/-- An API server on its own hosts itself. -/
theorem apiServer_hosts : (apiServer α).Hosts id where
  answers answered := answered
  drifts := Or.inr
  shows shown := shown.1

/-- A run is one over the API server. -/
theorem Run.hosted {O : Outside α ω} {server : ω → ApiServer α} (hosts : O.Hosts server)
    {reconcile : String → Program α (Except Failure Unit)} {count : Nat} {first d : Desk α}
    {trace : Trace α} {start o : ω} (run : Run O reconcile count first start d trace o) :
    Run (apiServer α) reconcile count first (server start) d trace (server o) :=
  run.seen server (fun shown => ⟨hosts.shows shown, O.identified shown⟩) hosts.answers hosts.drifts

end BucketProvisioning.Engine
