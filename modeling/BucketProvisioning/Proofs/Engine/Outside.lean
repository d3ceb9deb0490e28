import BucketProvisioning.Proofs.Engine.Teardown
import BucketProvisioning.Proofs.Reconcile.Conduct

/-!
# A desk and the world outside

A `Course` leaves it open what the calls of a desk give.  An `Outside` says what may come of them:
it has a state, which changes with the calls and may change by itself, and it says which objects
the watch may report in a state.  A `Run` is a desk together with a world outside, from the start
of the process on, with any happenings, and with the desk shut down at any time.

The `Note`s of a run are what is known of it in the end: which keys were looked up, what was cached
and on record for them at that time, which calls were made for them, and how their reconciles
ended.  `attemptAt` reads off the notes what is known of the latest attempt at a key.
-/

set_option autoImplicit false
set_option linter.unusedSectionVars false

namespace BucketProvisioning.Engine

open BucketProvisioning BucketProvisioning.Reconcile BucketProvisioning.Watch
open BucketProvisioning.Queue
open BucketProvisioning.Resource (Object)

variable {α ω : Type} [Object α]

/-! ## Notes -/

/-- Something that is known of a run, about a key. -/
inductive Note (α : Type) where
  /-- A worker looks the key up in a complete cache; this is what is cached and what is on record at
  that time. -/
  | lookedUp (k : ObjectKey) (found record : Option α)
  /-- A call is made for the key while this is on record. -/
  | called (k : ObjectKey) (made : Called) (record : Option α)
  /-- A reconcile of the key ends. -/
  | finished (k : ObjectKey) (outcome : Except Failure Unit)

/-- What is known of the latest attempt at a key, of which this is on record. -/
def attemptAt (k : ObjectKey) (record : Option α) : List (Note α) → Attempt α
  | [] => ⟨none, none, record, []⟩
  | .lookedUp k' found initial :: notes =>
    if k' = k then ⟨found, initial, record, []⟩ else attemptAt k record notes
  | .called k' made _ :: notes =>
    let a := attemptAt k record notes
    if k' = k then { a with calls := made :: a.calls } else a
  | .finished _ _ :: notes => attemptAt k record notes

section attempt

variable {k : ObjectKey} {record : Option α} {notes : List (Note α)}

/-- What is on record is the record of the attempt. -/
@[simp] theorem record_attemptAt : (attemptAt k record notes).record = record := by
  induction notes with
  | nil => rfl
  | cons note notes ih =>
    cases note <;> simp only [attemptAt] <;> first | exact ih | (split <;> first | rfl | exact ih)

/-- Only the record of an attempt depends on what is on record. -/
theorem attemptAt_record (record' : Option α) :
    attemptAt k record' notes = { attemptAt k record notes with record := record' } := by
  induction notes with
  | nil => rfl
  | cons note notes ih =>
    cases note with
    | lookedUp k' found initial => simp only [attemptAt]; split <;> first | rfl | exact ih
    | called k' made initial => simp only [attemptAt, ih]; split <;> rfl
    | finished k' outcome => exact ih

/-- What an attempt found does not depend on what is on record. -/
theorem found_attemptAt_record (record' : Option α) :
    (attemptAt k record' notes).found = (attemptAt k record notes).found := by
  rw [attemptAt_record record']

/-- Nor does what it has called. -/
theorem calls_attemptAt_record (record' : Option α) :
    (attemptAt k record' notes).calls = (attemptAt k record notes).calls := by
  rw [attemptAt_record record']

/-- A look at the key begins a new attempt. -/
theorem attemptAt_lookedUp_self (found initial : Option α) :
    attemptAt k record (.lookedUp k found initial :: notes) = ⟨found, initial, record, []⟩ :=
  if_pos rfl

/-- A call for the key is the latest one of its attempt. -/
theorem attemptAt_called_self (made : Called) (on : Option α) :
    attemptAt k record (.called k made on :: notes) =
      { attemptAt k record notes with calls := made :: (attemptAt k record notes).calls } :=
  if_pos rfl

/-- The key that a note is about. -/
def Note.key : Note α → ObjectKey
  | .lookedUp k _ _ => k
  | .called k _ _ => k
  | .finished k _ => k

/-- A note about another key says nothing of an attempt. -/
theorem attemptAt_of_other {note : Note α} (other : note.key ≠ k) :
    attemptAt k record (note :: notes) = attemptAt k record notes := by
  cases note <;> first | rfl | exact if_neg other

/-- A note is a look at a key, or it is none. -/
theorem Note.look_or_other (note : Note α) (k : ObjectKey) :
    (∃ found initial, note = .lookedUp k found initial) ∨
      ∀ found initial, note ≠ .lookedUp k found initial := by
  by_cases look : ∃ found initial, note = .lookedUp k found initial
  · exact Or.inl look
  · exact Or.inr fun found initial same => look ⟨found, initial, same⟩

/-- A note that is no look at the key leaves it open what the latest attempt found. -/
theorem found_attemptAt_cons {note : Note α} (other : ∀ found initial, note ≠ .lookedUp k found initial) :
    (attemptAt k record (note :: notes)).found = (attemptAt k record notes).found ∧
      (attemptAt k record (note :: notes)).initial = (attemptAt k record notes).initial := by
  cases note with
  | lookedUp k' found initial =>
    have apart : (Note.lookedUp k' found initial).key ≠ k := by
      rintro rfl
      exact other found initial rfl
    rw [attemptAt_of_other apart]
    exact ⟨rfl, rfl⟩
  | called k' made on =>
    simp only [attemptAt]
    split <;> exact ⟨rfl, rfl⟩
  | finished k' outcome => exact ⟨rfl, rfl⟩

/-- A call of the latest attempt is the one just noted or an earlier one. -/
theorem mem_calls_attemptAt_cons {note : Note α} {made : Called}
    (mem : made ∈ (attemptAt k record (note :: notes)).calls) :
    (∃ on, note = .called k made on) ∨ made ∈ (attemptAt k record notes).calls := by
  cases note with
  | lookedUp k' found initial =>
    simp only [attemptAt] at mem
    split at mem
    · exact absurd mem List.not_mem_nil
    · exact Or.inr mem
  | called k' made' on =>
    simp only [attemptAt] at mem
    split at mem
    · rename_i same
      rcases List.mem_cons.1 mem with rfl | earlier
      · exact Or.inl ⟨on, by rw [same]⟩
      · exact Or.inr earlier
    · exact Or.inr mem
  | finished k' outcome => exact Or.inr mem

/-- Whatever is noted apart from looks at the key leaves open what the latest attempt found. -/
theorem found_attemptAt_append {later : List (Note α)}
    (none : ∀ found initial, .lookedUp k found initial ∉ later) :
    (attemptAt k record (later ++ notes)).found = (attemptAt k record notes).found ∧
      (attemptAt k record (later ++ notes)).initial = (attemptAt k record notes).initial := by
  induction later with
  | nil => exact ⟨rfl, rfl⟩
  | cons note later ih =>
    have other : ∀ f i, note ≠ .lookedUp k f i := fun f i same => none f i (by simp [same])
    have rest := ih fun f i mem => none f i (List.mem_cons_of_mem _ mem)
    rw [List.cons_append, (found_attemptAt_cons other).1, (found_attemptAt_cons other).2]
    exact rest

/-- A call of the latest attempt was made after the key was last looked up. -/
theorem split_of_mem_calls {made : Called} (mem : made ∈ (attemptAt k record notes).calls) :
    ∃ later on earlier, notes = later ++ .called k made on :: earlier ∧
      ∀ found initial, .lookedUp k found initial ∉ later := by
  induction notes with
  | nil => exact absurd mem List.not_mem_nil
  | cons note notes ih =>
    rcases note.look_or_other k with ⟨found, initial, rfl⟩ | other
    · rw [attemptAt_lookedUp_self] at mem
      exact absurd mem List.not_mem_nil
    · rcases mem_calls_attemptAt_cons mem with ⟨on, rfl⟩ | before
      · exact ⟨[], on, notes, rfl, fun _ _ mem => absurd mem List.not_mem_nil⟩
      · obtain ⟨later, on, earlier, rfl, none⟩ := ih before
        refine ⟨note :: later, on, earlier, rfl, fun f i mem => ?_⟩
        rcases List.mem_cons.1 mem with same | there
        · exact other f i same.symm
        · exact none f i there

/-- The calls of the latest attempt have been noted since any look at the key. -/
theorem mem_of_mem_calls {later : List (Note α)} {found initial : Option α} {made : Called}
    (mem : made ∈ (attemptAt k record (later ++ .lookedUp k found initial :: notes)).calls) :
    ∃ on, .called k made on ∈ later := by
  induction later with
  | nil =>
    rw [List.nil_append, attemptAt_lookedUp_self] at mem
    exact absurd mem List.not_mem_nil
  | cons note later ih =>
    rcases mem_calls_attemptAt_cons mem with ⟨on, rfl⟩ | before
    · exact ⟨on, List.mem_cons_self⟩
    · exact (ih before).imp fun _ => List.mem_cons_of_mem _

/-- A note that is no look at the key takes no call away from the latest attempt. -/
theorem mem_calls_attemptAt_of_mem {note : Note α} {made : Called}
    (other : ∀ found initial, note ≠ .lookedUp k found initial)
    (mem : made ∈ (attemptAt k record notes).calls) :
    made ∈ (attemptAt k record (note :: notes)).calls := by
  cases note with
  | lookedUp k' found initial =>
    have apart : (Note.lookedUp k' found initial).key ≠ k := by
      rintro rfl
      exact other found initial rfl
    rw [attemptAt_of_other apart]
    exact mem
  | called k' made' on =>
    simp only [attemptAt]
    split
    · exact List.mem_cons_of_mem _ mem
    · exact mem
  | finished k' outcome => exact mem

end attempt

namespace Desk

/-- The call that is made when something happens, and the text for which it is made. -/
def made? (d : Desk α) : Happening α → Option (String × Called)
  | .move (.work i reply) =>
    match d.worker? i with
    | some (.busy text (.ask (.call c) _)) => some (text, ⟨c, some (reply c)⟩)
    | _ => none
  | .lose i =>
    match d.worker? i with
    | some (.busy text (.ask (.call c) _)) => some (text, ⟨c, none⟩)
    | _ => none
  | _ => none

/-- What becomes known when something happens. -/
def note? (d : Desk α) (h : Happening α) : Option (Note α) :=
  match d.made? h, h with
  | some (text, made), _ => (ObjectKey.parse text).toOption.map fun k => .called k made (d.record? k)
  | none, .move (.work i _) =>
    match d.worker? i with
    | some (.busy _ (.ask (.store (.lookup k)) _)) =>
      (d.stores.cache.lookup k).toOption.map fun found => .lookedUp k found (d.record? k)
    | some (.busy text (.done outcome)) =>
      (ObjectKey.parse text).toOption.map fun k => .finished k outcome
    | _ => none
  | none, _ => none

/-- Nothing that happens beside reports and workers is a call. -/
theorem made?_of_aside {d : Desk α} {h : Happening α} (aside : h.isAside = true) :
    d.made? h = none := by
  cases h with
  | move m => cases m <;> first | rfl | simp [Happening.isAside] at aside
  | _ => first | rfl | simp [Happening.isAside] at aside

/-- A worker that holds no key makes no call. -/
theorem made?_of_free {d : Desk α} {i : Nat} {reply : Replies} {w : Worker α}
    (was : d.worker? i = some w) (free : w.key? = none) :
    d.made? (.move (.work i reply)) = none := by
  cases w <;> simp [made?, was, Worker.key?] at free ⊢

/-- Without a call there is something to note only if a worker looks a key up or concludes. -/
theorem note?_of_free {d : Desk α} {i : Nat} {reply : Replies} {w : Worker α}
    (was : d.worker? i = some w) (free : w.key? = none) :
    d.note? (.move (.work i reply)) = none := by
  cases w <;> simp [note?, made?, was, Worker.key?] at free ⊢

/-- What concerns neither the cache nor a look leaves nothing to note. -/
theorem note?_of_aside {d : Desk α} {h : Happening α} (aside : h.isAside = true) :
    d.note? h = none := by
  cases h with
  | move m => cases m <;> first | rfl | simp [Happening.isAside] at aside
  | _ => first | rfl | simp [Happening.isAside] at aside

/-- A call is noted with the key for which it is made and with what is on record. -/
theorem made_of_note {d : Desk α} {h : Happening α} {k : ObjectKey} {made : Called} {on : Option α}
    (is : d.note? h = some (.called k made on)) :
    ∃ text, d.made? h = some (text, made) ∧ ObjectKey.parse text = .ok k ∧ d.record? k = on := by
  unfold note? at is
  cases same : d.made? h with
  | some both =>
    obtain ⟨text, made'⟩ := both
    cases read : ObjectKey.parse text with
    | error e => simp [same, read, Except.toOption] at is
    | ok k' =>
      simp only [same, read, Except.toOption, Option.map_some, Option.some.injEq,
        Note.called.injEq] at is
      obtain ⟨rfl, rfl, kept⟩ := is
      exact ⟨text, rfl, read, kept⟩
  | none =>
    rw [same] at is
    split at is
    · exact absurd ‹_› (Option.some_ne_none _).symm
    · split at is
      · obtain ⟨_, -, other⟩ := Option.map_eq_some_iff.1 is
        cases other
      · obtain ⟨_, -, other⟩ := Option.map_eq_some_iff.1 is
        cases other
      · simp at is
    · simp at is

/-- The end of a reconcile is noted with the key on which the worker has been busy. -/
theorem done_of_note {d : Desk α} {h : Happening α} {k : ObjectKey} {outcome : Except Failure Unit}
    (is : d.note? h = some (.finished k outcome)) :
    ∃ i reply text, h = .move (.work i reply) ∧ d.worker? i = some (.busy text (.done outcome)) ∧
      ObjectKey.parse text = .ok k := by
  unfold note? at is
  split at is
  · obtain ⟨_, -, other⟩ := Option.map_eq_some_iff.1 is
    cases other
  · split at is
    · obtain ⟨_, -, other⟩ := Option.map_eq_some_iff.1 is
      cases other
    · rename_i i reply _ _ text outcome' was
      obtain ⟨k', read, same⟩ := Option.map_eq_some_iff.1 is
      obtain ⟨rfl, rfl⟩ := Note.finished.inj same
      refine ⟨i, reply, text, rfl, was, ?_⟩
      cases read' : ObjectKey.parse text with
      | error e => simp [read', Except.toOption] at read
      | ok k'' => simpa [read', Except.toOption] using read
    · simp at is
  · simp at is

end Desk

/-- What is known after a trace, the latest first. -/
def Trace.notes (trace : Trace α) : List (Note α) := trace.filterMap fun e => e.1.note? e.2

/-- The latest note comes in front of the others. -/
theorem notes_cons (d : Desk α) (h : Happening α) (trace : Trace α) :
    Trace.notes ((d, h) :: trace) = (d.note? h).toList ++ trace.notes := by
  unfold Trace.notes
  rw [List.filterMap_cons]
  cases d.note? h <;> rfl

/-- Every call that is noted was made for a key. -/
theorem made_of_noted {trace : Trace α} {k : ObjectKey} {made : Called} {on : Option α}
    (mem : .called k made on ∈ trace.notes) :
    ∃ later d h earlier text, trace = later ++ (d, h) :: earlier ∧
      d.made? h = some (text, made) ∧ ObjectKey.parse text = .ok k ∧ d.record? k = on := by
  obtain ⟨⟨d, h⟩, inside, is⟩ := List.mem_filterMap.1 mem
  obtain ⟨later, earlier, rfl⟩ := List.append_of_mem inside
  obtain ⟨text, same, read, kept⟩ := Desk.made_of_note is
  exact ⟨later, d, h, earlier, text, rfl, same, read, kept⟩

/-! ## The world outside -/

variable [Managed α]

/-- What may come of the calls of a desk, and which objects may be reported to it. -/
structure Outside (α ω : Type) [Object α] [Managed α] where
  /-- The watch may report an object. -/
  shows : ω → α → Prop
  /-- A call may have a reply and a next state; there is no reply if whoever made the call broke
  down. -/
  answers : ω → (c : Call) → Option (Except Failure c.Result) → ω → Prop
  /-- What may change without a call of the desk. -/
  drifts : ω → ω → Prop
  /-- Whatever is reported has a unique identifier. -/
  identified : ∀ {o obj}, shows o obj → (Object.uid? obj).isSome
  /-- A status write that succeeds replies with the object that was written. -/
  lawful : ∀ {o c reply o'}, answers o c (some reply) o' → Lawful α c reply
  /-- An object that a status write tells of may be reported. -/
  shows_confirmed : ∀ {o c reply o' obj}, answers o c (some reply) o' →
    Managed.confirmed? c reply = some obj → shows o' obj
  /-- What may be reported may still be reported after a call. -/
  shows_answers : ∀ {o c reply o' obj}, answers o c reply o' → shows o obj → shows o' obj
  /-- What may be reported may still be reported after a change. -/
  shows_drifts : ∀ {o o' obj}, drifts o o' → shows o obj → shows o' obj

/-- Something happens at a desk as the world outside allows: what is reported may be reported, and
the call that is made, if one is, is answered in one of the ways in which it may be answered. -/
def Outside.Explains (O : Outside α ω) (o : ω) (d : Desk α) (h : Happening α) (o' : ω) : Prop :=
  h.Reports (O.shows o) ∧
    match d.made? h with
    | some (_, made) => O.answers o made.call made.reply o'
    | none => o' = o

namespace Outside.Explains

variable {O : Outside α ω} {o o' : ω} {d : Desk α} {h : Happening α}

/-- Without a call nothing changes outside. -/
theorem same (explained : O.Explains o d h o') (silent : d.made? h = none) : o' = o := by
  have outcome := explained.2
  rw [silent] at outcome
  exact outcome

/-- A call is answered as the world outside may answer it. -/
theorem answered (explained : O.Explains o d h o') {text : String} {made : Called}
    (is : d.made? h = some (text, made)) : O.answers o made.call made.reply o' := by
  have outcome := explained.2
  rw [is] at outcome
  exact outcome

/-- What may be reported may still be reported afterwards. -/
theorem shows (explained : O.Explains o d h o') {obj : α} (shown : O.shows o obj) :
    O.shows o' obj := by
  cases is : d.made? h with
  | none => rwa [explained.same is]
  | some made => exact O.shows_answers (explained.answered is) shown

end Outside.Explains

/-- The desks and the worlds outside that can come of a start, with what happened at the desk in
between. -/
inductive Run (O : Outside α ω) (reconcile : String → Program α (Except Failure Unit))
    (count : Nat) (first : Desk α) (start : ω) : Desk α → Trace α → ω → Prop
  /-- Nothing has happened yet. -/
  | start : Run O reconcile count first start first [] start
  /-- Something happens at the desk. -/
  | happened {d d' : Desk α} {trace : Trace α} {o o' : ω} {h : Happening α}
      (run : Run O reconcile count first start d trace o)
      (happens : d.happen reconcile count h = some d') (explained : O.Explains o d h o') :
      Run O reconcile count first start d' ((d, h) :: trace) o'
  /-- Something changes outside. -/
  | drifted {d : Desk α} {trace : Trace α} {o o' : ω}
      (run : Run O reconcile count first start d trace o) (drifts : O.drifts o o') :
      Run O reconcile count first start d trace o'
  /-- The desk is shut down. -/
  | closed {d : Desk α} {trace : Trace α} {o : ω}
      (run : Run O reconcile count first start d trace o) :
      Run O reconcile count first start d.shutDown trace o

namespace Run

variable {O : Outside α ω} {reconcile : String → Program α (Except Failure Unit)} {count : Nat}
variable {policy : RetryPolicy} {first d : Desk α} {trace : Trace α} {start o : ω}

/-- Whatever happened did so in a run. -/
theorem before {d₁ : Desk α} {h : Happening α} {later earlier : Trace α}
    (run : Run O reconcile count first start d (later ++ (d₁, h) :: earlier) o) :
    ∃ o₁, Run O reconcile count first start d₁ earlier o₁ := by
  generalize all : later ++ (d₁, h) :: earlier = trace at run
  induction run generalizing later with
  | start => simp at all
  | @happened d _ trace o _ h run happens explained ih =>
    cases later with
    | nil =>
      obtain ⟨same, rfl⟩ := List.cons_eq_cons.1 all
      obtain ⟨rfl, -⟩ := Prod.mk.inj same
      exact ⟨o, run⟩
    | cons e later =>
      obtain ⟨-, rest⟩ := List.cons_eq_cons.1 all
      exact ih rest
  | drifted run drifts ih => exact ih all
  | closed run ih => exact ih all

/-- Whatever happened divides a run into what led to it and what came after it. -/
theorem split {d₁ : Desk α} {h : Happening α} {later earlier : Trace α}
    (run : Run O reconcile count first start d (later ++ (d₁, h) :: earlier) o) :
    ∃ o₁ d₂ o₂, Run O reconcile count first start d₁ earlier o₁ ∧
      d₁.happen reconcile count h = some d₂ ∧ O.Explains o₁ d₁ h o₂ ∧
      Run O reconcile count d₂ o₂ d later o := by
  generalize all : later ++ (d₁, h) :: earlier = trace at run
  induction run generalizing later with
  | start => simp at all
  | @happened d d' trace o o' h' run happens explained ih =>
    cases later with
    | nil =>
      obtain ⟨same, rfl⟩ := List.cons_eq_cons.1 all
      obtain ⟨rfl, rfl⟩ := Prod.mk.inj same
      exact ⟨o, d', o', run, happens, explained, .start⟩
    | cons e later =>
      obtain ⟨rfl, rest⟩ := List.cons_eq_cons.1 all
      obtain ⟨o₁, d₂, o₂, before, step, explained₁, after⟩ := ih rest
      exact ⟨o₁, d₂, o₂, before, step, explained₁, after.happened happens explained⟩
  | drifted run drifts ih =>
    obtain ⟨o₁, d₂, o₂, before, step, explained, after⟩ := ih all
    exact ⟨o₁, d₂, o₂, before, step, explained, after.drifted drifts⟩
  | closed run ih =>
    obtain ⟨o₁, d₂, o₂, before, step, explained, after⟩ := ih all
    exact ⟨o₁, d₂, o₂, before, step, explained, after.closed⟩

/-- What may be reported may still be reported after a run. -/
theorem shows {obj : α} (run : Run O reconcile count first start d trace o)
    (shown : O.shows start obj) : O.shows o obj := by
  induction run with
  | start => exact shown
  | happened run happens explained ih => exact explained.shows ih
  | drifted run drifts ih => exact O.shows_drifts drifts ih
  | closed run ih => exact ih

/-- What happens after a run continues it. -/
theorem append {d' : Desk α} {later : Trace α} {o' : ω}
    (run : Run O reconcile count first start d trace o)
    (more : Run O reconcile count d o d' later o') :
    Run O reconcile count first start d' (later ++ trace) o' := by
  induction more with
  | start => exact run
  | happened _ happens explained ih => exact ih.happened happens explained
  | drifted _ drifts ih => exact ih.drifted drifts
  | closed _ ih => exact ih.closed

/-- A run is one over whatever is seen of the world outside, if that reports, answers and changes
likewise. -/
theorem seen {ω' : Type} {O' : Outside α ω'}
    (run : Run O reconcile count first start d trace o) (see : ω → ω')
    (shows : ∀ {o obj}, O.shows o obj → O'.shows (see o) obj)
    (answers : ∀ {o c reply o'}, O.answers o c reply o' → O'.answers (see o) c reply (see o'))
    (drifts : ∀ {o o'}, O.drifts o o' → see o' = see o ∨ O'.drifts (see o) (see o')) :
    Run O' reconcile count first (see start) d trace (see o) := by
  induction run with
  | start => exact .start
  | @happened d d' trace o o' h run happens explained ih =>
    refine ih.happened happens ⟨explained.1.mono fun obj => shows, ?_⟩
    cases is : d.made? h with
    | none => rw [explained.same is]
    | some made => exact answers (explained.answered is)
  | drifted run changes ih =>
    rcases drifts changes with same | changes'
    · rwa [same]
    · exact ih.drifted changes'
  | closed run ih => exact ih.closed

/-- As long as the queue is open, the run of a desk is a course. -/
theorem course (run : Run O reconcile count (.opening policy {}) start d trace o)
    (opened : d.queue.keys.shuttingDown = false) :
    Course reconcile count (.opening policy {}) d trace := by
  induction run with
  | start => exact .start
  | happened run happens explained ih =>
    have before := Desk.shuttingDown_of_step (Desk.step_of_happen happens)
    exact .next (ih (before.symm.trans opened)) happens
  | drifted run drifts ih => exact ih opened
  | closed run ih => simp [Desk.shutDown, WorkQueue.shutDown] at opened

end Run

end BucketProvisioning.Engine
