import BucketProvisioning.Proofs.Reconcile.Records

/-!
# How a reconcile conducts itself

`Records` says which record a reconcile leaves.  This module says what it may do on the way there.
An `Attempt` is what is known of a reconcile that has looked its key up: what it found, what was on
record then and is now, and the calls that it has made.  `conduct` is the world in which it is
judged:

* it removes what was built only for the object on record, only if that object is gone, and makes
  no such call twice;
* it builds only for the live object that it found, and only if nothing has been built for it yet;
* it puts on record only what has been built, be it the object that it found or the object that a
  status write has just confirmed;
* it takes a record away only after it has made every call that removes what the record tells of;
* once a status write has been confirmed it makes no other call before the object is on record.

What building and removing means is a matter of the kind; `Managed` says what has to be known of
it.  `Ends` is what holds of every attempt in the end, and `Conducts` that the reconciler of a kind
keeps to all this.
-/

set_option autoImplicit false
set_option linter.unusedSectionVars false

namespace BucketProvisioning.Reconcile

open BucketProvisioning BucketProvisioning.Resource BucketProvisioning.Backend

/-! ## What a kind is about -/

/-- A call that was made. -/
structure Called where
  /-- The call. -/
  call : Call
  /-- What came of it; nothing if whoever made it broke down. -/
  reply : Option (Except Failure call.Result)

/-- What is built for the objects of a kind, and how it is removed. -/
class Managed (α : Type) [Object α] where
  /-- What the status of an object records. -/
  Status : Type
  /-- The status of an object. -/
  status? : α → Option Status
  /-- Whether a status says that everything has been built. -/
  built : Status → Bool
  /-- The copy and the status that a call writes, if it is a status write. -/
  written? : Call → Option (α × Status)
  /-- The object that a status write tells of if it succeeds. -/
  confirmed? : (c : Call) → Except Failure c.Result → Option α
  /-- The calls that remove what was built for an object. -/
  removal : Registry → ObjectKey → α → List Call
  /-- Whether a call may be made for a live object after some others. -/
  Tends : Registry → ObjectKey → α → List Called → Call → Prop
  /-- Only a status write tells of an object. -/
  written_of_confirmed : ∀ c reply obj, confirmed? c reply = some obj → (written? c).isSome
  /-- Nothing is written in order to remove something. -/
  written_of_removal : ∀ backends k obj, ∀ c ∈ removal backends k obj, written? c = none
  /-- What is written for a live object is that everything has been built which had not been. -/
  written_of_tends : ∀ backends k live calls c copy status, Tends backends k live calls c →
    written? c = some (copy, status) → copy = live ∧ (status? live).any built = false ∧
      built status = true
  /-- Nothing is removed on behalf of a live object. -/
  tends_of_removal : ∀ backends k obj, ∀ c ∈ removal backends k obj, ∀ k' live calls,
    ¬ Tends backends k' live calls c
  /-- What has to be removed can be told from the status. -/
  removal_congr : ∀ backends k obj obj', ObjectKey.ofObject? obj = some k →
    ObjectKey.ofObject? obj' = some k → status? obj = status? obj' →
    removal backends k obj = removal backends k obj'

export Managed (removal Tends)

variable {α : Type} [Object α] [Managed α]

/-- Whether everything has been built for an object. -/
def isBuilt (obj : α) : Bool := (Managed.status? obj).any Managed.built

/-- Whether an object is built for is read off its status. -/
theorem isBuilt_congr {obj obj' : α} (same : Managed.status? obj = Managed.status? obj') :
    isBuilt obj = isBuilt obj' := by
  unfold isBuilt
  rw [same]

/-- An object whose status says that it is built for is. -/
theorem isBuilt_of_status {obj : α} {status : Managed.Status α}
    (is : Managed.status? obj = some status) (built : Managed.built status = true) :
    isBuilt obj = true := by
  unfold isBuilt
  rw [is]
  exact built

/-- The object that a call tells of if it is a status write that was confirmed. -/
def Called.confirmed? (called : Called) : Option α :=
  called.reply.bind (Managed.confirmed? called.call)

/-- A status write that succeeds replies with the object that was written and the status that was
written to it. -/
def Lawful (α : Type) [Object α] [Managed α] (c : Call) (reply : Except Failure c.Result) : Prop :=
  ∀ obj copy : α, ∀ status, Managed.confirmed? c reply = some obj →
    Managed.written? c = some (copy, status) →
    Object.uid? obj = Object.uid? copy ∧ ObjectKey.ofObject? obj = ObjectKey.ofObject? copy ∧
      Managed.status? obj = some status

/-! ## Attempts -/

/-- A reconcile of a key that has looked the key up. -/
structure Attempt (α : Type) where
  /-- What it found. -/
  found : Option α
  /-- What was on record at that time. -/
  initial : Option α
  /-- What is on record now. -/
  record : Option α
  /-- The calls that it has made, the latest first. -/
  calls : List Called

/-- An object is gone if another one, or none, was found in its place. -/
def Gone (found : Option α) (old : α) : Prop :=
  (Object.uid? old).isSome ∧ ∀ live, found = some live → Object.uid? live ≠ Object.uid? old

namespace Attempt

/-- An attempt that has done nothing but look its key up. -/
def opening (found record : Option α) : Attempt α := ⟨found, record, record, []⟩

/-- A call is made and answered. -/
def calling (a : Attempt α) (c : Call) (reply : Except Failure c.Result) : Attempt α :=
  { a with calls := ⟨c, some reply⟩ :: a.calls }

/-- A call has been made. -/
def Made (a : Attempt α) (c : Call) : Prop := ∃ called ∈ a.calls, called.call = c

/-- A call has been made and answered. -/
def Answered (a : Attempt α) (c : Call) : Prop := ∃ reply, ⟨c, some reply⟩ ∈ a.calls

/-- Every object that a status write has told of is on record. -/
def Kept (a : Attempt α) : Prop :=
  ∀ called ∈ a.calls, ∀ obj : α, called.confirmed? = some obj →
    ∃ record, a.record = some record ∧ Object.uid? record = Object.uid? obj

/-- A call may be made to remove what was built for the object on record. -/
def Removes (backends : Registry) (k : ObjectKey) (a : Attempt α) (c : Call) : Prop :=
  ∃ old, a.record = some old ∧ Gone a.found old ∧ c ∈ removal backends k old ∧ ¬ a.Made c

/-- A call may be made for the live object. -/
def Attends (backends : Registry) (k : ObjectKey) (a : Attempt α) (c : Call) : Prop :=
  ∃ live, a.found = some live ∧ Fits a.found a.record ∧ Tends backends k live a.calls c

/-- An object may be put on record. -/
structure Remembers (a : Attempt α) (obj : α) : Prop where
  /-- Everything has been built for it. -/
  built : isBuilt obj = true
  /-- The record is none, or one of the object that was found. -/
  fits : Fits a.found a.record
  /-- It is the object that was found, or what a status write told of that object. -/
  known : ∃ live, a.found = some live ∧ Object.uid? obj = Object.uid? live ∧
    ObjectKey.ofObject? obj = ObjectKey.ofObject? live ∧
    (obj = live ∨ ∃ called ∈ a.calls, called.confirmed? = some obj)

/-- The record may be taken away. -/
def Forgets (backends : Registry) (k : ObjectKey) (a : Attempt α) : Prop :=
  ∃ old, a.record = some old ∧ Gone a.found old ∧ ∀ c ∈ removal backends k old, a.Answered c

end Attempt

/-- The world of the attempts at a key. -/
def conduct (backends : Registry) (k : ObjectKey) : World α (Attempt α) where
  allows a r :=
    match r with
    | .call c => a.Kept ∧ (a.Removes backends k c ∨ a.Attends backends k c)
    | .publish _ _ => True
    | .store (.lookup _) => False
    | .store (.recordOf k') => k' = k
    | .store (.remember k' obj) => k' = k ∧ a.Remembers obj
    | .store (.forget k') => k' = k ∧ a.Forgets backends k
  answers a r reply a' :=
    match r with
    | .call c => Lawful α c reply ∧ a' = a.calling c reply
    | .publish _ _ => a' = a
    | .store (.lookup _) => True
    | .store (.recordOf _) => reply = a.record ∧ a' = a
    | .store (.remember _ obj) => a' = { a with record := some obj }
    | .store (.forget _) => a' = { a with record := none }

/-- What holds of an attempt in the end. -/
structure Ends (backends : Registry) (k : ObjectKey) (outcome : Except Failure Unit)
    (a : Attempt α) : Prop where
  /-- The record is none, or one of the object that was found. -/
  fits : Fits a.found a.record
  /-- What was confirmed is on record. -/
  kept : a.Kept
  /-- What was built for an object that is gone has been removed. -/
  removed : ∀ old, a.initial = some old → Gone a.found old →
    ∀ c ∈ removal backends k old, a.Answered c
  /-- After a success the object that was found is on record. -/
  recorded : outcome = .ok () → a.found.isSome → a.record.isSome

/-- The reconciler of a kind conducts itself: a text that is no key is dropped, and a key is looked
up once, whereupon the attempt keeps to what it may do. -/
structure Conducts (backends : Registry)
    (reconcile : String → Program α (Except Failure Unit)) : Prop where
  /-- A text that is no key is dropped. -/
  drops : ∀ text e, ObjectKey.parse text = .error e → ∃ outcome, reconcile text = .done outcome
  /-- A key is looked up, and then the attempt keeps to what it may do. -/
  conducts : ∀ text k, ObjectKey.parse text = .ok k →
    ∃ next, reconcile text = .ask (.store (.lookup k)) next ∧
      ∀ found record, Identified found → Identified record →
        (next (.ok found)).Ensures (conduct backends k) (.opening found record)
          (Ends backends k)

/-! ## Tasks of an attempt -/

section facts

variable {a : Attempt α} {live old : α}

/-- A call that was answered stays so when another one is made. -/
theorem Attempt.Answered.calling {c c' : Call} {reply : Except Failure c.Result}
    (h : a.Answered c') : (a.calling c reply).Answered c' :=
  h.imp fun _ mem => List.mem_cons_of_mem _ mem

/-- An object is gone if nothing was found. -/
theorem gone_none (identified : (Object.uid? old).isSome) : Gone none old :=
  ⟨identified, nofun⟩

/-- The object on record is gone exactly if the live one has taken its place. -/
theorem gone_some : Gone (some live) old ↔ isSuperseded old live = true := by
  unfold Gone isSuperseded
  rw [Bool.and_eq_true, decide_eq_true_eq]
  refine and_congr_right fun _ => ⟨fun apart same => apart live rfl same.symm, ?_⟩
  rintro apart _ ⟨⟩ same
  exact apart same.symm

/-- A record that fits is not gone. -/
theorem Fits.not_gone {found record : Option α} (h : Fits found record) (is : record = some old) :
    ¬ Gone found old := by
  rintro ⟨-, apart⟩
  obtain ⟨-, live, there, same⟩ := h old is
  exact apart live there same

/-- What is built for a live object is not removed. -/
theorem Attempt.Attends.not_removal {backends : Registry} {k k' : ObjectKey} {c : Call}
    (h : a.Attends backends k c) : c ∉ removal backends k' old := by
  obtain ⟨live, -, -, tends⟩ := h
  exact fun mem => Managed.tends_of_removal backends k' old c mem k live a.calls tends

end facts

namespace Attempt

/-- What holds of an attempt between tearing down and building: nothing has been written yet. -/
structure Cleared (backends : Registry) (k : ObjectKey) (a : Attempt α) : Prop where
  /-- The record is none, or one of the object that was found. -/
  fits : Fits a.found a.record
  /-- Nothing has been confirmed. -/
  unwritten : ∀ called ∈ a.calls, (called.confirmed? : Option α) = none
  /-- What was built for an object that is gone has been removed. -/
  removed : ∀ old, a.initial = some old → Gone a.found old →
    ∀ c ∈ removal backends k old, a.Answered c

variable {backends : Registry} {k : ObjectKey} {a : Attempt α}

/-- Where nothing was confirmed nothing has to be on record. -/
theorem kept_of_unwritten (unwritten : ∀ called ∈ a.calls, (called.confirmed? : Option α) = none) :
    a.Kept := by
  intro called mem obj is
  rw [unwritten called mem] at is
  simp at is

/-- An attempt that begins with a record that fits has its way clear. -/
theorem cleared_opening {found record : Option α} (fits : Fits found record) :
    (Attempt.opening found record).Cleared backends k where
  fits := fits
  unwritten _ mem := absurd mem List.not_mem_nil
  removed _ is gone := absurd gone (fits.not_gone is)

/-- An attempt that fails has left the record as it was. -/
theorem Cleared.fails {e : Failure} (h : a.Cleared backends k) : Ends backends k (.error e) a :=
  ⟨h.fits, kept_of_unwritten h.unwritten, h.removed, nofun⟩

/-- A call that confirms nothing leaves an attempt as clear as it was. -/
theorem Cleared.calling (h : a.Cleared backends k) (c : Call) (reply : Except Failure c.Result)
    (silent : Managed.confirmed? (α := α) c reply = none) :
    (a.calling c reply).Cleared backends k where
  fits := h.fits
  unwritten := List.forall_mem_cons.2 ⟨silent, h.unwritten⟩
  removed old is gone c' mem := (h.removed old is gone c' mem).calling

/-- An attempt that puts the object that it found on record ends well. -/
theorem Cleared.ends {outcome : Except Failure Unit} {live : α} (h : a.Cleared backends k)
    (there : a.found = some live) (identified : (Object.uid? live).isSome) :
    Ends backends k outcome { a with record := some live } where
  fits := by
    show Fits a.found (some live)
    rw [there]
    exact fits_some identified rfl
  kept := by
    intro called mem obj told
    simp [h.unwritten called mem] at told
  removed := h.removed
  recorded _ _ := rfl

/-- The same goes for an attempt that puts on record what it has just been told of that object. -/
theorem Cleared.ends_written {outcome : Except Failure Unit} {live obj : α} {c : Call}
    {reply : Except Failure c.Result} (h : a.Cleared backends k) (there : a.found = some live)
    (identified : (Object.uid? live).isSome) (same : Object.uid? obj = Object.uid? live)
    (told : Managed.confirmed? c reply = some obj) :
    Ends backends k outcome { a.calling c reply with record := some obj } where
  fits := by
    show Fits a.found (some obj)
    rw [there]
    exact fits_some identified same
  kept := by
    intro called mem o told'
    rcases List.mem_cons.1 mem with rfl | earlier
    · obtain rfl := Option.some.inj (told.symm.trans told')
      exact ⟨obj, rfl, rfl⟩
    · simp [h.unwritten called earlier] at told'
  removed old is gone c' mem := (h.removed old is gone c' mem).calling
  recorded _ _ := rfl

end Attempt

namespace Conduct

variable {backends : Registry} {k : ObjectKey} {a : Attempt α} {β : Type}

/-- A call may be made that attends to the live object or removes what was built, if everything that
was confirmed before is on record. -/
theorem ensures_call {c : Call} {Q : Except Failure c.Result → Attempt α → Prop}
    (kept : a.Kept) (may : a.Removes backends k c ∨ a.Attends backends k c)
    (h : ∀ reply, Lawful α c reply → Q reply (a.calling c reply)) :
    (Task.call c : Task α c.Result).Ensures (conduct backends k) a Q := by
  refine Task.ensures_call.2 ⟨⟨kept, may⟩, ?_⟩
  rintro reply _ ⟨lawful, rfl⟩
  exact h reply lawful

/-- The record may be read at any time. -/
theorem ensures_recordOf {Q : Except Failure (Option α) → Attempt α → Prop}
    (h : Q (.ok a.record) a) :
    (Task.recordOf k : Task α (Option α)).Ensures (conduct backends k) a Q := by
  refine Task.ensures_recordOf.2 ⟨rfl, ?_⟩
  rintro _ _ ⟨rfl, rfl⟩
  exact h

/-- An object that was found or confirmed may be put on record. -/
theorem ensures_remember {obj : α} {Q : Except Failure Unit → Attempt α → Prop}
    (may : a.Remembers obj) (h : Q (.ok ()) { a with record := some obj }) :
    (Task.remember k obj : Task α Unit).Ensures (conduct backends k) a Q := by
  refine Task.ensures_remember.2 ⟨⟨rfl, may⟩, ?_⟩
  rintro _ _ rfl
  exact h

/-- A record may be erased once what it tells of has been removed. -/
theorem ensures_forget {Q : Except Failure Unit → Attempt α → Prop}
    (may : a.Forgets backends k) (h : Q (.ok ()) { a with record := none }) :
    (Task.forget k : Task α Unit).Ensures (conduct backends k) a Q := by
  refine Task.ensures_forget.2 ⟨⟨rfl, may⟩, ?_⟩
  rintro _ _ rfl
  exact h

/-- Events may be published at any time. -/
theorem ensures_publish {ω : Type} [Object ω] {obj : ω} {e : Event}
    {Q : Except Failure Unit → Attempt α → Prop} (h : Q (.ok ()) a) :
    (Task.publish obj e : Task α Unit).Ensures (conduct backends k) a Q := by
  refine Task.ensures_publish.2 ⟨trivial, ?_⟩
  rintro _ _ rfl
  exact h

/-- An attempt that has called nobody yet has cleared the way for the live object as soon as it has
torn down what that object has taken the place of. -/
theorem ensures_attend {live : α} {record : Option α} {teardown : Task α Unit}
    (identified : Identified record)
    (clears : ∀ old, record = some old → Gone (some live) old →
      ∀ Q : Except Failure Unit → Attempt α → Prop,
        (∀ a' : Attempt α, a'.found = some live → a'.Cleared backends k → Q (.ok ()) a') →
        teardown.Ensures (conduct backends k) (.opening (some live) record) Q)
    {Q : Except Failure Unit → Attempt α → Prop}
    (h : ∀ a' : Attempt α, a'.found = some live → a'.Cleared backends k → Q (.ok ()) a') :
    (Slot.attend k live teardown).Ensures (conduct backends k) (.opening (some live) record) Q := by
  unfold Slot.attend
  refine Task.ensures_bind.2 (ensures_recordOf ?_)
  cases record with
  | none => exact h _ rfl (Attempt.cleared_opening (fits_none _))
  | some old =>
    refine Task.ensures_ite (fun superseded => ?_) fun kept => ?_
    · exact clears old rfl (gone_some.2 superseded) Q h
    · have fits : Fits (some live) (some old) := by
        refine fits_of_not_superseded identified ?_
        rintro _ ⟨⟩
        exact Bool.not_eq_true _ ▸ kept
      exact h _ rfl (Attempt.cleared_opening fits)

end Conduct

end BucketProvisioning.Reconcile
