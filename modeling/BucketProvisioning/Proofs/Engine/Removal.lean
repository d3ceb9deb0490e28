import BucketProvisioning.Proofs.Engine.Ledger

/-!
# When something is removed, and whether it is

What was built for an object is removed by calls.  These are facts about stories, for either kind,
that say when such calls are made.

* `Story.departing`: such a call is made only after the object has departed.
* `Story.once`: no such call is made for an object a second time, unless an object comes back after
  it has departed.
* `Story.disposed`: an object of which the operator knows that everything has been built for it stays
  on record until every such call has been made and answered.
* `Story.secured`: an object stays on record after a successful reconcile, as long as looks show it.
-/

set_option autoImplicit false
set_option linter.unusedSectionVars false

namespace BucketProvisioning.Engine

open BucketProvisioning BucketProvisioning.Reconcile
open BucketProvisioning.Resource (Object)

variable {α ω : Type} [Object α] [Managed α] {O : Outside α ω} {backends : Backend.Registry}
variable {start o o' : ω} {records : Records α} {notes later earlier : List (Note α)}
variable {k : ObjectKey} {u : String}

/-- What is gone is not shown. -/
theorem not_shows_of_gone {found : Option α} {old : α} (gone : Gone found old)
    (is : Object.uid? old = some u) : ¬ Shows u found := by
  intro shows
  obtain ⟨live, there, named⟩ := Option.bind_eq_some_iff.1 shows
  exact gone.2 live there (named.trans is.symm)

/-- A record that fits is one of the object that is shown. -/
theorem shows_of_fits {found record : Option α} {obj : α} (fits : Fits found record)
    (is : record = some obj) (named : Object.uid? obj = some u) : Shows u found := by
  obtain ⟨-, live, there, same⟩ := fits obj is
  exact Option.bind_eq_some_iff.2 ⟨live, there, same.trans named⟩

/-- What is put on record is the object that was found. -/
theorem shows_of_remembers {a : Attempt α} {obj : α} (may : a.Remembers obj)
    (named : Object.uid? obj = some u) : Shows u a.found := by
  obtain ⟨live, there, same, -⟩ := may.known
  exact Option.bind_eq_some_iff.2 ⟨live, there, same.symm.trans named⟩

/-! ## No call too many -/

/-- A call is never made for a live object. -/
def Untended (α : Type) [Object α] [Managed α] (backends : Backend.Registry) (c : Call) : Prop :=
  ∀ k (live : α) calls, ¬ Tends backends k live calls c

/-- What is known when a call is made to remove something: it was built for an object, which is on
record and has departed, and the latest attempt has not made the call before. -/
structure Departing (backends : Backend.Registry) (k : ObjectKey) (c : Call) (on : Option α)
    (obj : α) (u : String) (notes : List (Note α)) : Prop where
  /-- The object is on record. -/
  is : on = some obj
  /-- It has a unique identifier. -/
  named : Object.uid? obj = some u
  /-- The call removes what was built for it. -/
  removes : c ∈ removal backends k obj
  /-- Everything had been built for it. -/
  built : isBuilt obj = true
  /-- It is an object of the key. -/
  place : ObjectKey.ofObject? obj = some k
  /-- It was found or told of. -/
  noted : Noted k obj notes
  /-- It was seen. -/
  saw : Saw k u notes
  /-- The latest attempt has not found it. -/
  gone : ¬ Shows u (attemptAt k on notes).found
  /-- The latest attempt has not made the call. -/
  new : ¬ (attemptAt k on notes).Made c

/-- A call that is never made for a live object is made to remove something. -/
theorem Story.departing {made : Called} {on : Option α}
    (story : Story O backends start records (later ++ .called k made on :: earlier) o)
    (untended : Untended α backends made.call) :
    ∃ obj u, Departing backends k made.call on obj u earlier := by
  obtain ⟨before, _, _, past, entry⟩ := story.before
  cases entry with
  | called k made kept may answered =>
    obtain ⟨obj, is, gone, mem, new⟩ :=
      may.resolve_right fun ⟨live, _, _, tends⟩ => untended k live _ tends
    rw [record_attemptAt] at is
    obtain ⟨built, place, noted, u, named, saw⟩ := past.recorded is
    exact ⟨obj, u, is, named, mem, built, place, noted, saw, not_shows_of_gone gone named, new⟩

/-- The removal of what was built for an object is over, or the latest attempt is at it and has
made a certain call. -/
def Spent (k : ObjectKey) (u : String) (made : Called) (record : Option α)
    (notes : List (Note α)) : Prop :=
  (made ∈ (attemptAt k record notes).calls ∧ ¬ Shows u (attemptAt k record notes).found) ∨
    ∀ obj, record = some obj → Object.uid? obj ≠ some u

/-- An object for which a call was made that removes something is not on record once the attempt
has come to its end. -/
theorem Story.spent (story : Story O backends start records notes o) (noReturn : NoReturn notes)
    {made : Called} {old : α} (mem : .called k made (some old) ∈ notes)
    (removes : made.call ∈ removal backends k old) (named : Object.uid? old = some u) :
    Departed k u notes ∧ Spent k u made (records k) notes := by
  induction story with
  | start => exact absurd mem List.not_mem_nil
  | @noted records notes note o o' story entry ih =>
    rcases List.mem_cons.1 mem with rfl | before
    · generalize is : some old = on at entry
      cases entry with
      | called k made kept may answered =>
        obtain ⟨obj, is', gone, -, -⟩ := may.resolve_right fun attends => attends.not_removal removes
        rw [record_attemptAt] at is'
        obtain rfl := Option.some.inj (is.trans is')
        obtain ⟨-, -, -, u', named', saw⟩ := story.recorded is'
        obtain rfl := Option.some.inj (named.symm.trans named')
        have absent := not_shows_of_gone gone named
        refine ⟨(departed_of_saw saw absent).cons, Or.inl ?_⟩
        rw [attemptAt_called_self]
        exact ⟨List.mem_cons_self, absent⟩
    · obtain ⟨departed, spent⟩ := ih noReturn.tail before
      refine ⟨departed.cons, ?_⟩
      rcases spent with ⟨called, absent⟩ | past
      · rcases note.look_or_other k with ⟨f, i, rfl⟩ | other
        · cases entry with
          | lookedUp k found wellFormed shown rests =>
            refine Or.inr fun obj is named' => absent ?_
            exact shows_of_fits rests.fits (record_attemptAt.trans is) named'
        · refine Or.inl ⟨mem_calls_attemptAt_of_mem other called, ?_⟩
          rw [(found_attemptAt_cons other).1]
          exact absent
      · exact Or.inr past
  | @remembered records notes o k' obj story may ih =>
    obtain ⟨departed, spent⟩ := ih noReturn mem
    refine ⟨departed, ?_⟩
    by_cases here : k = k'
    · subst here
      -- what departed is not found again
      refine Or.inr fun obj' is named' => ?_
      rw [Function.update_self] at is
      obtain rfl := Option.some.inj is
      exact noReturn.not_departed (shows_of_remembers may named') departed
    · rwa [Function.update_of_ne here]
  | @forgotten records notes o k' story may ih =>
    obtain ⟨departed, spent⟩ := ih noReturn mem
    refine ⟨departed, ?_⟩
    by_cases here : k = k'
    · subst here
      exact Or.inr fun obj is => by simp at is
    · rwa [Function.update_of_ne here]
  | drifted story drifts ih => exact ih noReturn mem

/-- **No call is made twice to remove what was built for an object.** -/
theorem Story.once {server : ω → ApiServer α} (hosts : O.Hosts server)
    (sound : (server start).Sound) {made made' : Called} {k' : ObjectKey} {old old' : α}
    (story : Story O backends start records (later ++ .called k made (some old) :: earlier) o)
    (noReturn : NoReturn (later ++ .called k made (some old) :: earlier))
    (untended : Untended α backends made.call) (untended' : Untended α backends made'.call)
    (mem : .called k' made' (some old') ∈ earlier) (same : Object.uid? old' = Object.uid? old) :
    k' = k ∧ made'.call ∈ removal backends k old ∧ made'.call ≠ made.call := by
  obtain ⟨obj, u, departing⟩ := story.departing untended
  obtain rfl := Option.some.inj departing.is
  obtain ⟨before, o₁, _, past, entry⟩ := story.before
  have departing' : ∃ before', ∃ obj u, Noted k' old' earlier ∧
      Departing backends k' made'.call (some old') obj u before' := by
    obtain ⟨later', earlier', rfl⟩ := List.append_of_mem mem
    obtain ⟨obj, u, departing'⟩ := past.departing untended'
    obtain rfl := Option.some.inj departing'.is
    exact ⟨earlier', old', u, (departing'.noted.cons).append later', departing'⟩
  obtain ⟨_, obj', u', noted', departing'⟩ := departing'
  obtain rfl := Option.some.inj departing'.is
  -- both are versions of one object with one status
  have accounted := past.accounted hosts sound
  have known := accounted.noted departing.noted
  have known' := accounted.noted noted'
  obtain rfl : k' = k := Option.some.inj ((departing'.place.symm.trans
    (accounted.sound.keys old' known' old known same)).trans departing.place)
  have removes' : made'.call ∈ removal backends k' old := by
    rw [← Managed.removal_congr backends k' old' old departing'.place departing.place
      (accounted.sound.statuses old' known' old known same departing'.built departing.built)]
    exact departing'.removes
  refine ⟨rfl, removes', ?_⟩
  obtain ⟨-, spent⟩ :=
    past.spent noReturn.of_append.tail mem departing'.removes (same.trans departing.named)
  generalize on : some old = record at entry
  cases entry with
  | called k made kept may answered =>
    rcases spent with ⟨called, -⟩ | none
    · intro twice
      refine departing.new ⟨made', ?_, twice⟩
      rw [calls_attemptAt_record (some old)]
      exact called
    · exact absurd departing.named (none old on.symm)

/-- No attempt finds an object after it has departed, at whatever key. -/
theorem Story.never_again {server : ω → ApiServer α} (hosts : O.Hosts server)
    (sound : (server start).Sound) (story : Story O backends start records notes o)
    (noReturn : NoReturn notes) (departed : Departed k u notes) (k' : ObjectKey)
    (record : Option α) : ¬ Shows u (attemptAt k' record notes).found := by
  intro shows
  have accounted := story.accounted hosts sound
  obtain ⟨live, there, named⟩ := Option.bind_eq_some_iff.1 shows
  obtain ⟨known, place⟩ := accounted.attempt_found there
  have saw : Saw k u notes := by
    obtain ⟨later, found, initial, earlier, rfl, -, saw⟩ := departed
    exact saw.cons.append later
  obtain ⟨found, initial, mem, shows'⟩ := saw
  obtain ⟨live', rfl, named'⟩ := Option.bind_eq_some_iff.1 shows'
  obtain ⟨known', place'⟩ := accounted.found k live' initial mem
  obtain rfl : k' = k := Option.some.inj ((place.symm.trans
    (accounted.sound.keys live known live' known' (named.trans named'.symm))).trans place')
  exact noReturn.not_departed shows departed

/-! ## No call too few -/

/-- Every call has been made and answered that removes what was built for an object, after it had
departed. -/
def Disposed (backends : Backend.Registry) (k : ObjectKey) (obj : α) (notes : List (Note α)) :
    Prop :=
  ∀ c ∈ removal backends k obj, ∃ later reply on earlier u,
    notes = later ++ .called k ⟨c, some reply⟩ on :: earlier ∧ Object.uid? obj = some u ∧
      Departed k u earlier

/-- A reconcile that had found an object has succeeded. -/
def Acknowledged (k : ObjectKey) (obj : α) (notes : List (Note α)) : Prop :=
  ∃ later earlier, notes = later ++ .finished k (.ok ()) :: earlier ∧
    (attemptAt k none earlier).found = some obj

/-- The operator knows that everything has been built for an object: a status write has told of the
object, or a reconcile has succeeded that had found it with a status.  The latter is how the operator
learns of a write that took effect although it heard of a failure. -/
inductive Established (k : ObjectKey) (obj : α) (notes : List (Note α)) : Prop
  /-- A status write has told of it. -/
  | told (made : Called) (on : Option α) (mem : .called k made on ∈ notes)
      (told : made.confirmed? = some obj)
  /-- A reconcile that had found it has succeeded. -/
  | found (acknowledged : Acknowledged k obj notes) (built : isBuilt obj = true)

/-- What becomes of an object that is established. -/
inductive Fate (backends : Backend.Registry) (k : ObjectKey) (obj : α) (record : Option α)
    (notes : List (Note α)) : Prop
  /-- It is on record. -/
  | recorded (old : α) (is : record = some old) (same : Object.uid? old = Object.uid? obj)
  /-- The attempt that was told of it is about to put it on record. -/
  | pending (made : Called) (told : made.confirmed? = some obj)
      (mem : made ∈ (attemptAt k record notes).calls)
      (fits : Fits (attemptAt k record notes).found record)
      (found : (attemptAt k record notes).found.bind Object.uid? = Object.uid? obj)
  /-- What was built for it has been removed. -/
  | disposed (disposed : Disposed backends k obj notes)

/-- What has departed has departed for good, as far as the notes go. -/
theorem Departed.append (h : Departed k u notes) (more : List (Note α)) :
    Departed k u (more ++ notes) := by
  induction more with
  | nil => exact h
  | cons note more ih => exact ih.cons

/-- Nothing that is noted later undoes a removal. -/
theorem Disposed.cons {obj : α} {note : Note α} (h : Disposed backends k obj notes) :
    Disposed backends k obj (note :: notes) := by
  intro c mem
  obtain ⟨later, reply, on, earlier, u, rfl, rest⟩ := h c mem
  exact ⟨note :: later, reply, on, earlier, u, rfl, rest⟩

/-- What an established object looks like: the server has stored it, with a status. -/
theorem Established.stored {past : List α} {s : ApiServer α} {obj : α} (h : Established k obj notes)
    (accounted : Accounted backends past s notes) : obj ∈ s.past ∧ isBuilt obj = true := by
  cases h with
  | told made on mem told => exact accounted.told k made on obj mem told
  | found acknowledged built =>
    obtain ⟨later, earlier, rfl, there⟩ := acknowledged
    obtain ⟨initial, mem⟩ := found_attemptAt there
    exact ⟨(accounted.found k obj initial (by simp [mem])).1, built⟩

/-- An object is established by the latest note or was established before. -/
theorem Established.cases_cons {obj : α} {note : Note α} (h : Established k obj (note :: notes)) :
    (∃ made on, note = .called k made on ∧ made.confirmed? = some obj) ∨
      (note = .finished k (.ok ()) ∧ (attemptAt k none notes).found = some obj) ∨
      Established k obj notes := by
  cases h with
  | told made on mem told =>
    rcases List.mem_cons.1 mem with rfl | before
    · exact Or.inl ⟨made, on, rfl, told⟩
    · exact Or.inr (Or.inr (.told made on before told))
  | found acknowledged built =>
    obtain ⟨later, earlier, split, there⟩ := acknowledged
    refine Or.inr ?_
    rcases List.cons_eq_append_iff.1 split with ⟨rfl, same⟩ | ⟨later, rfl, rfl⟩
    · obtain ⟨rfl, rfl⟩ := List.cons_eq_cons.1 same
      exact Or.inl ⟨rfl, there⟩
    · exact Or.inr (.found ⟨later, earlier, rfl, there⟩ built)

/-- An established object is disposed of if it is on record and gone, and every call to remove what was
built for the object on record has been answered. -/
theorem Story.disposed_of_answered {server : ω → ApiServer α} (hosts : O.Hosts server)
    (sound : (server start).Sound) (story : Story O backends start records notes o)
    {obj old : α} (established : Established k obj notes) (is : records k = some old)
    (same : Object.uid? old = Object.uid? obj)
    (gone : Gone (attemptAt k (records k) notes).found old)
    (answered : ∀ c ∈ removal backends k old, (attemptAt k (records k) notes).Answered c) :
    Disposed backends k obj notes := by
  intro c removes
  have accounted := story.accounted hosts sound
  obtain ⟨past, built⟩ := established.stored accounted
  obtain ⟨built', place, noted, u, named, saw⟩ := story.recorded is
  have past' := accounted.noted noted
  -- the status that is on record is the one that the version known shows
  have removes' : c ∈ removal backends k old := by
    rwa [← Managed.removal_congr backends k obj old
      ((accounted.sound.keys obj past old past' same.symm).trans place) place
      (accounted.sound.statuses obj past old past' same.symm built built')]
  obtain ⟨reply, called⟩ := answered c removes'
  obtain ⟨later, on, earlier, rfl, none⟩ := split_of_mem_calls called
  refine ⟨later, reply, on, earlier, u, rfl, same.symm.trans named, ?_⟩
  refine departed_of_saw ?_ (?_ : ¬ Shows u (attemptAt k on earlier).found)
  · obtain ⟨f, i, mem, shows⟩ := saw
    refine ⟨f, i, ?_, shows⟩
    have away := (List.mem_append.1 mem).resolve_left (none f i)
    exact (List.mem_cons.1 away).resolve_left (by simp)
  · have absent := not_shows_of_gone gone named
    rw [(found_attemptAt_append none).1, (found_attemptAt_cons (by simp)).1,
      found_attemptAt_record (records k)] at absent
    exact absent

/-- The attempt that is told of an object by a status write is about to put it on record. -/
theorem Story.fate_of_told (story : Story O backends start records notes o) {made : Called}
    {on : Option α} {obj : α} (entry : Entry O backends records notes o (.called k made on) o')
    (told : made.confirmed? = some obj) :
    Fate backends k obj (records k) (.called k made on :: notes) := by
  have whole : Story O backends start records ([] ++ .called k made on :: notes) o' :=
    story.noted entry
  obtain ⟨live, status, -, there, fits, -, -, -, same, -⟩ := whole.writing told
  cases entry with
  | called k made kept may answered =>
    refine .pending made told ?_ ?_ ?_ <;> rw [attemptAt_called_self]
    · exact List.mem_cons_self
    · show Fits (attemptAt k (records k) notes).found _
      rwa [there]
    · show (attemptAt k (records k) notes).found.bind Object.uid? = _
      rw [there]
      exact same.symm

/-- A reconcile that succeeds leaves what it has found on record. -/
theorem Entry.fate_of_finished {obj : α}
    (entry : Entry O backends records notes o (.finished k (.ok ())) o')
    (there : (attemptAt k none notes).found = some obj) :
    Fate backends k obj (records k) (.finished k (.ok ()) :: notes) := by
  cases entry with
  | finished k outcome ends =>
    rw [← found_attemptAt_record (records k)] at there
    obtain ⟨old, is⟩ := Option.isSome_iff_exists.1 (ends.recorded rfl (by rw [there]; rfl))
    obtain ⟨-, live, there', same⟩ := ends.fits old is
    obtain rfl := Option.some.inj (there.symm.trans there')
    exact .recorded old (record_attemptAt.symm.trans is) same.symm

/-- A note changes nothing about the fate of an object, but that an attempt that is over has put on
record what it was told of. -/
theorem Fate.noted {obj : α} {note : Note α} (h : Fate backends k obj (records k) notes)
    (entry : Entry O backends records notes o note o') :
    Fate backends k obj (records k) (note :: notes) := by
  cases h with
  | recorded old is same => exact .recorded old is same
  | disposed disposed => exact .disposed disposed.cons
  | pending made told called fits found =>
    rcases note.look_or_other k with ⟨f, i, rfl⟩ | other
    · cases entry with
      | lookedUp k found wellFormed shown rests =>
        obtain ⟨old, is, same⟩ := rests.kept made called obj told
        exact .recorded old (record_attemptAt.symm.trans is) same
    · refine .pending made told (mem_calls_attemptAt_of_mem other called) ?_ ?_
      · rwa [(found_attemptAt_cons other).1]
      · rwa [(found_attemptAt_cons other).1]

/-- What is put on record at the key is a version of the object that is on record or is about to be
put there. -/
theorem Fate.remembered {obj obj' : α} (h : Fate backends k obj (records k) notes)
    (may : (attemptAt k (records k) notes).Remembers obj') :
    Fate backends k obj (some obj') notes := by
  obtain ⟨live, there, same, -⟩ := may.known
  have shown {uid : Option String}
      (is : (attemptAt k (records k) notes).found.bind Object.uid? = uid) :
      Object.uid? obj' = uid := by
    rw [same, ← is, there]
    rfl
  cases h with
  | recorded old is same' =>
    obtain ⟨-, live', there', same''⟩ := may.fits old (by rwa [record_attemptAt])
    refine .recorded obj' rfl (shown ?_)
    rw [there']
    exact same''.trans same'
  | pending made told called fits found => exact .recorded obj' rfl (shown found)
  | disposed disposed => exact .disposed disposed

/-- A record is taken away only from what has been disposed of. -/
theorem Story.fate_of_forgotten {server : ω → ApiServer α} (hosts : O.Hosts server)
    (sound : (server start).Sound) (story : Story O backends start records notes o) {obj : α}
    (established : Established k obj notes) (h : Fate backends k obj (records k) notes)
    (may : (attemptAt k (records k) notes).Forgets backends k) :
    Fate backends k obj none notes := by
  obtain ⟨old, is, gone, answered⟩ := may
  rw [record_attemptAt] at is
  cases h with
  | recorded old' is' same =>
    obtain rfl := Option.some.inj (is.symm.trans is')
    exact .disposed (story.disposed_of_answered hosts sound established is same gone answered)
  | pending made told called fits found => exact absurd gone (fits.not_gone is)
  | disposed disposed => exact .disposed disposed

/-- **An established object stays on record until it is disposed of.** -/
theorem Story.disposed {server : ω → ApiServer α} (hosts : O.Hosts server)
    (sound : (server start).Sound) (story : Story O backends start records notes o) {obj : α}
    (established : Established k obj notes) : Fate backends k obj (records k) notes := by
  induction story with
  | start =>
    cases established with
    | told made on mem told => exact absurd mem List.not_mem_nil
    | found acknowledged built =>
      obtain ⟨later, earlier, split, -⟩ := acknowledged
      simp at split
  | noted story entry ih =>
    rcases established.cases_cons with ⟨made, on, rfl, told⟩ | ⟨rfl, there⟩ | before
    · exact story.fate_of_told entry told
    · exact entry.fate_of_finished there
    · exact (ih before).noted entry
  | @remembered records notes o k' obj' story may ih =>
    by_cases here : k = k'
    · subst here
      rw [Function.update_self]
      exact (ih established).remembered may
    · rw [Function.update_of_ne here]
      exact ih established
  | @forgotten records notes o k' story may ih =>
    by_cases here : k = k'
    · subst here
      rw [Function.update_self]
      exact story.fate_of_forgotten hosts sound established (ih established) may
    · rw [Function.update_of_ne here]
      exact ih established
  | drifted story drifts ih => exact ih established

/-- A reconcile that found an object has succeeded, and no later look failed to show the object. -/
def Secured (k : ObjectKey) (u : String) (notes : List (Note α)) : Prop :=
  ∃ later earlier, notes = later ++ .finished k (.ok ()) :: earlier ∧
    Shows u (attemptAt k none earlier).found ∧
    ∀ found initial, .lookedUp k found initial ∈ later → Shows u found

/-- The latest look at a secured object shows it. -/
theorem Secured.shows (h : Secured k u notes) (record : Option α) :
    Shows u (attemptAt k record notes).found := by
  obtain ⟨later, earlier, rfl, shown, shows⟩ := h
  induction later with
  | nil =>
    rw [List.nil_append, (found_attemptAt_cons (by simp)).1, found_attemptAt_record record]
    exact shown
  | cons note later ih =>
    rcases note.look_or_other k with ⟨f, i, rfl⟩ | other
    · rw [List.cons_append, attemptAt_lookedUp_self]
      exact shows f i List.mem_cons_self
    · rw [List.cons_append, (found_attemptAt_cons other).1]
      exact ih fun f i mem => shows f i (List.mem_cons_of_mem _ mem)

/-- **An object with which a reconcile has succeeded stays on record as long as looks show it.** -/
theorem Story.secured (story : Story O backends start records notes o) (h : Secured k u notes) :
    ∃ obj, records k = some obj ∧ Object.uid? obj = some u := by
  induction story with
  | start =>
    obtain ⟨later, earlier, split, -⟩ := h
    simp at split
  | @noted records notes note o o' story entry ih =>
    obtain ⟨later, earlier, split, shown, shows⟩ := h
    cases later with
    | nil =>
      obtain ⟨rfl, rfl⟩ := List.cons_eq_cons.1 split
      cases entry with
      | finished k outcome ends =>
        rw [found_attemptAt_record none] at shown
        obtain ⟨live, there, named⟩ := Option.bind_eq_some_iff.1 shown
        obtain ⟨obj, is⟩ := Option.isSome_iff_exists.1 (ends.recorded rfl (by rw [there]; rfl))
        obtain ⟨-, live', there', same⟩ := ends.fits obj is
        obtain rfl := Option.some.inj (there.symm.trans there')
        exact ⟨obj, record_attemptAt.symm.trans is, same.symm.trans named⟩
    | cons first later =>
      obtain ⟨rfl, rest⟩ := List.cons_eq_cons.1 split
      exact ih ⟨later, earlier, rest, shown, fun f i mem => shows f i (List.mem_cons_of_mem _ mem)⟩
  | @remembered records notes o k' obj story may ih =>
    by_cases here : k = k'
    · subst here
      refine ⟨obj, Function.update_self _ _ _, ?_⟩
      obtain ⟨live, there, same, -⟩ := may.known
      have shows := h.shows (records k)
      rw [there] at shows
      exact same.trans shows
    · rw [Function.update_of_ne here]
      exact ih h
  | @forgotten records notes o k' story may ih =>
    by_cases here : k = k'
    · subst here
      obtain ⟨old, is, gone, -⟩ := may
      rw [record_attemptAt] at is
      obtain ⟨obj, is', named⟩ := ih h
      obtain rfl := Option.some.inj (is.symm.trans is')
      exact absurd (h.shows (records k)) (not_shows_of_gone gone named)
    · rw [Function.update_of_ne here]
      exact ih h
  | drifted story drifts ih => exact ih h

end BucketProvisioning.Engine
