import BucketProvisioning.Proofs.Engine.ApiServer

/-!
# What the notes of a run account for

Facts about stories, for either kind.

* `Departed` says that a look at a key no longer showed an object that an earlier look had shown.
* `Story.recorded`: what is on record was found or told of when everything had been built for it.
* `Story.accounted`: over an API server, whatever was found or told of was stored there, and every
  status that is new was written in an attempt that had found the object without one.
-/

set_option autoImplicit false
set_option linter.unusedSectionVars false

namespace BucketProvisioning.Engine

open BucketProvisioning BucketProvisioning.Reconcile
open BucketProvisioning.Resource (Object)

variable {α ω : Type} [Object α] [Managed α] {O : Outside α ω} {backends : Backend.Registry}

/-! ## Objects that come and go -/

/-- What was found is the object with a unique identifier. -/
def Shows (u : String) (found : Option α) : Prop := found.bind Object.uid? = some u

/-- A look at a key has shown the object with a unique identifier. -/
def Saw (k : ObjectKey) (u : String) (notes : List (Note α)) : Prop :=
  ∃ found initial, .lookedUp k found initial ∈ notes ∧ Shows u found

/-- A look at a key no longer showed the object with a unique identifier. -/
def Departed (k : ObjectKey) (u : String) (notes : List (Note α)) : Prop :=
  ∃ later found initial earlier, notes = later ++ .lookedUp k found initial :: earlier ∧
    ¬ Shows u found ∧ Saw k u earlier

/-- No object comes back to a key after it has departed. -/
def NoReturn (notes : List (Note α)) : Prop :=
  ∀ later k found initial earlier u, notes = later ++ .lookedUp k found initial :: earlier →
    Shows u found → ¬ Departed k u earlier

section looks

variable {k : ObjectKey} {u : String} {record : Option α} {notes : List (Note α)} {note : Note α}

/-- What was seen stays seen. -/
theorem Saw.cons (h : Saw k u notes) : Saw k u (note :: notes) := by
  obtain ⟨found, initial, mem, shows⟩ := h
  exact ⟨found, initial, List.mem_cons_of_mem _ mem, shows⟩

/-- What was seen earlier was seen. -/
theorem Saw.append (h : Saw k u notes) (more : List (Note α)) : Saw k u (more ++ notes) := by
  obtain ⟨found, initial, mem, shows⟩ := h
  exact ⟨found, initial, List.mem_append_right more mem, shows⟩

/-- What has departed stays departed. -/
theorem Departed.cons (h : Departed k u notes) : Departed k u (note :: notes) := by
  obtain ⟨later, found, initial, earlier, rfl, gone, saw⟩ := h
  exact ⟨note :: later, found, initial, earlier, rfl, gone, saw⟩

/-- What does not come back has not come back before the latest note. -/
theorem NoReturn.tail (h : NoReturn (note :: notes)) : NoReturn notes := by
  rintro later k found initial earlier u rfl
  exact h (note :: later) k found initial earlier u rfl

/-- Nor has it come back before some later notes. -/
theorem NoReturn.of_append {later : List (Note α)} (h : NoReturn (later ++ notes)) :
    NoReturn notes := by
  induction later with
  | nil => exact h
  | cons note later ih => exact ih h.tail

/-- If later looks show nothing, then no object comes back that did not come back before. -/
theorem NoReturn.append {later : List (Note α)} (h : NoReturn notes)
    (gone : ∀ k found initial, .lookedUp k found initial ∈ later → found.bind Object.uid? = none) :
    NoReturn (later ++ notes) := by
  rintro later' k' found' initial' earlier u split shows
  rcases List.append_eq_append_iff.1 split with ⟨more, rfl, rest⟩ | ⟨more, rfl, rest⟩
  · exact h more k' found' initial' earlier u rest shows
  · cases more with
    | nil => exact h [] k' found' initial' earlier u rest.symm shows
    | cons first more =>
      obtain ⟨rfl, -⟩ := List.cons_eq_cons.1 rest
      rw [Shows, gone k' found' initial' (by simp)] at shows
      simp at shows

/-- If every look shows one and the same object, then it never departs. -/
theorem noReturn_of_shown
    (shown : ∀ k found initial, .lookedUp k found initial ∈ notes → Shows u found) :
    NoReturn notes := by
  rintro later k' found initial earlier u' rfl - ⟨later', found', initial', earlier', rfl, gone, saw⟩
  obtain ⟨found₀, initial₀, mem, shows⟩ := saw
  have same : u' = u := Option.some.inj
    (shows.symm.trans (shown k' found₀ initial₀ (by simp [mem])))
  exact gone (same ▸ shown k' found' initial' (by simp))

/-- If only the first look shows an object, then none comes back. -/
theorem noReturn_of_once {later : List (Note α)} {found initial : Option α}
    (gone : ∀ k found initial, .lookedUp k found initial ∈ later → found = none) :
    NoReturn (later ++ [.lookedUp k found initial]) := by
  refine NoReturn.append ?_ fun k found initial mem => by simp [gone k found initial mem]
  rintro later' k' found' initial' earlier u split -
  have first : earlier = [] := by
    have length := congrArg List.length split
    simp only [List.length_append, List.length_cons, List.length_nil] at length
    exact List.eq_nil_of_length_eq_zero (by omega)
  rintro ⟨l, _, _, _, none, -⟩
  simp [first] at none

/-- What the latest attempt at a key found has been noted. -/
theorem found_attemptAt {found : α} (is : (attemptAt k record notes).found = some found) :
    ∃ initial, .lookedUp k (some found) initial ∈ notes := by
  induction notes with
  | nil => simp [attemptAt] at is
  | cons note notes ih =>
    rcases note.look_or_other k with ⟨found', initial, rfl⟩ | other
    · rw [attemptAt_lookedUp_self] at is
      exact ⟨initial, by rw [show found' = some found from is]; exact List.mem_cons_self⟩
    · rw [(found_attemptAt_cons other).1] at is
      exact (ih is).imp fun _ => List.mem_cons_of_mem _

/-- Every call of the latest attempt at a key has been noted. -/
theorem calls_attemptAt {made : Called} (mem : made ∈ (attemptAt k record notes).calls) :
    ∃ on, .called k made on ∈ notes := by
  obtain ⟨later, on, earlier, rfl, -⟩ := split_of_mem_calls mem
  exact ⟨on, by simp⟩

/-- What the latest attempt found was seen. -/
theorem saw_of_shows (shows : Shows u (attemptAt k record notes).found) : Saw k u notes := by
  obtain ⟨live, is, same⟩ := Option.bind_eq_some_iff.1 shows
  obtain ⟨initial, mem⟩ := found_attemptAt is
  exact ⟨some live, initial, mem, same⟩

/-- If an object was seen and the latest attempt did not find it, then the last look at the key was
one after which the object was gone. -/
theorem last_look (saw : Saw k u notes) (gone : ¬ Shows u (attemptAt k record notes).found) :
    ∃ later found initial earlier, notes = later ++ .lookedUp k found initial :: earlier ∧
      (∀ found initial, .lookedUp k found initial ∉ later) ∧ ¬ Shows u found ∧ Saw k u earlier := by
  induction notes with
  | nil =>
    obtain ⟨_, _, mem, -⟩ := saw
    exact absurd mem List.not_mem_nil
  | cons note notes ih =>
    obtain ⟨found, initial, mem, shows⟩ := saw
    rcases note.look_or_other k with ⟨found', initial', rfl⟩ | other
    · rw [attemptAt_lookedUp_self] at gone
      refine ⟨[], found', initial', notes, rfl, fun _ _ mem => absurd mem List.not_mem_nil, gone,
        found, initial, ?_, shows⟩
      rcases List.mem_cons.1 mem with same | earlier
      · obtain ⟨-, rfl, -⟩ := Note.lookedUp.inj same
        exact absurd shows gone
      · exact earlier
    · rw [(found_attemptAt_cons other).1] at gone
      have before := (List.mem_cons.1 mem).resolve_left fun same => other _ _ same.symm
      obtain ⟨later, f, i, earlier, rfl, none, rest⟩ := ih ⟨found, initial, before, shows⟩ gone
      refine ⟨note :: later, f, i, earlier, rfl, fun f' i' mem => ?_, rest⟩
      rcases List.mem_cons.1 mem with same | there
      · exact other f' i' same.symm
      · exact none f' i' there

/-- An object that was seen and that the latest attempt did not find has departed. -/
theorem departed_of_saw (saw : Saw k u notes)
    (gone : ¬ Shows u (attemptAt k record notes).found) : Departed k u notes := by
  obtain ⟨later, found, initial, earlier, split, -, rest⟩ := last_look saw gone
  exact ⟨later, found, initial, earlier, split, rest⟩

/-- An object that the latest attempt found has not departed. -/
theorem NoReturn.not_departed (h : NoReturn notes)
    (shows : Shows u (attemptAt k record notes).found) : ¬ Departed k u notes := by
  induction notes with
  | nil => simp [attemptAt, Shows] at shows
  | cons note notes ih =>
    rintro ⟨later, found, initial, earlier, split, gone, saw⟩
    -- the look that no longer showed the object is not the latest one
    cases later with
    | nil =>
      obtain ⟨rfl, -⟩ := List.cons_eq_cons.1 split
      rw [attemptAt_lookedUp_self] at shows
      exact gone shows
    | cons first later =>
      obtain ⟨-, rest⟩ := List.cons_eq_cons.1 split
      have departed : Departed k u notes := ⟨later, found, initial, earlier, rest, gone, saw⟩
      rcases note.look_or_other k with ⟨found', initial', rfl⟩ | other
      · rw [attemptAt_lookedUp_self] at shows
        exact h [] k found' initial' notes u rfl shows departed
      · rw [(found_attemptAt_cons other).1] at shows
        exact ih h.tail shows departed

end looks

/-! ## What is on record -/

/-- A version of an object has been noted at a key: a look showed it, or a status write told of
it. -/
def Noted (k : ObjectKey) (v : α) (notes : List (Note α)) : Prop :=
  (∃ initial, .lookedUp k (some v) initial ∈ notes) ∨
    ∃ made on, .called k made on ∈ notes ∧ made.confirmed? = some v

section story

variable {start o : ω} {records : Records α} {notes : List (Note α)} {k : ObjectKey}

/-- A version that was noted stays so. -/
theorem Noted.cons {v : α} {note : Note α} (h : Noted k v notes) : Noted k v (note :: notes) :=
  h.imp (fun ⟨initial, mem⟩ => ⟨initial, List.mem_cons_of_mem _ mem⟩)
    fun ⟨made, on, mem, told⟩ => ⟨made, on, List.mem_cons_of_mem _ mem, told⟩

/-- A version that was noted earlier was noted. -/
theorem Noted.append {v : α} (h : Noted k v notes) (more : List (Note α)) :
    Noted k v (more ++ notes) := by
  induction more with
  | nil => exact h
  | cons note more ih => exact ih.cons

/-- What a look showed is an object of the key. -/
theorem Story.found (story : Story O backends start records notes o) {live : α}
    {initial : Option α} (mem : .lookedUp k (some live) initial ∈ notes) :
    k.WellFormed ∧ ObjectKey.ofObject? live = some k ∧ (Object.uid? live).isSome := by
  obtain ⟨later, earlier, rfl⟩ := List.append_of_mem mem
  obtain ⟨_, _, _, -, entry⟩ := story.before
  cases entry with
  | lookedUp k found wellFormed shown rests =>
    obtain ⟨shown, place⟩ := shown live rfl
    exact ⟨wellFormed, place, O.identified shown⟩

/-- What the latest attempt found is an object of the key. -/
theorem Story.attempt_found (story : Story O backends start records notes o) {record : Option α}
    {live : α} (there : (attemptAt k record notes).found = some live) :
    ObjectKey.ofObject? live = some k ∧ (Object.uid? live).isSome := by
  obtain ⟨initial, mem⟩ := found_attemptAt there
  exact (story.found mem).2

/-- What is on record was noted when everything had been built for it. -/
theorem Story.recorded (story : Story O backends start records notes o) {obj : α}
    (is : records k = some obj) :
    isBuilt obj = true ∧ ObjectKey.ofObject? obj = some k ∧ Noted k obj notes ∧
      ∃ u, Object.uid? obj = some u ∧ Saw k u notes := by
  induction story with
  | start => simp at is
  | noted story entry ih =>
    obtain ⟨built, place, noted, u, identified, saw⟩ := ih is
    exact ⟨built, place, noted.cons, u, identified, saw.cons⟩
  | @remembered records notes o k' obj' story may ih =>
    by_cases here : k = k'
    · subst here
      rw [Function.update_self] at is
      obtain rfl := Option.some.inj is
      obtain ⟨live, there, sameUid, sameKey, known⟩ := may.known
      obtain ⟨place, identified⟩ := story.attempt_found there
      obtain ⟨u, named⟩ := Option.isSome_iff_exists.1 identified
      have shows : Shows u (attemptAt k (records k) notes).found :=
        Option.bind_eq_some_iff.2 ⟨live, there, named⟩
      refine ⟨may.built, sameKey.trans place, ?_, u, sameUid.trans named, saw_of_shows shows⟩
      rcases known with rfl | ⟨made, mem, told⟩
      · exact Or.inl (found_attemptAt there)
      · obtain ⟨on, noted⟩ := calls_attemptAt mem
        exact Or.inr ⟨made, on, noted, told⟩
    · rw [Function.update_of_ne here] at is
      exact ih is
  | @forgotten records notes o k' story may ih =>
    by_cases here : k = k'
    · subst here
      simp at is
    · rw [Function.update_of_ne here] at is
      exact ih is
  | drifted story drifts ih => exact ih is

end story

/-! ## What the server has stored -/

/-- The status of a version was written in an attempt that had found the object without one. -/
def Written (backends : Backend.Registry) (notes : List (Note α)) (v : α) : Prop :=
  ∃ k later made on earlier live status, notes = later ++ .called k made on :: earlier ∧
    Managed.written? made.call = some (live, status) ∧
    (attemptAt k on earlier).found = some live ∧ isBuilt live = false ∧
    Tends backends k live (attemptAt k on earlier).calls made.call ∧
    ObjectKey.ofObject? v = some k ∧ Object.uid? v = Object.uid? live ∧
    Managed.status? v = some status

/-- A version shows the status that an earlier one had. -/
def Inherited (past : List α) (v : α) : Prop :=
  ∃ v₀ ∈ past, isBuilt v₀ = true ∧ ObjectKey.ofObject? v = ObjectKey.ofObject? v₀ ∧
    Object.uid? v = Object.uid? v₀ ∧ Managed.status? v = Managed.status? v₀

/-- The notes are accounted for by what the server has stored, of which `past` was stored at
first. -/
structure Accounted (backends : Backend.Registry) (past : List α) (s : ApiServer α)
    (notes : List (Note α)) : Prop where
  /-- A status is written only to objects without one. -/
  sound : s.Sound
  /-- What was found was stored. -/
  found : ∀ k live initial, .lookedUp k (some live) initial ∈ notes →
    live ∈ s.past ∧ ObjectKey.ofObject? live = some k
  /-- What a status write told of is a version with a status. -/
  told : ∀ k made on obj, .called k made on ∈ notes → made.confirmed? = some obj →
    obj ∈ s.past ∧ isBuilt obj = true
  /-- Every status that is new was written in an attempt that had found none. -/
  written : ∀ v ∈ s.past, isBuilt v = true → Inherited past v ∨ Written backends notes v

section server

variable {server : ω → ApiServer α} {start o o' : ω} {records : Records α}
variable {notes : List (Note α)} {k : ObjectKey}

/-- A status that was written earlier was written. -/
theorem Written.append {v : α} (h : Written backends notes v) (more : List (Note α)) :
    Written backends (more ++ notes) v := by
  obtain ⟨k, later, made, on, earlier, live, status, rfl, rest⟩ := h
  exact ⟨k, more ++ later, made, on, earlier, live, status, (List.append_assoc _ _ _).symm, rest⟩

/-- A version that looks the same to the operator was written likewise. -/
theorem Written.congr {v v' : α} (h : Written backends notes v)
    (key : ObjectKey.ofObject? v' = ObjectKey.ofObject? v) (uid : Object.uid? v' = Object.uid? v)
    (status : Managed.status? v' = Managed.status? v) : Written backends notes v' := by
  obtain ⟨k, later, made, on, earlier, live, st, split, written, found, unbuilt, tends, rest⟩ := h
  refine ⟨k, later, made, on, earlier, live, st, split, written, found, unbuilt, tends, ?_⟩
  rwa [key, uid, status]

/-- Only the key, the unique identifier and the status of a version say whether it was inherited. -/
theorem Inherited.congr {past : List α} {v v' : α} (h : Inherited past v)
    (key : ObjectKey.ofObject? v' = ObjectKey.ofObject? v) (uid : Object.uid? v' = Object.uid? v)
    (status : Managed.status? v' = Managed.status? v) : Inherited past v' := by
  obtain ⟨v₀, mem, built, rest⟩ := h
  refine ⟨v₀, mem, built, ?_⟩
  rwa [key, uid, status]

/-- A status write that told of an object was made for a live object without a status, and what it
told of is that object with the status that was written. -/
theorem Story.writing {later earlier : List (Note α)} {made : Called} {on : Option α} {obj : α}
    (story : Story O backends start records (later ++ .called k made on :: earlier) o)
    (told : made.confirmed? = some obj) :
    ∃ live status, Managed.written? made.call = some (live, status) ∧
      (attemptAt k on earlier).found = some live ∧ Fits (some live) on ∧ isBuilt live = false ∧
      Tends backends k live (attemptAt k on earlier).calls made.call ∧
      ObjectKey.ofObject? obj = some k ∧ Object.uid? obj = Object.uid? live ∧
      Managed.status? obj = some status := by
  obtain ⟨before, _, _, past, entry⟩ := story.before
  cases entry with
  | called k made kept may answered =>
    obtain ⟨reply, is, confirmed⟩ := Option.bind_eq_some_iff.1 told
    obtain ⟨⟨copy, status⟩, written⟩ :=
      Option.isSome_iff_exists.1 (Managed.written_of_confirmed _ _ _ confirmed)
    obtain ⟨live, there, fits, tends⟩ := may.resolve_left fun ⟨old, _, _, removes, _⟩ => by
      simp [Managed.written_of_removal backends k old _ removes] at written
    obtain ⟨rfl, unbuilt, -⟩ :=
      Managed.written_of_tends backends k live _ _ copy status tends written
    rw [there, record_attemptAt] at fits
    rw [is] at answered
    obtain ⟨sameUid, sameKey, hasStatus⟩ := O.lawful answered obj copy status confirmed written
    exact ⟨copy, status, written, there, fits, unbuilt, tends,
      sameKey.trans (past.attempt_found there).1, sameUid, hasStatus⟩

/-- What a status write told of was written. -/
theorem Story.written_of_told (story : Story O backends start records notes o) {made : Called}
    {on : Option α} {obj : α} (mem : .called k made on ∈ notes) (told : made.confirmed? = some obj) :
    Written backends notes obj := by
  obtain ⟨later, earlier, rfl⟩ := List.append_of_mem mem
  obtain ⟨live, status, written, there, -, rest⟩ := story.writing told
  exact ⟨k, later, made, on, earlier, live, status, rfl, written, there, rest⟩

namespace Accounted

variable {past : List α} {s s' : ApiServer α}

/-- More may be noted and stored as long as it is accounted for. -/
theorem advances (h : Accounted backends past s notes) (later : List (Note α))
    (sound : s'.Sound) (kept : s.past ⊆ s'.past)
    (found : ∀ k live initial, .lookedUp k (some live) initial ∈ later →
      live ∈ s'.past ∧ ObjectKey.ofObject? live = some k)
    (told : ∀ k made on obj, .called k made on ∈ later → made.confirmed? = some obj →
      obj ∈ s'.past ∧ isBuilt obj = true)
    (written : ∀ v ∈ s'.past, v ∈ s.past ∨
      (isBuilt v = true → Inherited past v ∨ Written backends (later ++ notes) v)) :
    Accounted backends past s' (later ++ notes) where
  sound := sound
  found k live initial mem := by
    rcases List.mem_append.1 mem with new | earlier
    · exact found k live initial new
    · exact (h.found k live initial earlier).imp_left (kept ·)
  told k made on obj mem is := by
    rcases List.mem_append.1 mem with new | earlier
    · exact told k made on obj new is
    · exact (h.told k made on obj earlier is).imp_left (kept ·)
  written v mem built := by
    rcases written v mem with earlier | new
    · exact (h.written v earlier built).imp_right (·.append later)
    · exact new built

/-- Whatever others do to the server, the notes are accounted for. -/
theorem changes (h : Accounted backends past s notes) (changes : s.Changes s') :
    Accounted backends past s' notes := by
  refine h.advances [] (h.sound.changes changes) changes.past (fun _ _ _ mem => nomatch mem)
    (fun _ _ _ _ mem => nomatch mem) fun v mem => ?_
  cases changes with
  | created k obj absent fresh identified new blank =>
    rcases List.mem_cons.1 mem with rfl | earlier
    · exact Or.inr fun built => by simp [isBuilt, blank] at built
    · exact Or.inl earlier
  | edited k old obj there fresh same kept =>
    rcases List.mem_cons.1 mem with rfl | earlier
    · obtain ⟨known, place⟩ := h.sound.stored k old there
      have key := fresh.1.trans place.symm
      refine Or.inr fun built => ?_
      have before : isBuilt old = true := (isBuilt_congr kept).symm.trans built
      exact (h.written old known before).imp (·.congr key same kept) (·.congr key same kept)
    · exact Or.inl earlier
  | removed k => exact Or.inl mem

/-- What the latest attempt at a key found is a version of the key. -/
theorem attempt_found (h : Accounted backends past s notes) {record : Option α} {live : α}
    (there : (attemptAt k record notes).found = some live) :
    live ∈ s.past ∧ ObjectKey.ofObject? live = some k := by
  obtain ⟨initial, mem⟩ := found_attemptAt there
  exact h.found k live initial mem

/-- What has been noted was stored. -/
theorem noted (h : Accounted backends past s notes) {v : α} (noted : Noted k v notes) :
    v ∈ s.past := by
  rcases noted with ⟨initial, mem⟩ | ⟨made, on, mem, told⟩
  · exact (h.found k v initial mem).1
  · exact (h.told k made on v mem told).1

/-- If no status was stored at first, every status was written. -/
theorem written_of_blank (h : Accounted backends past s notes)
    (blank : ∀ v ∈ past, isBuilt v = false) {v : α} (mem : v ∈ s.past) (built : isBuilt v = true) :
    Written backends notes v := by
  refine (h.written v mem built).resolve_left ?_
  rintro ⟨v₀, mem₀, is, -⟩
  simp [blank v₀ mem₀] at is

/-- A call is made that the attempt may make. -/
theorem called (h : Accounted backends past s notes) {made : Called}
    (may : (attemptAt k (records k) notes).Removes backends k made.call ∨
      (attemptAt k (records k) notes).Attends backends k made.call)
    (answered : s.Answers made.call made.reply s') :
    Accounted backends past s' (.called k made (records k) :: notes) := by
  have advances (sound : s'.Sound) (kept : s.past ⊆ s'.past)
      (told : ∀ obj, made.confirmed? = some obj → obj ∈ s'.past ∧ isBuilt obj = true)
      (written : ∀ v ∈ s'.past, v ∈ s.past ∨ (isBuilt v = true → Inherited past v ∨
        Written backends (.called k made (records k) :: notes) v)) :
      Accounted backends past s' (.called k made (records k) :: notes) := by
    refine h.advances [.called k made (records k)] sound kept (by simp) ?_ written
    intro k' made' on obj mem is
    obtain ⟨-, rfl, -⟩ := Note.called.inj (List.mem_singleton.1 mem)
    exact told obj is
  rcases answered.cases with ⟨rfl, silent⟩ | ⟨copy, status, k', obj, written, accepts, rfl, told⟩
  · exact advances h.sound (List.Subset.refl _)
      (fun obj is => by simp [Called.confirmed?, silent] at is) fun v mem => Or.inl mem
  -- a status is written only for the live object
  have tends : ∃ live, (attemptAt k (records k) notes).found = some live ∧
      Tends backends k live (attemptAt k (records k) notes).calls made.call := by
    rcases may with ⟨old, -, -, removes, -⟩ | ⟨live, there, -, tends⟩
    · rw [Managed.written_of_removal backends k old made.call removes] at written
      simp at written
    · exact ⟨live, there, tends⟩
  obtain ⟨live, there, tends⟩ := tends
  obtain ⟨rfl, unbuilt, built⟩ :=
    Managed.written_of_tends backends k live _ made.call copy status tends written
  obtain ⟨known, place⟩ := h.attempt_found there
  obtain rfl : k' = k := Option.some.inj (accepts.current.1.symm.trans place)
  refine advances (h.sound.accepts known unbuilt built accepts) (s.past_put k' obj) ?_ fun v mem => ?_
  · intro o is
    obtain rfl := told o is
    exact ⟨List.mem_cons_self, isBuilt_of_status accepts.written built⟩
  · rcases List.mem_cons.1 mem with rfl | earlier
    · exact Or.inr fun _ => Or.inr ⟨k', [], made, records k', notes, copy, status, rfl, written,
        there, unbuilt, tends, accepts.fresh.1, accepts.same.1, accepts.written⟩
    · exact Or.inl earlier

end Accounted

/-- **Everything is accounted for**. -/
theorem Story.accounted (hosts : O.Hosts server) (sound : (server start).Sound)
    (story : Story O backends start records notes o) :
    Accounted backends (server start).past (server o) notes := by
  induction story with
  | start =>
    refine ⟨sound, ?_, ?_, ?_⟩
    · exact fun _ _ _ mem => absurd mem List.not_mem_nil
    · exact fun _ _ _ _ mem => absurd mem List.not_mem_nil
    · exact fun v mem built => Or.inl ⟨v, mem, built, rfl, rfl, rfl⟩
  | @noted records notes note o o' story entry ih =>
    have silent : ∀ note : Note α, (∀ k live initial, note = .lookedUp k (some live) initial →
        live ∈ (server o).past ∧ ObjectKey.ofObject? live = some k) →
        (∀ k made on, note ≠ .called k made on) →
        Accounted backends (server start).past (server o) (note :: notes) := by
      intro note found none
      refine ih.advances [note] ih.sound (List.Subset.refl _) ?_ ?_ fun v mem => Or.inl mem
      · exact fun k live initial mem => found k live initial (List.mem_singleton.1 mem).symm
      · exact fun k made on obj mem => absurd (List.mem_singleton.1 mem).symm (none k made on)
    cases entry with
    | lookedUp k found wellFormed shown rests =>
      refine silent _ (fun k' live initial same => ?_) (by simp)
      obtain ⟨rfl, rfl, -⟩ := Note.lookedUp.inj same
      exact (shown live rfl).imp_left hosts.shows
    | called k made kept may answered => exact ih.called may (hosts.answers answered)
    | finished k outcome ends => exact silent _ (by simp) (by simp)
  | remembered story may ih => exact ih
  | forgotten story may ih => exact ih
  | drifted story drifts ih =>
    rcases hosts.drifts drifts with same | changes
    · rw [same]
      exact ih
    · exact ih.changes changes

end server

end BucketProvisioning.Engine
