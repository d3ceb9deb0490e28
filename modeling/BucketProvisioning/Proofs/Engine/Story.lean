import BucketProvisioning.Proofs.Engine.Outside

/-!
# What is known of a run hangs together

Many workers take turns, and between any two steps of one of them anything can happen elsewhere.
Nevertheless the notes of a run read as if the reconciles of each key were carried out one after
the other, each as `Conducts` says: a `Story` is made of records, notes and a world outside alone,
and says of every note that it may be there.  `story_of_run` says that every run tells a story.
So what is to be shown of runs need only be shown of stories, of which there are few cases.

`Guided` is what carries the proof: whoever has looked a key up and is still busy is in the middle
of an attempt that keeps to what it may do, and an attempt that is over has left things in order.
-/

set_option autoImplicit false
set_option linter.unusedSectionVars false

namespace BucketProvisioning.Engine

open BucketProvisioning BucketProvisioning.Reconcile BucketProvisioning.Watch
open BucketProvisioning.Queue
open BucketProvisioning.Resource (Object)

variable {α ω : Type} [Object α] [Managed α] {O : Outside α ω} {backends : Backend.Registry}
variable {reconcile : String → Program α (Except Failure Unit)} {count : Nat}

/-- An attempt is over and has left things in order. -/
structure Rests (a : Attempt α) : Prop where
  /-- The record is none, or one of the object that was found. -/
  fits : Fits a.found a.record
  /-- What was confirmed is on record. -/
  kept : a.Kept

/-! ## Stories -/

/-- What is on record for each key. -/
abbrev Records (α : Type) := ObjectKey → Option α

/-- A note may be made, whereupon the world outside may be in a state. -/
inductive Entry (O : Outside α ω) (backends : Backend.Registry) (records : Records α)
    (notes : List (Note α)) (o : ω) : Note α → ω → Prop
  /-- A key is looked up, the attempt before being over; what is found has been reported. -/
  | lookedUp (k : ObjectKey) (found : Option α) (wellFormed : k.WellFormed)
      (shown : ∀ obj, found = some obj → O.shows o obj ∧ ObjectKey.ofObject? obj = some k)
      (rests : Rests (attemptAt k (records k) notes)) :
      Entry O backends records notes o (.lookedUp k found (records k)) o
  /-- A call is made that the attempt may make. -/
  | called (k : ObjectKey) (made : Called) {o' : ω} (kept : (attemptAt k (records k) notes).Kept)
      (may : (attemptAt k (records k) notes).Removes backends k made.call ∨
        (attemptAt k (records k) notes).Attends backends k made.call)
      (answered : O.answers o made.call made.reply o') :
      Entry O backends records notes o (.called k made (records k)) o'
  /-- An attempt ends. -/
  | finished (k : ObjectKey) (outcome : Except Failure Unit)
      (ends : Ends backends k outcome (attemptAt k (records k) notes)) :
      Entry O backends records notes o (.finished k outcome) o

/-- What is on record, what is known and what is the case outside, as it may have come about. -/
inductive Story (O : Outside α ω) (backends : Backend.Registry) (start : ω) :
    Records α → List (Note α) → ω → Prop
  /-- At first there is nothing on record. -/
  | start : Story O backends start (fun _ => none) [] start
  /-- A note is made. -/
  | noted {records : Records α} {notes : List (Note α)} {note : Note α} {o o' : ω}
      (story : Story O backends start records notes o)
      (entry : Entry O backends records notes o note o') :
      Story O backends start records (note :: notes) o'
  /-- An object is put on record. -/
  | remembered {records : Records α} {notes : List (Note α)} {o : ω} {k : ObjectKey} {obj : α}
      (story : Story O backends start records notes o)
      (may : (attemptAt k (records k) notes).Remembers obj) :
      Story O backends start (Function.update records k (some obj)) notes o
  /-- A record is taken away. -/
  | forgotten {records : Records α} {notes : List (Note α)} {o : ω} {k : ObjectKey}
      (story : Story O backends start records notes o)
      (may : (attemptAt k (records k) notes).Forgets backends k) :
      Story O backends start (Function.update records k none) notes o
  /-- Something changes outside. -/
  | drifted {records : Records α} {notes : List (Note α)} {o o' : ω}
      (story : Story O backends start records notes o) (drifts : O.drifts o o') :
      Story O backends start records notes o'

/-- Every note could be made at its time. -/
theorem Story.before {start o : ω} {records : Records α} {later notes : List (Note α)}
    {note : Note α} (story : Story O backends start records (later ++ note :: notes) o) :
    ∃ records' o₁ o₂, Story O backends start records' notes o₁ ∧
      Entry O backends records' notes o₁ note o₂ := by
  generalize all : later ++ note :: notes = whole at story
  induction story generalizing later with
  | start => simp at all
  | @noted records _ note' o o' story entry ih =>
    cases later with
    | nil =>
      obtain ⟨rfl, rfl⟩ := List.cons_eq_cons.1 all
      exact ⟨records, o, o', story, entry⟩
    | cons first later =>
      obtain ⟨-, rest⟩ := List.cons_eq_cons.1 all
      exact ih rest
  | remembered story may ih => exact ih all
  | forgotten story may ih => exact ih all
  | drifted story drifts ih => exact ih all

namespace Desk

/-- What is known of the latest attempt at a key of a desk. -/
def attempt (d : Desk α) (notes : List (Note α)) (k : ObjectKey) : Attempt α :=
  attemptAt k (d.record? k) notes

/-! ## Attempts in progress -/

/-- A worker is on its way with a text: it has not looked the key up yet, and the attempt before is
over, or the rest of the program keeps to what the attempt may do. -/
structure Underway (backends : Backend.Registry)
    (reconcile : String → Program α (Except Failure Unit)) (d : Desk α) (notes : List (Note α))
    (text : String) (rest : Program α (Except Failure Unit)) : Prop where
  /-- A key is about to be looked up, or has been and is being attended to. -/
  attending : ∀ k, ObjectKey.parse text = .ok k →
    (rest = reconcile text ∧ Rests (d.attempt notes k)) ∨
      rest.Ensures (conduct backends k) (d.attempt notes k) (Ends backends k)
  /-- A text that is no key is being dropped. -/
  dropping : ∀ e, ObjectKey.parse text = .error e → ∃ outcome, rest = .done outcome

/-- What holds at every moment between the workers, the records and the notes. -/
structure Guided (backends : Backend.Registry)
    (reconcile : String → Program α (Except Failure Unit)) (d : Desk α) (notes : List (Note α)) :
    Prop where
  /-- Every worker is on its way. -/
  working : ∀ i text rest, d.worker? i = some (.busy text rest) →
    Underway backends reconcile d notes text rest
  /-- The attempts at a key on which nobody works are over. -/
  resting : ∀ k, d.Unattended k → Rests (d.attempt notes k)

/-- A key that was never looked up rests. -/
theorem rests_nothing (k : ObjectKey) : Rests (attemptAt k (none : Option α) []) :=
  ⟨fits_none _, fun _ mem => absurd mem List.not_mem_nil⟩

/-- Nobody works at first. -/
theorem guided_opening (policy : RetryPolicy) :
    (opening policy ({} : Stores α)).Guided backends reconcile [] where
  working := by simp [opening, worker?]
  resting k _ := rests_nothing k

namespace Guided

variable {d d' : Desk α} {notes notes' : List (Note α)}

/-- A step that concerns no attempt and changes no worker. -/
theorem of_untouched (h : d.Guided backends reconcile notes) (workers : d'.workers = d.workers)
    (untouched : ∀ k, d'.attempt notes' k = d.attempt notes k) :
    d'.Guided backends reconcile notes' where
  working := by
    intro i text rest is
    have before := h.working i text rest (by simpa [worker?, workers] using is)
    refine ⟨fun k read => ?_, before.dropping⟩
    rw [untouched k]
    exact before.attending k read
  resting := by
    intro k free
    rw [untouched k]
    exact h.resting k fun i w text is => free i w text (by simpa [worker?, workers] using is)

/-- A worker takes a step.  It concerns no attempt but that at the key on which the worker works;
the worker is on its way afterwards if it is busy; and if it is finished with the key, the attempt
is over. -/
theorem turn (h : d.Guided backends reconcile notes) (order : d.Exclusive) {i : Nat}
    {w w' : Worker α} (was : d.worker? i = some w) {queue : RetryQueue String} {stores : Stores α}
    (same : d' = { d with queue, stores }.setWorker i w')
    (others : ∀ k, (∀ text, w.begun? = some text → ObjectKey.parse text ≠ .ok k) →
      d'.attempt notes' k = d.attempt notes k)
    (mine : ∀ text rest, w' = .busy text rest → Underway backends reconcile d' notes' text rest)
    (settles : ∀ text k, w.begun? = some text → ObjectKey.parse text = .ok k →
      w'.begun? = some text ∨ Rests (d'.attempt notes' k)) :
    d'.Guided backends reconcile notes' := by
  have worker : ∀ j, d'.worker? j = if j = i then some w' else d.worker? j := by
    intro j
    rw [same]
    exact worker?_setWorker (d := { d with queue, stores }) was w' j
  -- another worker works on another key
  have apart : ∀ j v text k, j ≠ i → d.worker? j = some v → v.begun? = some text →
      ObjectKey.parse text = .ok k → d'.attempt notes' k = d.attempt notes k := by
    intro j v text k other is begun read
    refine others k fun text' begun' read' => other ?_
    have texts : text' = text :=
      (ObjectKey.text_of_parse read').symm.trans (ObjectKey.text_of_parse read)
    refine order.apart j i text ?_ ?_
    · rw [keyOf?_of_worker is]
      exact Worker.key?_of_begun? begun
    · rw [keyOf?_of_worker was, ← texts]
      exact Worker.key?_of_begun? begun'
  refine ⟨?_, ?_⟩
  · intro j text rest is
    rw [worker] at is
    split at is
    · exact mine text rest (Option.some.inj is)
    · rename_i other
      have before := h.working j text rest is
      refine ⟨fun k read => ?_, before.dropping⟩
      rw [apart j _ text k other is rfl read]
      exact before.attending k read
  · intro k free
    by_cases working : ∃ text, w.begun? = some text ∧ ObjectKey.parse text = .ok k
    · obtain ⟨text, begun, read⟩ := working
      rcases settles text k begun read with going | rests
      · exact absurd read (free i w' text (by rw [worker, if_pos rfl]) going)
      · exact rests
    · rw [others k fun text begun read => working ⟨text, begun, read⟩]
      refine h.resting k fun j v text is begun read => ?_
      by_cases here : j = i
      · rw [here, was] at is
        exact working ⟨text, Option.some.inj is ▸ begun, read⟩
      · exact free j v text (by rw [worker, if_neg here, is]) begun read

/-- A worker without a key turns to something else without one. -/
theorem turned (h : d.Guided backends reconcile notes) (order : d.Exclusive) {i : Nat}
    {w w' : Worker α} (was : d.worker? i = some w) (idle : w.begun? = none)
    (idle' : w'.begun? = none) (queue : RetryQueue String) :
    ({ d with queue }.setWorker i w').Guided backends reconcile notes := by
  refine h.turn order was rfl (fun k _ => rfl) ?_ ?_
  · rintro text rest rfl
    simp [Worker.begun?] at idle'
  · intro text k begun
    simp [idle] at begun

/-- A worker is handed a key, on which nobody has been working. -/
theorem took (h : d.Guided backends reconcile notes) (order : d.Exclusive)
    (conducts : Conducts backends reconcile) {i : Nat} {queue : RetryQueue String} {key : String}
    (was : d.worker? i = some .listening)
    (takes : d.queue.keys.take? = some (key, queue.keys)) :
    ({ d with queue }.setWorker i (.busy key (reconcile key))).Guided backends reconcile notes := by
  refine h.turn order was rfl (fun k _ => rfl) ?_ (by simp [Worker.begun?])
  rintro _ _ ⟨⟩
  refine ⟨fun k read => Or.inl ⟨rfl, h.resting k ?_⟩, fun e read => conducts.drops key e read⟩
  intro j v text is begun read'
  obtain ⟨-, rest, first, -⟩ := WorkQueue.take?_eq_some.1 takes
  have same : text = key :=
    (ObjectKey.text_of_parse read').symm.trans (ObjectKey.text_of_parse read)
  have holds : d.keyOf? j = some key := by
    rw [keyOf?_of_worker is, ← same]
    exact Worker.key?_of_begun? begun
  exact order.keys.waiting_idle key (by simp [first]) (order.held j key holds)

/-- Whoever makes a request other than a look into the cache makes it in an attempt at a key, and
the attempt may make it. -/
theorem asks (h : d.Guided backends reconcile notes) (conducts : Conducts backends reconcile)
    {i : Nat} {text : String} {r : Request α} {next : r.Reply → Program α (Except Failure Unit)}
    (was : d.worker? i = some (.busy text (.ask r next))) (sees : ∀ k, r ≠ .store (.lookup k)) :
    ∃ k, ObjectKey.parse text = .ok k ∧
      (Program.ask r next).Ensures (conduct backends k) (d.attempt notes k) (Ends backends k) := by
  have way := h.working i text _ was
  cases read : ObjectKey.parse text with
  | error e =>
    obtain ⟨outcome, same⟩ := way.dropping e read
    simp at same
  | ok k =>
    refine ⟨k, rfl, ?_⟩
    rcases way.attending k read with ⟨whole, -⟩ | ensured
    · obtain ⟨_, looks, -⟩ := conducts.conducts text k read
      rw [looks] at whole
      exact absurd (Program.ask.inj whole).1 (sees k)
    · exact ensured

/-- Every call is made for a key. -/
theorem key_of_made (h : d.Guided backends reconcile notes) (conducts : Conducts backends reconcile)
    {happening : Happening α} {text : String} {made : Called}
    (is : d.made? happening = some (text, made)) : ∃ k, ObjectKey.parse text = .ok k := by
  have asks {i : Nat} {c : Call} {next : Except Failure c.Result → Program α (Except Failure Unit)}
      (was : d.worker? i = some (.busy text (.ask (.call c) next))) :=
    (h.asks conducts was (by simp)).imp fun _ => And.left
  unfold made? at is
  split at is
  · split at is
    · obtain ⟨rfl, -⟩ := Prod.mk.inj (Option.some.inj is)
      exact asks ‹_›
    · simp at is
  · split at is
    · obtain ⟨rfl, -⟩ := Prod.mk.inj (Option.some.inj is)
      exact asks ‹_›
    · simp at is
  · simp at is

/-- The program of a key goes on after a request other than a look into the cache. -/
theorem proceeded (h : d.Guided backends reconcile notes) (order : d.Exclusive) {i : Nat}
    {text : String} {k : ObjectKey} {w : Worker α} {rest : Program α (Except Failure Unit)}
    (was : d.worker? i = some w) (begun : w.begun? = some text)
    (read : ObjectKey.parse text = .ok k) (stores : Stores α)
    (others : ∀ k', k' ≠ k →
      ({ d with stores }.setWorker i (.busy text rest)).attempt notes' k' = d.attempt notes k')
    (ensured : rest.Ensures (conduct backends k)
      (({ d with stores }.setWorker i (.busy text rest)).attempt notes' k) (Ends backends k)) :
    ({ d with stores }.setWorker i (.busy text rest)).Guided backends reconcile notes' := by
  refine h.turn order was rfl ?_ ?_ (fun text' k' begun' _ => Or.inl ?_)
  · intro k' other
    refine others k' ?_
    rintro rfl
    exact other text begun read
  · rintro _ _ ⟨⟩
    refine ⟨fun k' read' => Or.inr ?_, fun e read' => by simp [read] at read'⟩
    obtain rfl : k = k' := Except.ok.inj (read.symm.trans read')
    exact ensured
  · obtain rfl := Option.some.inj (begun.symm.trans begun')
    rfl

/-- A worker breaks down, and nobody ever works on its key again. -/
theorem lost (h : d.Guided backends reconcile notes) (order : d.Exclusive) {i : Nat}
    {text : String} {rest : Program α (Except Failure Unit)}
    (was : d.worker? i = some (.busy text rest))
    (others : ∀ k, ObjectKey.parse text ≠ .ok k → (d.lose i text).attempt notes' k =
      d.attempt notes k) :
    (d.lose i text).Guided backends reconcile notes' := by
  refine h.turn order was rfl (fun k other => others k (other text rfl)) nofun ?_
  intro text' k begun _
  exact Or.inl begun

end Guided

/-! ## Every run tells a story -/

/-- What holds of a run at every moment. -/
structure Upheld (O : Outside α ω) (backends : Backend.Registry)
    (reconcile : String → Program α (Except Failure Unit)) (start : ω) (d : Desk α)
    (notes : List (Note α)) (o : ω) : Prop where
  /-- Queue and workers agree. -/
  order : d.Exclusive
  /-- Every object at the desk has been reported. -/
  holds : d.Holds (O.shows o)
  /-- Every cached object is in its place. -/
  inPlace : d.InPlace
  /-- Whoever works keeps to what he may do. -/
  guided : d.Guided backends reconcile notes
  /-- The notes read as a story. -/
  story : Story O backends start d.record? notes o

namespace Upheld

variable {start o o' : ω} {d d' : Desk α} {notes : List (Note α)}

/-- A step about which there is nothing to note. -/
theorem unnoted (h : Upheld O backends reconcile start d notes o) {happening : Happening α}
    (explained : O.Explains o d happening o') (s : Step reconcile count d happening d')
    (silent : d.made? happening = none) (none : d.note? happening = none)
    (records : d'.record? = d.record?) (guided : d'.Guided backends reconcile notes) :
    Upheld O backends reconcile start d' ((d.note? happening).toList ++ notes) o' := by
  obtain rfl := explained.same silent
  rw [none]
  refine ⟨h.order.step s, h.holds.step explained.1 s, h.inPlace.step s, guided, ?_⟩
  rw [records]
  exact h.story

/-- A step that is noted. -/
theorem noted (h : Upheld O backends reconcile start d notes o) {happening : Happening α}
    (explained : O.Explains o d happening o') (s : Step reconcile count d happening d')
    (note : Note α) (is : d.note? happening = some note)
    (records : d'.record? = d.record?)
    (guided : d'.Guided backends reconcile (note :: notes))
    (entry : Entry O backends d.record? notes o note o') :
    Upheld O backends reconcile start d' ((d.note? happening).toList ++ notes) o' := by
  rw [is]
  refine ⟨h.order.step s, (h.holds.step explained.1 s).mono fun _ => explained.shows,
    h.inPlace.step s, guided, ?_⟩
  rw [records]
  exact h.story.noted entry

/-- A worker without a key does something. -/
theorem free (h : Upheld O backends reconcile start d notes o) {i : Nat} {reply : Replies}
    (explained : O.Explains o d (.move (.work i reply)) o')
    (s : Step reconcile count d (.move (.work i reply)) d') {w : Worker α}
    (was : d.worker? i = some w) (free : w.key? = none) (records : d'.record? = d.record?)
    (guided : d'.Guided backends reconcile notes) :
    Upheld O backends reconcile start d' ((d.note? (.move (.work i reply))).toList ++ notes) o' :=
  h.unnoted explained s (made?_of_free was free) (note?_of_free was free) records guided

/-- A worker looks a key up: a new attempt begins. -/
theorem lookedUp (h : Upheld O backends reconcile start d notes o)
    (conducts : Conducts backends reconcile) {i : Nat} {reply : Replies} {text : String}
    {k : ObjectKey} {next : Except Failure (Option α) → Program α (Except Failure Unit)}
    (explained : O.Explains o d (.move (.work i reply)) o')
    (s : Step reconcile count d (.move (.work i reply)) (d.access i text (.lookup k) next))
    (was : d.worker? i = some (.busy text (.ask (.store (.lookup k)) next))) :
    Upheld O backends reconcile start (d.access i text (.lookup k) next)
      ((d.note? (.move (.work i reply))).toList ++ notes) o' := by
  have way := h.guided.working i text _ was
  have sync := h.order.synced (ne_nil_of_worker was)
  have silent : d.made? (.move (.work i reply)) = none := by simp [made?, was]
  obtain rfl := explained.same silent
  cases read : ObjectKey.parse text with
  | error e =>
    obtain ⟨outcome, same⟩ := way.dropping e read
    simp at same
  | ok k' =>
    obtain ⟨whole, rests⟩ := (way.attending k' read).resolve_right fun ensured => ensured.1
    obtain ⟨next', looks, ensures⟩ := conducts.conducts text k' read
    rw [looks] at whole
    obtain ⟨request, same⟩ := Program.ask.inj whole
    obtain rfl : k = k' := by simpa using request
    obtain rfl := eq_of_heq same
    -- the workers run over a complete cache, so the look finds what is there
    have found : d.stores.cache.lookup k = .ok (d.stores.cache.objects.get? k) :=
      Cache.lookup_of_synced sync k
    refine h.noted explained s
      (.lookedUp k (d.stores.cache.objects.get? k) (d.record? k))
      (by simp [note?, made?, was, found, Except.toOption]) rfl ?_ ?_
    · refine h.guided.proceeded h.order was rfl read d.stores ?_ ?_
      · intro k' other
        exact attemptAt_of_other other.symm
      · show (next (d.stores.cache.lookup k)).Ensures _ (attemptAt k (d.record? k)
          (.lookedUp k (d.stores.cache.objects.get? k) (d.record? k) :: notes)) _
        rw [found, attemptAt_lookedUp_self]
        refine ensures _ _ (fun obj is => O.identified (h.holds.cached k obj is)) ?_
        have fits := rests.fits
        rw [show (d.attempt notes k).record = d.record? k from record_attemptAt] at fits
        exact fits.identified
    · refine .lookedUp k _ (ObjectKey.parse_eq_ok.1 read).1 (fun obj is => ?_) rests
      exact ⟨h.holds.cached k obj is, h.inPlace.cached k obj is⟩

/-- An access to the records sets that of the key to what the attempt makes of it. -/
theorem recorded (h : Upheld O backends reconcile start d notes o) {i : Nat} {reply : Replies}
    {text : String} {k : ObjectKey} {a : StoreAccess α}
    {next : a.Reply → Program α (Except Failure Unit)} {record : Option α}
    (explained : O.Explains o d (.move (.work i reply)) o')
    (s : Step reconcile count d (.move (.work i reply)) (d.access i text a next))
    (was : d.worker? i = some (.busy text (.ask (.store a) next)))
    (unnoted : d.note? (.move (.work i reply)) = none) (read : ObjectKey.parse text = .ok k)
    (mine : (d.stores.answer a).2.records.get? k = record)
    (others : ∀ k', k' ≠ k → (d.stores.answer a).2.records.get? k' = d.record? k')
    (ensures : (next (d.stores.answer a).1).Ensures (conduct backends k)
      { d.attempt notes k with record } (Ends backends k))
    (story : Story O backends start (Function.update d.record? k record) notes o) :
    Upheld O backends reconcile start (d.access i text a next)
      ((d.note? (.move (.work i reply))).toList ++ notes) o' := by
  have silent : d.made? (.move (.work i reply)) = none := by simp [made?, was]
  obtain rfl := explained.same silent
  rw [unnoted]
  refine ⟨h.order.step s, h.holds.step explained.1 s, h.inPlace.step s, ?_, ?_⟩
  · refine h.guided.proceeded h.order was rfl read (d.stores.answer a).2 ?_ ?_
    · intro k' other
      exact congrArg (attemptAt k' · notes) (others k' other)
    · have moved : (d.access i text a next).attempt notes k =
          { d.attempt notes k with record } := by
        show attemptAt k ((d.stores.answer a).2.records.get? k) notes = _
        rw [mine]
        exact attemptAt_record record
      show Program.Ensures _ _ ((d.access i text a next).attempt notes k) _
      rw [moved]
      exact ensures
  · have moved : (d.access i text a next).record? = Function.update d.record? k record := by
      funext k'
      by_cases here : k' = k
      · rw [here, Function.update_self]
        exact mine
      · rw [Function.update_of_ne here]
        exact others k' here
    show Story O backends start (d.access i text a next).record? notes _
    rw [moved]
    exact story

/-- The program of a key reads or writes the records. -/
theorem accessed (h : Upheld O backends reconcile start d notes o)
    (conducts : Conducts backends reconcile) {i : Nat} {reply : Replies} {text : String}
    {a : StoreAccess α} {next : a.Reply → Program α (Except Failure Unit)}
    (explained : O.Explains o d (.move (.work i reply)) o')
    (s : Step reconcile count d (.move (.work i reply)) (d.access i text a next))
    (was : d.worker? i = some (.busy text (.ask (.store a) next))) :
    Upheld O backends reconcile start (d.access i text a next)
      ((d.note? (.move (.work i reply))).toList ++ notes) o' := by
  by_cases looks : ∃ k, a = .lookup k
  · obtain ⟨k, rfl⟩ := looks
    exact h.lookedUp conducts explained s was
  have unnoted : d.note? (.move (.work i reply)) = none := by
    cases a <;> first | exact absurd ⟨_, rfl⟩ looks | simp [note?, made?, was]
  obtain ⟨k, read, allowed, later⟩ := h.guided.asks conducts was fun k same =>
    looks ⟨k, by simpa using same⟩
  cases a with
  | lookup k' => exact absurd ⟨k', rfl⟩ looks
  | recordOf k' =>
    obtain rfl : k' = k := allowed
    have same : { d.attempt notes k' with record := d.record? k' } = d.attempt notes k' :=
      (attemptAt_record _).symm
    have kept : (d.stores.answer (.recordOf k')).2.records.get? k' = d.record? k' := rfl
    refine h.recorded explained s was unnoted read kept (fun _ _ => rfl) (later _ _ ⟨?_, same⟩) ?_
    · exact record_attemptAt.symm
    · rw [Function.update_eq_self]
      exact h.story
  | remember k' obj =>
    obtain ⟨rfl, may⟩ := allowed
    exact h.recorded explained s was unnoted read (Table.get?_insert_self _ _ _)
      (fun _ other => Table.get?_insert_of_ne _ _ other) (later _ _ rfl) (h.story.remembered may)
  | forget k' =>
    obtain ⟨rfl, may⟩ := allowed
    exact h.recorded explained s was unnoted read (Table.get?_erase_self _ _)
      (fun _ other => Table.get?_erase_of_ne _ other) (later _ _ rfl) (h.story.forgotten may)

/-- A call of the program of a key is answered. -/
theorem called (h : Upheld O backends reconcile start d notes o)
    (conducts : Conducts backends reconcile) {i : Nat} {reply : Replies} {text : String} {c : Call}
    {next : Except Failure c.Result → Program α (Except Failure Unit)}
    (explained : O.Explains o d (.move (.work i reply)) o')
    (s : Step reconcile count d (.move (.work i reply))
      (d.setWorker i (.busy text (next (reply c)))))
    (was : d.worker? i = some (.busy text (.ask (.call c) next))) :
    Upheld O backends reconcile start (d.setWorker i (.busy text (next (reply c))))
      ((d.note? (.move (.work i reply))).toList ++ notes) o' := by
  obtain ⟨k, read, ⟨kept, may⟩, later⟩ := h.guided.asks conducts was (by simp)
  have made : d.made? (.move (.work i reply)) = some (text, ⟨c, some (reply c)⟩) := by
    simp [made?, was]
  have answered := explained.answered made
  refine h.noted explained s (.called k ⟨c, some (reply c)⟩ (d.record? k))
    (by simp [note?, made, read, Except.toOption]) rfl ?_ (.called k _ kept may answered)
  refine h.guided.proceeded h.order was rfl read d.stores ?_ ?_
  · intro k' other
    exact attemptAt_of_other other.symm
  · show Program.Ensures _ _
      (attemptAt k (d.record? k) (.called k ⟨c, some (reply c)⟩ (d.record? k) :: notes)) _
    rw [attemptAt_called_self]
    exact later _ _ ⟨O.lawful answered, rfl⟩

/-- A worker breaks down in a call. -/
theorem lost (h : Upheld O backends reconcile start d notes o)
    (conducts : Conducts backends reconcile) {i : Nat} {text : String} {c : Call}
    {next : Except Failure c.Result → Program α (Except Failure Unit)}
    (explained : O.Explains o d (.lose i) o')
    (s : Step reconcile count d (.lose i) (d.lose i text))
    (was : d.worker? i = some (.busy text (.ask (.call c) next))) :
    Upheld O backends reconcile start (d.lose i text) ((d.note? (.lose i)).toList ++ notes) o' := by
  obtain ⟨k, read, ⟨kept, may⟩, -⟩ := h.guided.asks conducts was (by simp)
  have made : d.made? (.lose i) = some (text, ⟨c, none⟩) := by simp [made?, was]
  refine h.noted explained s (.called k ⟨c, none⟩ (d.record? k))
    (by simp [note?, made, read, Except.toOption]) rfl ?_
    (.called k _ kept may (explained.answered made))
  refine h.guided.lost h.order was fun k' other => attemptAt_of_other fun same : k = k' => ?_
  exact other (same ▸ read)

/-- The program of a key has come to its end. -/
theorem concluded (h : Upheld O backends reconcile start d notes o)
    (conducts : Conducts backends reconcile) {i : Nat} {reply : Replies} {text : String}
    {outcome : Except Failure Unit} {queue : RetryQueue String}
    (explained : O.Explains o d (.move (.work i reply)) o')
    (s : Step reconcile count d (.move (.work i reply))
      ({ d with queue }.setWorker i (.closing text)))
    (was : d.worker? i = some (.busy text (.done outcome))) :
    Upheld O backends reconcile start ({ d with queue }.setWorker i (.closing text))
      ((d.note? (.move (.work i reply))).toList ++ notes) o' := by
  have silent : d.made? (.move (.work i reply)) = none := by simp [made?, was]
  have way := h.guided.working i text _ was
  have ended : ∀ k, ObjectKey.parse text = .ok k →
      Ends backends k outcome (d.attempt notes k) := by
    intro k read
    rcases way.attending k read with ⟨whole, -⟩ | ends
    · obtain ⟨_, looks, -⟩ := conducts.conducts text k read
      rw [looks] at whole
      simp at whole
    · exact ends
  have guided : ∀ notes' : List (Note α),
      (∀ k, attemptAt k (d.record? k) notes' = d.attempt notes k) →
      ({ d with queue }.setWorker i (.closing text)).Guided backends reconcile notes' := by
    intro notes' same
    refine h.guided.turn h.order was rfl (fun k _ => same k) (by simp) ?_
    rintro _ k ⟨⟩ read
    right
    show Rests (attemptAt k (d.record? k) notes')
    rw [same k]
    exact ⟨(ended k read).fits, (ended k read).kept⟩
  cases read : ObjectKey.parse text with
  | error e =>
    refine h.unnoted explained s silent ?_ rfl (guided notes fun _ => rfl)
    simp [note?, silent, was, read, Except.toOption]
  | ok k =>
    obtain rfl := explained.same silent
    refine h.noted explained s (.finished k outcome) ?_ rfl (guided _ fun _ => rfl)
      (.finished k outcome (ended k read))
    simp [note?, silent, was, read, Except.toOption]

/-- The story of a desk goes on with every step. -/
theorem step (h : Upheld O backends reconcile start d notes o)
    (conducts : Conducts backends reconcile) {happening : Happening α}
    (explained : O.Explains o d happening o') (s : Step reconcile count d happening d') :
    Upheld O backends reconcile start d' ((d.note? happening).toList ++ notes) o' := by
  have s' := s
  cases s with
  | received e idle =>
    exact h.unnoted explained s' rfl rfl rfl (h.guided.of_untouched rfl fun _ => rfl)
  | notified n idle =>
    exact h.unnoted explained s' rfl rfl rfl (h.guided.of_untouched rfl fun _ => rfl)
  | routed e rest due =>
    have records : ({ d with routing := rest }.apply e).record? = d.record? := by
      funext k
      unfold record?
      rw [stores_apply]
    refine h.unnoted explained s' rfl rfl records
      (h.guided.of_untouched (workers_apply _ e) fun k => ?_)
    unfold attempt
    rw [records]
  | started waiting synced =>
    refine h.unnoted explained s' rfl rfl rfl ⟨?_, ?_⟩
    · intro i text rest is
      simp [worker?, List.getElem?_replicate] at is
    · intro k _
      refine h.guided.resting k fun i w text is => ?_
      simp [worker?, h.order.unstarted waiting] at is
  | added aside keys adds =>
    exact h.unnoted explained s' (made?_of_aside aside)
      (note?_of_aside aside) rfl (h.guided.of_untouched rfl fun _ => rfl)
  | arranged ks same =>
    exact h.unnoted explained s' rfl rfl rfl (h.guided.of_untouched rfl fun _ => rfl)
  | @turned i reply queue w w' was free free' same =>
    exact h.free explained s' was free rfl
      (h.guided.turned h.order was (Worker.begun?_of_free free) (Worker.begun?_of_free free') queue)
  | took was takes =>
    exact h.free explained s' was rfl rfl (h.guided.took h.order conducts was takes)
  | accessed was => exact h.accessed conducts explained s' was
  | @published i reply key e about next was =>
    obtain ⟨k, read, -, later⟩ := h.guided.asks conducts was (by simp)
    refine h.unnoted explained s' (by simp [made?, was]) (by simp [note?, made?, was])
      rfl ?_
    exact h.guided.proceeded h.order was rfl read d.stores (fun _ _ => rfl)
      (later () _ rfl)
  | called was => exact h.called conducts explained s' was
  | concluded keys was adds =>
    exact h.concluded conducts explained s' was
  | released was =>
    refine h.unnoted explained s' (by simp [made?, was]) (by simp [note?, made?, was])
      rfl ?_
    exact h.guided.turn h.order was rfl (fun _ _ => rfl) (by simp)
      (by simp [Worker.begun?])
  | lost was => exact h.lost conducts explained s' was

end Upheld

/-- Everything is upheld in every run. -/
theorem upheld_of_run (conducts : Conducts backends reconcile) {policy : RetryPolicy} {start o : ω}
    {d : Desk α} {trace : Trace α}
    (run : Run O reconcile count (opening policy {}) start d trace o) :
    Upheld O backends reconcile start d trace.notes o := by
  induction run with
  | start =>
    exact ⟨(inOrder_opening policy {}).toExclusive,
      ⟨nofun, by simp [opening], fun _ _ mem => absurd mem List.not_mem_nil⟩,
      ⟨nofun, fun _ _ mem => absurd mem List.not_mem_nil⟩, guided_opening policy, .start⟩
  | happened run happens explained ih =>
    rw [notes_cons]
    exact ih.step conducts explained (step_of_happen happens)
  | drifted run drifts ih =>
    exact ⟨ih.order, ih.holds.mono fun _ => O.shows_drifts drifts, ih.inPlace, ih.guided,
      ih.story.drifted drifts⟩
  | closed run ih =>
    exact ⟨ih.order.shutDown, ⟨ih.holds.cached, ih.holds.listed, ih.holds.routed⟩,
      ⟨ih.inPlace.cached, ih.inPlace.routed⟩, ih.guided.of_untouched rfl fun _ => rfl, ih.story⟩

end Desk

/-- Every call that is made is made for a key, and noted. -/
theorem noted_of_made (conducts : Conducts backends reconcile) {policy : RetryPolicy} {start o : ω}
    {d d₁ : Desk α} {h : Happening α} {later earlier : Trace α}
    (run : Run O reconcile count (.opening policy {}) start d (later ++ (d₁, h) :: earlier) o)
    {text : String} {made : Called} (is : d₁.made? h = some (text, made)) :
    ∃ k, ObjectKey.parse text = .ok k ∧ Trace.notes (later ++ (d₁, h) :: earlier) =
      later.notes ++ .called k made (d₁.record? k) :: earlier.notes := by
  obtain ⟨o₁, before⟩ := run.before
  have upheld := Desk.upheld_of_run conducts before
  obtain ⟨k, read⟩ := upheld.guided.key_of_made conducts is
  have note : d₁.note? h = some (.called k made (d₁.record? k)) := by
    simp [Desk.note?, is, read, Except.toOption]
  refine ⟨k, read, ?_⟩
  unfold Trace.notes
  rw [List.filterMap_append, List.filterMap_cons, note]

/-- **Every run tells a story.** -/
theorem story_of_run (conducts : Conducts backends reconcile) {policy : RetryPolicy} {start o : ω}
    {d : Desk α} {trace : Trace α}
    (run : Run O reconcile count (.opening policy {}) start d trace o) :
    Story O backends start d.record? trace.notes o :=
  (Desk.upheld_of_run conducts run).story

end BucketProvisioning.Engine
