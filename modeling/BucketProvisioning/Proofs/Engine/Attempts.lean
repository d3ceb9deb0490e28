import BucketProvisioning.Proofs.Engine.Story
import BucketProvisioning.Proofs.Reconcile.Judging

/-!
# Attempts in a run

If the attempts of a reconciler stand up to a judgement, taken by themselves, then the judgement
holds in every run, whatever happens between two steps of an attempt: of what is left of an attempt
that is under way (`ensured_of_run`), of every call that is made (`allowed_of_made`) and of every
attempt that ends (`held_of_finished`).

`Desk.Tracked` carries the proof: whoever is busy with a key is in the middle of an attempt at it.
-/

set_option autoImplicit false
set_option linter.unusedSectionVars false

namespace BucketProvisioning.Engine

open BucketProvisioning BucketProvisioning.Reconcile BucketProvisioning.Watch
open BucketProvisioning.Queue
open BucketProvisioning.Resource (Object)

variable {α ω : Type} [Object α] [Managed α] {O : Outside α ω} {backends : Backend.Registry}
variable {reconcile : String → Program α (Except Failure Unit)} {count : Nat}

/-! ## What is left of an attempt -/

/-- A program is what is left of an attempt at a key. -/
def Remains (backends : Backend.Registry) (reconcile : String → Program α (Except Failure Unit))
    (text : String) (k : ObjectKey) (rest : Program α (Except Failure Unit)) (a : Attempt α) :
    Prop :=
  ∃ next found initial, reconcile text = .ask (.store (.lookup k)) next ∧ Identified found ∧
    Identified initial ∧
    (next (.ok found)).Goes (conduct backends k) (.opening found initial) rest a

/-- What is left of an attempt goes on. -/
theorem Remains.answered {text : String} {k : ObjectKey} {r : Request α}
    {next : r.Reply → Program α (Except Failure Unit)} {a a' : Attempt α} {reply : r.Reply}
    (h : Remains backends reconcile text k (.ask r next) a)
    (answer : (conduct backends k).answers a r reply a') :
    Remains backends reconcile text k (next reply) a' := by
  obtain ⟨first, found, initial, looks, known, known', goes⟩ := h
  exact ⟨first, found, initial, looks, known, known', goes.answered answer⟩

/-- What is left of an attempt is judged like the whole. -/
theorem Remains.ensures {permits : Permits α}
    {Q : ObjectKey → Except Failure Unit → Attempt α → Prop}
    (judged : Judged backends reconcile permits Q) {text : String} {k : ObjectKey}
    {rest : Program α (Except Failure Unit)} {a : Attempt α}
    (h : Remains backends reconcile text k rest a) (read : ObjectKey.parse text = .ok k) :
    rest.Ensures (judging backends permits k) a (Q k) := by
  obtain ⟨next, found, initial, looks, known, known', goes⟩ := h
  have likewise : ∀ a r reply a', (conduct backends k).answers a r reply a' →
      (judging backends permits k).answers a r reply a' := fun _ _ _ _ answer => answer
  exact (judged text k next found initial read looks known known').goes likewise goes

namespace Desk

/-! ## Who touches an attempt -/

/-- The text on which a worker that takes a step, or breaks down, is busy. -/
def busyText? (d : Desk α) : Happening α → Option String
  | .move (.work i _) => (d.worker? i).bind Worker.begun?
  | .lose i => (d.worker? i).bind Worker.begun?
  | _ => none

/-- A step with a call is that of a worker who goes on with the reply, or breaks down. -/
theorem step_of_made {d d' : Desk α} {h : Happening α} {text : String} {made : Called}
    (s : Step reconcile count d h d') (is : d.made? h = some (text, made)) :
    (∃ i reply c next, h = .move (.work i reply) ∧
      d.worker? i = some (.busy text (.ask (.call c) next)) ∧ made = ⟨c, some (reply c)⟩ ∧
      d' = d.setWorker i (.busy text (next (reply c)))) ∨
    ∃ i, h = .lose i ∧ d' = d.lose i text := by
  cases s with
  | called was =>
    simp only [made?, was, Option.some.injEq, Prod.mk.injEq] at is
    obtain ⟨rfl, rfl⟩ := is
    exact Or.inl ⟨_, _, _, _, rfl, was, rfl, rfl⟩
  | lost was =>
    simp only [made?, was, Option.some.injEq, Prod.mk.injEq] at is
    obtain ⟨rfl, -⟩ := is
    exact Or.inr ⟨_, rfl, rfl⟩
  | added aside keys adds => simp [made?_of_aside aside] at is
  | turned was free free' same => simp [made?_of_free was free] at is
  | took was takes => simp [made?, was] at is
  | accessed was => simp [made?, was] at is
  | published was => simp [made?, was] at is
  | concluded keys was adds => simp [made?, was] at is
  | released was => simp [made?, was] at is
  | _ => simp [made?] at is

/-- Whoever looks a key up has been handed that key. -/
theorem Guided.looks {d : Desk α} {notes : List (Note α)} (h : d.Guided backends reconcile notes)
    (conducts : Conducts backends reconcile) {i : Nat} {text : String} {k : ObjectKey}
    {next : Except Failure (Option α) → Program α (Except Failure Unit)}
    (was : d.worker? i = some (.busy text (.ask (.store (.lookup k)) next))) :
    ObjectKey.parse text = .ok k := by
  have way := h.working i text _ was
  cases read : ObjectKey.parse text with
  | error e =>
    obtain ⟨outcome, same⟩ := way.dropping e read
    simp at same
  | ok k' =>
    obtain ⟨whole, -⟩ := (way.attending k' read).resolve_right fun ensured => ensured.1
    obtain ⟨next', looks, -⟩ := conducts.conducts text k' read
    rw [looks] at whole
    have same := (Program.ask.inj whole).1
    simp only [Request.store.injEq, StoreAccess.lookup.injEq] at same
    rw [same]

/-- Nothing but a step of the worker that is busy with a key touches the attempt at it. -/
theorem attempt_of_others {start o : ω} {d d' : Desk α} {notes : List (Note α)}
    {h : Happening α} (upheld : Upheld O backends reconcile start d notes o)
    (conducts : Conducts backends reconcile) (s : Step reconcile count d h d') {k : ObjectKey}
    (other : ∀ text, d.busyText? h = some text → ObjectKey.parse text ≠ .ok k) :
    d'.attempt ((d.note? h).toList ++ notes) k = d.attempt notes k := by
  cases s with
  | received e idle => rfl
  | notified n idle => rfl
  | routed e rest due =>
    unfold attempt record?
    rw [stores_apply]
    rfl
  | started waiting synced => rfl
  | added aside keys adds =>
    rw [note?_of_aside aside]
    rfl
  | arranged ks same => rfl
  | turned was free free' same =>
    rw [note?_of_free was free]
    rfl
  | took was takes =>
    rw [note?_of_free was rfl]
    rfl
  | @accessed i reply text a next was =>
    have apart := other text (by simp [busyText?, was, Worker.begun?])
    cases a with
    | lookup k' =>
      have reads := upheld.guided.looks conducts was
      have differs : k' ≠ k := by
        rintro rfl
        exact apart reads
      cases found : d.stores.cache.lookup k' with
      | error e => simp [note?, made?, was, found, Except.toOption]; rfl
      | ok obj =>
        simp only [note?, made?, was, found, Except.toOption, Option.map_some, Option.toList_some]
        exact attemptAt_of_other differs
    | recordOf k' =>
      simp only [note?, made?, was]
      rfl
    | remember k' obj =>
      obtain ⟨k'', read, allowed, -⟩ := upheld.guided.asks conducts was (by simp)
      obtain rfl : k' = k'' := allowed.1
      have differs : k ≠ k' := by
        rintro rfl
        exact apart read
      simp only [note?, made?, was]
      exact congrArg (attemptAt k · notes) (Table.get?_insert_of_ne _ _ differs)
    | forget k' =>
      obtain ⟨k'', read, allowed, -⟩ := upheld.guided.asks conducts was (by simp)
      obtain rfl : k' = k'' := allowed.1
      have differs : k ≠ k' := by
        rintro rfl
        exact apart read
      simp only [note?, made?, was]
      exact congrArg (attemptAt k · notes) (Table.get?_erase_of_ne _ differs)
  | published was =>
    simp only [note?, made?, was]
    rfl
  | @called i reply text c next was =>
    have apart := other text (by simp [busyText?, was, Worker.begun?])
    obtain ⟨k', read, -⟩ := upheld.guided.asks conducts was (by simp)
    have differs : k' ≠ k := by
      rintro rfl
      exact apart read
    simp only [note?, made?, was, read, Except.toOption, Option.map_some, Option.toList_some]
    exact attemptAt_of_other differs
  | @concluded i reply text outcome queue keys was adds =>
    cases read : ObjectKey.parse text with
    | error e => simp [note?, made?, was, read, Except.toOption]; rfl
    | ok k' =>
      simp only [note?, made?, was, read, Except.toOption, Option.map_some, Option.toList_some]
      rfl
  | released was =>
    simp only [note?, made?, was]
    rfl
  | @lost i text c next was =>
    have apart := other text (by simp [busyText?, was, Worker.begun?])
    obtain ⟨k', read, -⟩ := upheld.guided.asks conducts was (by simp)
    have differs : k' ≠ k := by
      rintro rfl
      exact apart read
    simp only [note?, made?, was, read, Except.toOption, Option.map_some, Option.toList_some]
    exact attemptAt_of_other differs

/-! ## Who is in the middle of what -/

/-- Whoever is busy with a key has not begun with it yet or is in the middle of an attempt at it. -/
def Tracked (backends : Backend.Registry) (reconcile : String → Program α (Except Failure Unit))
    (d : Desk α) (notes : List (Note α)) : Prop :=
  ∀ i text rest k, d.worker? i = some (.busy text rest) → ObjectKey.parse text = .ok k →
    rest = reconcile text ∨ Remains backends reconcile text k rest (d.attempt notes k)

namespace Tracked

variable {start o : ω} {d d' : Desk α} {notes : List (Note α)} {h : Happening α}

/-- It is enough to say what the worker is in the middle of that takes the step. -/
theorem step (tracked : d.Tracked backends reconcile notes)
    (upheld : Upheld O backends reconcile start d notes o) (conducts : Conducts backends reconcile)
    (s : Step reconcile count d h d')
    (others : ∀ i text rest, d'.worker? i = some (.busy text rest) → d.busyText? h ≠ some text →
      d.worker? i = some (.busy text rest) ∨ rest = reconcile text)
    (mine : ∀ i text rest k, d'.worker? i = some (.busy text rest) → d.busyText? h = some text →
      ObjectKey.parse text = .ok k →
      Remains backends reconcile text k rest (d'.attempt ((d.note? h).toList ++ notes) k)) :
    d'.Tracked backends reconcile ((d.note? h).toList ++ notes) := by
  intro i text rest k is read
  by_cases own : d.busyText? h = some text
  · exact Or.inr (mine i text rest k is own read)
  rcases others i text rest is own with was | begins
  · have same := attempt_of_others upheld conducts s (k := k) fun text' busy read' => own (by
      rw [busy, (ObjectKey.text_of_parse read').symm.trans (ObjectKey.text_of_parse read)])
    rw [same]
    exact tracked i text rest k was read
  · exact Or.inl begins

/-- The worker that takes a step goes on with its program. -/
theorem goesOn (tracked : d.Tracked backends reconcile notes)
    (upheld : Upheld O backends reconcile start d notes o) (conducts : Conducts backends reconcile)
    {i : Nat} {reply : Replies} {text : String} {rest rest' : Program α (Except Failure Unit)}
    (stores : Stores α) (was : d.worker? i = some (.busy text rest))
    (s : Step reconcile count d (.move (.work i reply))
      ({ d with stores }.setWorker i (.busy text rest')))
    (goes : ∀ k, ObjectKey.parse text = .ok k → Remains backends reconcile text k rest'
      (({ d with stores }.setWorker i (.busy text rest')).attempt
        ((d.note? (.move (.work i reply))).toList ++ notes) k)) :
    ({ d with stores }.setWorker i (.busy text rest')).Tracked backends reconcile
      ((d.note? (.move (.work i reply))).toList ++ notes) := by
  have busy : d.busyText? (.move (.work i reply)) = some text := by
    simp [busyText?, was, Worker.begun?]
  have worker := worker?_setWorker (d := { d with stores }) was (.busy text rest')
  refine tracked.step upheld conducts s (fun j text' rest'' is own => ?_)
    fun j text' rest'' k is own read => ?_
  · rw [worker] at is
    split at is
    · obtain ⟨rfl, -⟩ := Worker.busy.inj (Option.some.inj is)
      exact absurd busy own
    · exact Or.inl is
  · obtain rfl := Option.some.inj (busy.symm.trans own)
    rw [worker] at is
    split at is
    · obtain ⟨-, rfl⟩ := Worker.busy.inj (Option.some.inj is)
      exact goes k read
    · -- nobody else holds the text
      rename_i other
      have held := keyOf?_of_worker was
      exact absurd (upheld.order.apart j i text (keyOf?_of_worker is) held) other

/-- A worker that takes a step stops being busy. -/
theorem stops (tracked : d.Tracked backends reconcile notes)
    (upheld : Upheld O backends reconcile start d notes o) (conducts : Conducts backends reconcile)
    {i : Nat} {w w' : Worker α} (queue : RetryQueue String) (was : d.worker? i = some w)
    (busy : ∀ text, d.busyText? h = some text → w.key? = some text)
    (idle : ∀ text rest, w' ≠ .busy text rest ∨ rest = reconcile text ∧ w.key? = none)
    (s : Step reconcile count d h ({ d with queue }.setWorker i w')) :
    ({ d with queue }.setWorker i w').Tracked backends reconcile
      ((d.note? h).toList ++ notes) := by
  have worker := worker?_setWorker (d := { d with queue }) was w'
  refine tracked.step upheld conducts s (fun j text rest is own => ?_)
    fun j text rest k is own read => ?_
  · rw [worker] at is
    split at is
    · rcases idle text rest with no | ⟨begins, -⟩
      · exact absurd (Option.some.inj is) no
      · exact Or.inr begins
    · exact Or.inl is
  · have holds := busy text own
    rw [worker] at is
    split at is
    · rcases idle text rest with no | ⟨-, free⟩
      · exact absurd (Option.some.inj is) no
      · simp [free] at holds
    · rename_i other
      have held : d.keyOf? i = some text := (keyOf?_of_worker was).trans holds
      exact absurd (upheld.order.apart j i text (keyOf?_of_worker is) held) other

/-- Nobody who is busy takes a step. -/
theorem aside (tracked : d.Tracked backends reconcile notes)
    (upheld : Upheld O backends reconcile start d notes o) (conducts : Conducts backends reconcile)
    (s : Step reconcile count d h d') (nobody : d.busyText? h = none)
    (workers : ∀ i text rest, d'.worker? i = some (.busy text rest) →
      d.worker? i = some (.busy text rest)) :
    d'.Tracked backends reconcile ((d.note? h).toList ++ notes) := by
  refine tracked.step upheld conducts s (fun i text rest is _ => Or.inl (workers i text rest is)) ?_
  intro i text rest k is own
  simp [nobody] at own

/-- The access of a program to the stores is answered, and the program goes on. -/
theorem accessed (tracked : d.Tracked backends reconcile notes)
    (upheld : Upheld O backends reconcile start d notes o) (conducts : Conducts backends reconcile)
    {i : Nat} {reply : Replies} {text : String} {a : StoreAccess α}
    {next : a.Reply → Program α (Except Failure Unit)}
    (was : d.worker? i = some (.busy text (.ask (.store a) next)))
    (s : Step reconcile count d (.move (.work i reply)) (d.access i text a next)) :
    (d.access i text a next).Tracked backends reconcile
      ((d.note? (.move (.work i reply))).toList ++ notes) := by
  refine tracked.goesOn upheld conducts (d.stores.answer a).2 was s fun k read => ?_
  show Remains backends reconcile text k (next (d.stores.answer a).1)
    (attemptAt k ((d.stores.answer a).2.records.get? k)
      ((d.note? (.move (.work i reply))).toList ++ notes))
  rcases tracked i text _ k was read with whole | remains
  · -- the key is looked up, and an attempt begins
    obtain ⟨next', looks, -⟩ := conducts.conducts text k read
    obtain ⟨request, same⟩ := Program.ask.inj (whole.trans looks)
    obtain rfl : a = .lookup k := by simpa using request
    obtain rfl := eq_of_heq same
    have sync := upheld.order.synced (ne_nil_of_worker was)
    have found : d.stores.cache.lookup k = .ok (d.stores.cache.objects.get? k) :=
      Cache.lookup_of_synced sync k
    have rests : Rests (d.attempt notes k) := by
      rcases (upheld.guided.working i text _ was).attending k read with ⟨-, rests⟩ | ensured
      · exact rests
      · exact absurd ensured.1 id
    have identified : Identified (d.record? k) := by
      have fits := rests.fits
      rw [show (d.attempt notes k).record = d.record? k from record_attemptAt] at fits
      exact fits.identified
    simp only [note?, made?, was, found, Except.toOption, Option.map_some, Option.toList_some,
      List.cons_append, List.nil_append]
    rw [attemptAt_lookedUp_self]
    refine ⟨next, d.stores.cache.objects.get? k, d.record? k, looks, ?_, identified, ?_⟩
    · exact fun obj is => O.identified (upheld.holds.cached k obj is)
    · rw [show (d.stores.answer (.lookup k)).1 = _ from found]
      exact .start
  · have asked := remains.ensures (judged_of_conducts conducts) read
    cases a with
    | lookup k' => exact absurd asked.1 id
    | recordOf k' =>
      obtain rfl : k' = k := asked.1
      refine remains.answered ⟨?_, ?_⟩
      · exact record_attemptAt.symm
      · simp only [note?, made?, was]
        rfl
    | remember k' obj =>
      obtain rfl : k' = k := asked.1.1
      refine remains.answered ?_
      show attemptAt k' ((d.stores.records.insert k' obj).get? k') _ = _
      rw [Table.get?_insert_self]
      simp only [note?, made?, was]
      exact attemptAt_record _
    | forget k' =>
      obtain rfl : k' = k := asked.1.1
      refine remains.answered ?_
      show attemptAt k' ((d.stores.records.erase k').get? k') _ = _
      rw [Table.get?_erase_self]
      simp only [note?, made?, was]
      exact attemptAt_record _

/-- A call of a program is answered, and the program goes on. -/
theorem called (tracked : d.Tracked backends reconcile notes)
    (upheld : Upheld O backends reconcile start d notes o) (conducts : Conducts backends reconcile)
    {o' : ω} {i : Nat} {reply : Replies} {text : String} {c : Call}
    {next : Except Failure c.Result → Program α (Except Failure Unit)}
    (explained : O.Explains o d (.move (.work i reply)) o')
    (was : d.worker? i = some (.busy text (.ask (.call c) next)))
    (s : Step reconcile count d (.move (.work i reply))
      (d.setWorker i (.busy text (next (reply c))))) :
    (d.setWorker i (.busy text (next (reply c)))).Tracked backends reconcile
      ((d.note? (.move (.work i reply))).toList ++ notes) := by
  have made : d.made? (.move (.work i reply)) = some (text, ⟨c, some (reply c)⟩) := by
    simp [made?, was]
  have lawful := O.lawful (explained.answered made)
  refine tracked.goesOn upheld conducts d.stores was s fun k read => ?_
  rcases tracked i text _ k was read with whole | remains
  · obtain ⟨_, looks, -⟩ := conducts.conducts text k read
    rw [looks] at whole
    exact absurd (Program.ask.inj whole).1 (by simp)
  · refine remains.answered ⟨lawful, ?_⟩
    simp only [note?, made, read, Except.toOption, Option.map_some, Option.toList_some,
      List.cons_append, List.nil_append]
    exact attemptAt_called_self _ _

end Tracked

/-- Whoever is busy stays in the middle of the attempt that the notes tell of. -/
theorem tracked_step {start o o' : ω} {d d' : Desk α} {notes : List (Note α)} {h : Happening α}
    (tracked : d.Tracked backends reconcile notes)
    (upheld : Upheld O backends reconcile start d notes o) (conducts : Conducts backends reconcile)
    (explained : O.Explains o d h o') (s : Step reconcile count d h d') :
    d'.Tracked backends reconcile ((d.note? h).toList ++ notes) := by
  have s' := s
  cases s with
  | received e idle => exact tracked.aside upheld conducts s' rfl fun _ _ _ is => is
  | notified n idle => exact tracked.aside upheld conducts s' rfl fun _ _ _ is => is
  | routed e rest due =>
    refine tracked.aside upheld conducts s' rfl fun i text rest is => ?_
    simpa [worker?] using is
  | started waiting synced =>
    refine tracked.aside upheld conducts s' rfl fun i text rest is => ?_
    simp [worker?, List.getElem?_replicate] at is
  | added aside keys adds =>
    refine tracked.aside upheld conducts s' ?_ fun _ _ _ is => is
    cases h with
    | move m => cases m <;> first | rfl | simp [Happening.isAside] at aside
    | lose i => simp [Happening.isAside] at aside
    | _ => rfl
  | arranged ks same => exact tracked.aside upheld conducts s' rfl fun _ _ _ is => is
  | turned was free free' same =>
    refine tracked.stops upheld conducts _ was ?_ (fun text rest => Or.inl ?_) s'
    · simp [busyText?, was, Worker.begun?_of_free free]
    · rintro rfl
      simp [Worker.key?] at free'
  | @took i reply queue key was takes =>
    refine tracked.stops upheld conducts _ was (by simp [busyText?, was, Worker.begun?]) ?_ s'
    intro text rest
    by_cases same : Worker.busy key (reconcile key) = .busy text rest
    · obtain ⟨rfl, rfl⟩ := Worker.busy.inj same
      exact Or.inr ⟨rfl, rfl⟩
    · exact Or.inl same
  | accessed was => exact tracked.accessed upheld conducts was s'
  | @published i reply text e about next was =>
    refine tracked.goesOn upheld conducts d.stores was s' fun k read => ?_
    rcases tracked i text _ k was read with whole | remains
    · obtain ⟨_, looks, -⟩ := conducts.conducts text k read
      rw [looks] at whole
      exact absurd (Program.ask.inj whole).1 (by simp)
    · refine remains.answered ?_
      simp only [note?, made?, was]
      rfl
  | called was => exact tracked.called upheld conducts explained was s'
  | concluded keys was adds =>
    refine tracked.stops upheld conducts _ was ?_ (fun text rest => Or.inl (by simp)) s'
    simp [busyText?, was, Worker.begun?, Worker.key?]
  | @released i reply key was =>
    refine tracked.stops upheld conducts (d.queue.done key) was ?_
      (fun text rest => Or.inl (by simp)) s'
    simp [busyText?, was, Worker.begun?]
  | @lost i key c next was =>
    refine tracked.stops upheld conducts d.queue was ?_
      (fun text rest => Or.inl (by simp)) s'
    simp [busyText?, was, Worker.begun?, Worker.key?]

/-- Whoever is busy with a key is in the middle of an attempt at it, in every run. -/
theorem tracked_of_run (conducts : Conducts backends reconcile) {policy : RetryPolicy}
    {start o : ω} {d : Desk α} {trace : Trace α}
    (run : Run O reconcile count (opening policy {}) start d trace o) :
    d.Tracked backends reconcile trace.notes := by
  induction run with
  | start =>
    intro i text rest k is
    simp [opening, worker?] at is
  | happened run happens explained ih =>
    rw [notes_cons]
    exact tracked_step ih (upheld_of_run conducts run) conducts explained (step_of_happen happens)
  | drifted run drifts ih => exact ih
  | closed run ih => exact ih

end Desk

/-! ## What a judgement says of a run -/

section judged

variable {permits : Permits α} {Q : ObjectKey → Except Failure Unit → Attempt α → Prop}
variable {policy : RetryPolicy} {start o : ω} {d : Desk α} {h : Happening α}

/-- What is left of the program of a key, once the key has been looked up, stands up to every
judgement to which the reconciler stands up. -/
theorem ensured_of_run (conducts : Conducts backends reconcile)
    (judged : Judged backends reconcile permits Q) {trace : Trace α}
    (run : Run O reconcile count (.opening policy {}) start d trace o) {i : Nat} {text : String}
    {rest : Program α (Except Failure Unit)} {k : ObjectKey}
    (is : d.worker? i = some (.busy text rest)) (read : ObjectKey.parse text = .ok k)
    (begun : ∀ k next, rest ≠ .ask (.store (.lookup k)) next) :
    rest.Ensures (judging backends permits k) (d.attempt trace.notes k) (Q k) := by
  rcases Desk.tracked_of_run conducts run i text rest k is read with rfl | remains
  · obtain ⟨next, looks, -⟩ := conducts.conducts text k read
    exact absurd looks (begun k next)
  · exact remains.ensures judged read

/-- **Every call that is made is permitted.** -/
theorem allowed_of_made (conducts : Conducts backends reconcile)
    (judged : Judged backends reconcile permits Q) {trace : Trace α}
    (run : Run O reconcile count (.opening policy {}) start d trace o) {text : String}
    {made : Called} (is : d.made? h = some (text, made)) {k : ObjectKey}
    (read : ObjectKey.parse text = .ok k) :
    permits k (d.attempt trace.notes k) (.call made.call) := by
  have asks {i : Nat} {c : Call} {next : Except Failure c.Result → Program α (Except Failure Unit)}
      (was : d.worker? i = some (.busy text (.ask (.call c) next))) :
      permits k (d.attempt trace.notes k) (.call c) :=
    (ensured_of_run conducts judged run was read fun _ _ same =>
      absurd (Program.ask.inj same).1 (by simp)).1
  unfold Desk.made? at is
  split at is
  · split at is
    · obtain ⟨rfl, rfl⟩ := Prod.mk.inj (Option.some.inj is)
      exact asks ‹_›
    · simp at is
  · split at is
    · obtain ⟨rfl, rfl⟩ := Prod.mk.inj (Option.some.inj is)
      exact asks ‹_›
    · simp at is
  · simp at is

/-- **Every attempt that ends has done so as it should.** -/
theorem held_of_finished (conducts : Conducts backends reconcile)
    (judged : Judged backends reconcile permits Q) {trace : Trace α}
    (run : Run O reconcile count (.opening policy {}) start d trace o) {k : ObjectKey}
    {outcome : Except Failure Unit} (is : d.note? h = some (.finished k outcome)) :
    Q k outcome (d.attempt trace.notes k) := by
  obtain ⟨i, reply, text, rfl, was, read⟩ := Desk.done_of_note is
  exact ensured_of_run conducts judged run was read (by simp)

end judged

end BucketProvisioning.Engine
