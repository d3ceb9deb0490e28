import BucketProvisioning.Proofs.Reconcile.Conduct

/-!
# Other judgements of a reconcile

`conduct` says what a reconcile may do, and a reconcile can be judged by other standards too, in
worlds that differ from `conduct` only in what may be requested.  `Judged` says that the attempts of
a reconciler stand up to such a judgement; that they keep to `conduct` is one of them.

The first such standard is soberness: an attempt makes no call after it has written a status, and
makes none before that with another record than the one it began with, unless that was one of an
object that is gone; and once a status write was not confirmed, it does not touch the records
either.  `Attempt.Frank` is what follows in the end: such an attempt fails and has left the record
alone.  `givesUp` says that there is nothing left for it to do but to publish its failure.
-/

set_option autoImplicit false
set_option linter.unusedSectionVars false

namespace BucketProvisioning.Reconcile

open BucketProvisioning BucketProvisioning.Resource BucketProvisioning.Backend

variable {α : Type} [Object α] [Managed α]

/-- What may be requested in an attempt at a key. -/
abbrev Permits (α : Type) := ObjectKey → Attempt α → Request α → Prop

/-- The world of the attempts at a key in which something else may be requested. -/
def judging (backends : Registry) (permits : Permits α) (k : ObjectKey) : World α (Attempt α) :=
  { conduct backends k with allows := permits k }

/-- The attempts of a reconciler request only what is permitted, and `Q` holds of them in the
end. -/
def Judged (backends : Registry) (reconcile : String → Program α (Except Failure Unit))
    (permits : Permits α) (Q : ObjectKey → Except Failure Unit → Attempt α → Prop) : Prop :=
  ∀ text k next found initial, ObjectKey.parse text = .ok k →
    reconcile text = .ask (.store (.lookup k)) next → Identified found → Identified initial →
    (next (.ok found)).Ensures (judging backends permits k) (.opening found initial) (Q k)

/-- A reconcile that is conducted properly may be judged by its conduct. -/
theorem judged_of_conducts {backends : Registry}
    {reconcile : String → Program α (Except Failure Unit)} (conducts : Conducts backends reconcile) :
    Judged backends reconcile (fun k => (conduct backends k).allows) (Ends backends) := by
  intro text k next found initial read looks known known'
  obtain ⟨next', looks', ensures⟩ := conducts.conducts text k read
  obtain rfl : next' = next := eq_of_heq (Program.ask.inj (looks'.symm.trans looks)).2
  exact ensures found initial known known'

/-- Who stands up to a judgement stands up to a milder one. -/
theorem Judged.mono {backends : Registry} {reconcile : String → Program α (Except Failure Unit)}
    {permits permits' : Permits α} {Q : ObjectKey → Except Failure Unit → Attempt α → Prop}
    (h : Judged backends reconcile permits Q) (milder : ∀ k a r, permits k a r → permits' k a r) :
    Judged backends reconcile permits' Q := by
  intro text k next found initial read looks known known'
  exact (h text k next found initial read looks known known').allowing (milder k) fun _ _ _ _ => id

namespace Judging

variable {backends : Registry} {permits : Permits α} {k : ObjectKey} {a : Attempt α}

/-- A call that is permitted has a lawful reply. -/
theorem ensures_call {c : Call} {Q : Except Failure c.Result → Attempt α → Prop}
    (may : permits k a (.call c)) (h : ∀ reply, Lawful α c reply → Q reply (a.calling c reply)) :
    (Task.call c : Task α c.Result).Ensures (judging backends permits k) a Q := by
  refine Task.ensures_call.2 ⟨may, ?_⟩
  rintro reply _ ⟨lawful, rfl⟩
  exact h reply lawful

/-- A record whose reading is permitted is read as it is. -/
theorem ensures_recordOf {Q : Except Failure (Option α) → Attempt α → Prop}
    (may : permits k a (.store (.recordOf k))) (h : Q (.ok a.record) a) :
    (Task.recordOf k : Task α (Option α)).Ensures (judging backends permits k) a Q := by
  refine Task.ensures_recordOf.2 ⟨may, ?_⟩
  rintro _ _ ⟨rfl, rfl⟩
  exact h

/-- A record whose writing is permitted has the object. -/
theorem ensures_remember {obj : α} {Q : Except Failure Unit → Attempt α → Prop}
    (may : permits k a (.store (.remember k obj))) (h : Q (.ok ()) { a with record := some obj }) :
    (Task.remember k obj : Task α Unit).Ensures (judging backends permits k) a Q := by
  refine Task.ensures_remember.2 ⟨may, ?_⟩
  rintro _ _ rfl
  exact h

/-- A record whose erasure is permitted is gone. -/
theorem ensures_forget {Q : Except Failure Unit → Attempt α → Prop}
    (may : permits k a (.store (.forget k))) (h : Q (.ok ()) { a with record := none }) :
    (Task.forget k : Task α Unit).Ensures (judging backends permits k) a Q := by
  refine Task.ensures_forget.2 ⟨may, ?_⟩
  rintro _ _ rfl
  exact h

/-- An event whose publication is permitted leaves the attempt as it is. -/
theorem ensures_publish {ω : Type} [Object ω] {obj : ω} {e : Event}
    {Q : Except Failure Unit → Attempt α → Prop}
    (may : permits k a (.publish e (Object.reference obj))) (h : Q (.ok ()) a) :
    (Task.publish obj e : Task α Unit).Ensures (judging backends permits k) a Q := by
  refine Task.ensures_publish.2 ⟨may, ?_⟩
  rintro _ _ rfl
  exact h

/-- A live object is attended to once its key has been looked up. -/
theorem ensures_attend {live : α} {record : Option α} {teardown : Task α Unit}
    {Q : Except Failure Unit → Attempt α → Prop}
    (may : permits k (.opening (some live) record) (.store (.recordOf k)))
    (clears : ∀ old, record = some old → Gone (some live) old →
      teardown.Ensures (judging backends permits k) (.opening (some live) record) Q)
    (h : Q (.ok ()) (.opening (some live) record)) :
    (Slot.attend k live teardown).Ensures (judging backends permits k) (.opening (some live) record)
      Q := by
  unfold Slot.attend
  refine Task.ensures_bind.2 (ensures_recordOf may ?_)
  cases record with
  | none => exact h
  | some old =>
    refine Task.ensures_ite (fun superseded => ?_) fun _ => h
    exact clears old rfl (gone_some.2 superseded)

/-- A failure is told and passed on. -/
theorem ensures_told {ω : Type} [Object ω] {obj : ω} {event : Failure → Event} {t : Task α Unit}
    {Q : Except Failure Unit → Attempt α → Prop}
    (may : ∀ a e, permits k a (.publish e (Object.reference obj)))
    (h : t.Ensures (judging backends permits k) a Q) :
    Task.Ensures (judging backends permits k) (do
      match ← Task.attempt t with
      | .ok () => return ()
      | .error e =>
        Task.publish obj (event e)
        throw e) a Q := by
  refine Task.ensures_bind.2 (Task.ensures_attempt.2 (h.mono ?_))
  intro outcome a' holds
  cases outcome with
  | ok => exact holds
  | error e => exact Task.ensures_bind.2 (ensures_publish (may a' _) holds)

end Judging

/-! ## Soberness -/

namespace Attempt

/-- The record is the one with which the attempt began, or that was one of an object that is gone
and has been taken away. -/
def Untouched (a : Attempt α) : Prop :=
  a.record = a.initial ∨ a.record = none ∧ ∃ old, a.initial = some old ∧ Gone a.found old

/-- A status write of the attempt was not confirmed. -/
def Failing (a : Attempt α) : Prop :=
  ∃ called ∈ a.calls, (Managed.written? called.call : Option (α × _)).isSome ∧
    (called.confirmed? : Option α) = none

/-- No status has been written, and the record is untouched. -/
structure Sober (a : Attempt α) : Prop where
  /-- No status has been written. -/
  unwritten : ∀ called ∈ a.calls, (Managed.written? called.call : Option (α × _)) = none
  /-- The record is untouched. -/
  untouched : a.Untouched

/-- An attempt whose status write was not confirmed has failed and left the record alone. -/
def Frank (outcome : Except Failure Unit) (a : Attempt α) : Prop :=
  a.Failing → (∃ e, outcome = .error e) ∧ a.Untouched

variable {a : Attempt α} {found record : Option α} {outcome : Except Failure Unit}

/-- An attempt that has done nothing is sober. -/
theorem sober_opening : (opening found record).Sober where
  unwritten _ mem := absurd mem List.not_mem_nil
  untouched := Or.inl rfl

/-- As long as nothing has been written, no write has failed. -/
theorem Sober.not_failing (h : a.Sober) : ¬ a.Failing := by
  rintro ⟨called, mem, written, -⟩
  rw [h.unwritten called mem] at written
  simp at written

/-- A call that writes nothing leaves an attempt as sober as it was. -/
theorem Sober.calling (h : a.Sober) (c : Call) (reply : Except Failure c.Result)
    (unwritten : (Managed.written? c : Option (α × _)) = none) : (a.calling c reply).Sober where
  unwritten := List.forall_mem_cons.2 ⟨unwritten, h.unwritten⟩
  untouched := h.untouched

/-- A sober attempt may end in any way. -/
theorem Sober.frank (h : a.Sober) : a.Frank outcome := fun failing => absurd failing h.not_failing

/-- A status write that fails makes the attempt fail. -/
theorem Sober.frank_failed (h : a.Sober) (c : Call) (reply : Except Failure c.Result)
    (e : Failure) : (a.calling c reply).Frank (.error e) :=
  fun _ => ⟨⟨e, rfl⟩, h.untouched⟩

/-- After a status write that was confirmed none has failed, whatever is put on record. -/
theorem Sober.written (h : a.Sober) (c : Call) (reply : Except Failure c.Result) {obj : α}
    (told : Managed.confirmed? c reply = some obj) (record : Option α) :
    ¬ ({ a.calling c reply with record } : Attempt α).Failing := by
  rintro ⟨called, mem, written, silent⟩
  rcases List.mem_cons.1 mem with rfl | earlier
  · exact absurd (silent.symm.trans told) (by simp)
  · rw [h.unwritten called earlier] at written
    simp at written

end Attempt

/-- In a sober attempt calls are made only as long as it is sober, and the stores are accessed only
as long as no status write has failed. -/
def sober (α : Type) [Object α] [Managed α] : Permits α
  | _, a, .call _ => a.Sober
  | _, a, .store _ => ¬ a.Failing
  | _, _, .publish _ _ => True

/-- A program does nothing but publish events, and then it fails. -/
inductive GivesUp : Program α (Except Failure Unit) → Prop
  /-- It fails. -/
  | fails (e : Failure) : GivesUp (.done (.error e))
  /-- It publishes an event. -/
  | publishes (e : Event) (about : ObjectReference) (next : Unit → Program α (Except Failure Unit))
      (later : GivesUp (next ())) : GivesUp (.ask (.publish e about) next)

/-- An attempt of which a status write was not confirmed gives up. -/
theorem givesUp {backends : Registry} {k : ObjectKey} {rest : Program α (Except Failure Unit)}
    {a : Attempt α} (ensured : rest.Ensures (judging backends (sober α) k) a Attempt.Frank)
    (failing : a.Failing) : GivesUp rest := by
  induction rest with
  | done outcome =>
    obtain ⟨⟨e, rfl⟩, -⟩ := ensured failing
    exact .fails e
  | ask r next ih =>
    obtain ⟨may, later⟩ := ensured
    cases r with
    | call c => exact absurd failing (Attempt.Sober.not_failing may)
    | store access => exact absurd failing may
    | publish e about => exact .publishes e about next (ih () (later () a rfl))

end BucketProvisioning.Reconcile
