import BucketProvisioning.Proofs.Engine.Plant
import BucketProvisioning.Proofs.Reconcile.AccessConduct
import BucketProvisioning.Proofs.Reconcile.ClaimConduct

/-!
# Runs that can be computed

A run leaves it open what happens and what comes of it.  If whoever answers the calls is given as a
function, a run follows from a list of happenings and can be computed; `Run.rehearsed` says that it
is one of the runs.  `Plant.serveClaims` and `Plant.serveAccesses` answer for a plant: they carry out
every call, and a `Hearing` says what becomes of a status write that may be accepted.
-/

set_option autoImplicit false
set_option linter.unusedSectionVars false

namespace BucketProvisioning.Engine

open BucketProvisioning BucketProvisioning.Reconcile BucketProvisioning.Backend
open BucketProvisioning.Resource

section rehearsal

variable {α ω : Type} [Object α] [Managed α]

/-- Somebody who answers calls. -/
abbrev Server (ω : Type) := ω → (c : Call) → Except Failure c.Result × ω

/-- Something happens, and a call is answered in a certain way. -/
def Happening.answered (reply : Replies) : Happening α → Happening α
  | .move (.work i _) => .move (.work i reply)
  | h => h

namespace Desk

variable (serve : Server ω) (reconcile : String → Program α (Except Failure Unit)) (count : Nat)

/-- The state in which a call that is made leaves the world outside. -/
def after (o : ω) (d : Desk α) (h : Happening α) : ω :=
  match d.made? h with
  | some (_, made) => (serve o made.call).2
  | none => o

/-- A desk, its trace and the world outside after a list of happenings, unless one of them cannot
happen. -/
def rehearse : List (Happening α) → Desk α → Trace α → ω → Option (Desk α × Trace α × ω)
  | [], d, trace, o => some (d, trace, o)
  | h :: later, d, trace, o =>
    let h := h.answered fun c => (serve o c).1
    match d.happen reconcile count h with
    | some d' => rehearse later d' ((d, h) :: trace) (after serve o d h)
    | none => none

end Desk

variable {O : Outside α ω} {serve : Server ω}
variable {reconcile : String → Program α (Except Failure Unit)} {count : Nat}

/-- A happening that is answered as the world outside may answer is explained. -/
theorem Outside.explains_answered (serves : ∀ o c, O.answers o c (some (serve o c).1) (serve o c).2)
    {o : ω} {h : Happening α} (reports : h.Reports (O.shows o)) (stays : ∀ i, h ≠ .lose i)
    (d : Desk α) :
    O.Explains o d (h.answered fun c => (serve o c).1)
      (d.after serve o (h.answered fun c => (serve o c).1)) := by
  refine ⟨?_, ?_⟩
  · cases h with
    | move m => cases m <;> exact reports
    | _ => exact reports
  · unfold Desk.after
    cases made : d.made? (h.answered fun c => (serve o c).1) with
    | none => rfl
    | some made' =>
      obtain ⟨text, c, reply⟩ := made'
      have is : reply = some (serve o c).1 := by
        cases h with
        | lose i => exact absurd rfl (stays i)
        | move m =>
          cases m <;> simp only [Happening.answered, Desk.made?, reduceCtorEq] at made
          split at made
          · obtain ⟨-, same⟩ := Prod.mk.inj (Option.some.inj made)
            cases same
            rfl
          · simp at made
        | _ => simp [Happening.answered, Desk.made?] at made
      rw [is]
      exact serves o c

/-- **What is rehearsed is a run**, if everything that is reported may be reported from the
beginning and no worker breaks down. -/
theorem Run.rehearsed (serves : ∀ o c, O.answers o c (some (serve o c).1) (serve o c).2)
    {first d d' : Desk α} {trace trace' : Trace α} {start o o' : ω}
    {happenings : List (Happening α)}
    (run : Run O reconcile count first start d trace o)
    (reports : ∀ h ∈ happenings, h.Reports (O.shows o) ∧ ∀ i, h ≠ .lose i)
    (rehearsed : d.rehearse serve reconcile count happenings trace o = some (d', trace', o')) :
    Run O reconcile count first start d' trace' o' := by
  induction happenings generalizing d trace o with
  | nil =>
    obtain ⟨rfl, rest⟩ := Prod.mk.inj (Option.some.inj rehearsed)
    obtain ⟨rfl, rfl⟩ := Prod.mk.inj rest
    exact run
  | cons h later ih =>
    rw [List.forall_mem_cons] at reports
    unfold Desk.rehearse at rehearsed
    dsimp only at rehearsed
    split at rehearsed
    · rename_i d₁ happens
      have explained := O.explains_answered serves reports.1.1 reports.1.2 d
      refine ih (run.happened happens explained) ?_ rehearsed
      exact fun h' mem => (reports.2 h' mem).imp_left (·.mono fun obj => explained.shows)
    · simp at rehearsed

end rehearsal

/-! ## Scripts -/

section scripts

variable {α : Type}

/-- A worker takes some steps. -/
def labour (steps : Nat) : List (Happening α) :=
  List.replicate steps (.move (.work 0 fun _ => .error (.internal "api" "down")))

/-- Some objects are listed, and the worker is started. -/
def opened (objs : List α) : List (Happening α) :=
  [.move (.receive .listBegin)] ++ objs.map (fun obj => .move (.receive (.listed obj))) ++
    [.move (.receive .listEnd)] ++ List.replicate (2 * objs.length + 1) (.move .route) ++
    [.move .start]

/-- An object vanishes. -/
def vanished (obj : α) : List (Happening α) :=
  [.move (.receive (.delete obj)), .move .route, .move .route]

/-- A worker that takes steps reports nothing and does not break down. -/
theorem reports_labour {P : α → Prop} {steps : Nat} :
    ∀ h ∈ labour (α := α) steps, h.Reports P ∧ ∀ i, h ≠ .lose i := by
  intro h mem
  rw [List.eq_of_mem_replicate mem]
  exact ⟨trivial, nofun⟩

/-- That an object vanishes may be reported at any time. -/
theorem reports_vanished {P : α → Prop} {obj : α} :
    ∀ h ∈ vanished obj, h.Reports P ∧ ∀ i, h ≠ .lose i := by
  simp [vanished, Happening.Reports]

/-- Nothing is listed but the given objects. -/
theorem reports_opened {P : α → Prop} {objs : List α} (all : ∀ obj ∈ objs, P obj) :
    ∀ h ∈ opened objs, h.Reports P ∧ ∀ i, h ≠ .lose i := by
  intro h mem
  simp only [opened, List.mem_append, List.mem_singleton, List.mem_map, List.mem_replicate] at mem
  rcases mem with (((rfl | ⟨obj, there, rfl⟩) | rfl) | ⟨-, rfl⟩) | rfl
  · exact ⟨trivial, nofun⟩
  · exact ⟨all obj there, nofun⟩
  all_goals exact ⟨trivial, nofun⟩

/-- An object is listed, a worker takes some steps, the object vanishes, and the worker takes some
more steps. -/
def lifetime (obj : α) (before after : Nat) : List (Happening α) :=
  opened [obj] ++ labour before ++ vanished obj ++ labour after

/-- Nothing is reported but the object. -/
theorem reports_lifetime {P : α → Prop} {obj : α} {before after : Nat} (is : P obj) :
    ∀ h ∈ lifetime obj before after, h.Reports P ∧ ∀ i, h ≠ .lose i := by
  simp only [lifetime, List.forall_mem_append]
  exact ⟨⟨⟨reports_opened (by simpa using is), reports_labour⟩, reports_vanished⟩, reports_labour⟩

end scripts

/-- Whether a desk that is open has nothing to do and nothing to wait for. -/
def Desk.isQuiet {α : Type} (d : Desk α) : Bool :=
  !d.queue.keys.shuttingDown && d.queue.keys.dirty.isEmpty && d.queue.delayed.pending.isEmpty &&
    d.routing.isEmpty && d.workers.all (·.key?.isNone)

/-! ## Notes in outline -/

/-- A note without its data: objects are given by their unique identifiers. -/
inductive Outline where
  /-- The key is looked up. -/
  | lookedUp (k : ObjectKey) (found record : Option String)
  /-- A backend is called for the key; this is whether the call succeeds. -/
  | operated (k : ObjectKey) (backendType : String) (op : Operation) (well : Bool)
  /-- A class is read for the key; this is its policy if that succeeds. -/
  | classRead (k : ObjectKey) (name : String) (policy : Option DeletionPolicy)
  /-- Something else is called for the key; this is whether the call succeeds. -/
  | called (k : ObjectKey) (well : Bool)
  /-- A reconcile of the key ends; this is whether it succeeds. -/
  | finished (k : ObjectKey) (well : Bool)
deriving DecidableEq

/-- The outline of a note. -/
def Note.outline {α : Type} [Object α] : Note α → Outline
  | .lookedUp k found record => .lookedUp k (found.bind Object.uid?) (record.bind Object.uid?)
  | .called k ⟨.backend t op, reply⟩ _ => .operated k t op (reply.any (·.toBool))
  | .called k ⟨.getClass name, reply⟩ _ =>
    .classRead k name ((reply.bind Except.toOption).map fun c : BucketClass => c.spec.deletionPolicy)
  | .called k ⟨_, reply⟩ _ => .called k (reply.any (·.toBool))
  | .finished k outcome => .finished k outcome.toBool

section outlines

variable {α : Type} [Object α] [Managed α] {notes : List (Note α)} {k : ObjectKey} {u : String}
variable {later earlier : List Outline}

/-- The outline shows which looks were taken. -/
theorem Note.mem_outline {found record : Option α} (mem : .lookedUp k found record ∈ notes) :
    .lookedUp k (found.bind Object.uid?) (record.bind Object.uid?) ∈ notes.map Note.outline :=
  List.mem_map_of_mem mem

/-- A note of which the outline says that a reconcile has succeeded says so itself. -/
theorem Note.eq_finished {note : Note α} (is : note.outline = .finished k true) :
    note = .finished k (.ok ()) := by
  cases note with
  | lookedUp k' found record => simp [Note.outline] at is
  | called k' made on =>
    obtain ⟨c, reply⟩ := made
    cases c <;> simp [Note.outline] at is
  | finished k' outcome =>
    cases outcome with
    | error e => simp [Note.outline, Except.toBool] at is
    | ok _ => simpa [Note.outline, Except.toBool] using is

/-- No object comes back if one and the same is shown at first, and nothing later on. -/
theorem noReturn_of_outline (is : notes.map Note.outline = later ++ earlier)
    (gone : ∀ k found record, .lookedUp k found record ∈ later → found = none)
    (shown : ∀ k found record, .lookedUp k found record ∈ earlier → found = some u) :
    NoReturn notes := by
  obtain ⟨before, after, rfl, rfl, rfl⟩ := List.map_eq_append_iff.1 is
  exact (noReturn_of_shown fun k found initial mem => shown k _ _ (Note.mem_outline mem)).append
    fun k found initial mem => gone k _ _ (Note.mem_outline mem)

/-- The outline shows that a reconcile has succeeded. -/
theorem acknowledged_of_outline {obj : α}
    (is : notes.map Note.outline = later ++ .finished k true :: earlier)
    (there : (attemptAt k none (notes.drop (later.length + 1))).found = some obj) :
    Acknowledged k obj notes := by
  obtain ⟨before, rest, rfl, rfl, split⟩ := List.map_eq_append_iff.1 is
  obtain ⟨note, after, rfl, finished, rfl⟩ := List.map_eq_cons_iff.1 split
  obtain rfl := Note.eq_finished finished
  refine ⟨before, after, rfl, ?_⟩
  rwa [List.length_map, List.drop_length_add_append, List.drop_one, List.tail_cons] at there

end outlines

/-! ## Plants that answer -/

/-- A server that keeps one object. -/
def ApiServer.keeping {α : Type} [Object α] (k : ObjectKey) (obj : α) : ApiServer α :=
  ({} : ApiServer α).put k obj

/-- A server with one object is sound, if that has no status or one that says what was built. -/
theorem ApiServer.keeping_sound {α : Type} [Object α] [Managed α] {k : ObjectKey} {obj : α}
    (place : ObjectKey.ofObject? obj = some k) (identified : (Object.uid? obj).isSome)
    (blank : Managed.status? obj = none ∨ isBuilt obj = true) : (keeping k obj).Sound :=
  have none_before {P : α → Prop} : ∀ v ∈ ({} : ApiServer α).past, P v :=
    fun _ mem => absurd mem List.not_mem_nil
  Sound.empty.put ⟨place, none_before⟩ identified none_before blank none_before

/-- The server after it has accepted the write of a status from a copy, whereby an object is
stored, if it may accept that. -/
def ApiServer.accept {α : Type} [Object α] (s : ApiServer α) (copy obj : α) : Option (ApiServer α) :=
  match ObjectKey.ofObject? copy with
  | none => none
  | some k =>
    if (s.stored.get? k).any (fun old => version? old = version? copy &&
          Object.uid? old = Object.uid? copy) &&
        ObjectKey.ofObject? obj = some k &&
        s.past.all (fun v => ObjectKey.ofObject? v ≠ some k || version? v ≠ version? obj) &&
        Object.uid? obj = Object.uid? copy && (Object.uid? obj).isSome then some (s.put k obj)
    else none

/-- A write that is accepted is one that the server may accept. -/
theorem ApiServer.accepts_of_accept {α : Type} [Object α] [Managed α] {s s' : ApiServer α}
    {copy obj : α} {status : Managed.Status α} (h : s.accept copy obj = some s')
    (written : Managed.status? obj = some status) :
    ∃ k, s.Accepts copy status k obj ∧ s' = s.put k obj := by
  unfold accept at h
  split at h
  · simp at h
  · rename_i k place
    split at h
    · rename_i may
      simp only [Bool.and_eq_true, decide_eq_true_eq, List.all_eq_true, Bool.or_eq_true] at may
      obtain ⟨⟨⟨⟨current, place'⟩, fresh⟩, same⟩, identified⟩ := may
      obtain ⟨old, there, both⟩ := (Option.any_eq_true _ _).1 current
      simp only [Bool.and_eq_true, decide_eq_true_eq] at both
      refine ⟨k, ⟨⟨place, old, there, both⟩, ⟨place', fun v mem sameKey => ?_⟩, ⟨same, identified⟩,
        written⟩, (Option.some.inj h).symm⟩
      exact (fresh v mem).resolve_left fun other => other sameKey
    · simp at h

/-- The next version of metadata. -/
def nextVersion (m : Metadata) : Metadata :=
  { m with resourceVersion := m.resourceVersion.map (· ++ "+") }

/-- A refusal of the API server. -/
def conflict : Failure := .api (.rejected (.failure 409 "Conflict" "the object has been modified"))

namespace Facilities

/-- Carries a call out; what concerns the API server is answered by `answer`, and `fresh` is the key
pair of a new grant. -/
def carry (answer : Replies) (fresh : Credentials) (f : Facilities) :
    (c : Call) → Except Failure c.Result × Facilities
  | .backend t op =>
    ((InMemory.run fresh op (f.backends t)).1, f.setBackend t (InMemory.run fresh op (f.backends t)).2)
  | .getSecret ns name => (.ok (f.secrets.get? (ns, name)), f)
  | .createSecret ns secret =>
    if f.secrets.contains (ns, secret.metadata.nameOrEmpty) then (.error conflict, f)
    else
      (.ok (), { f with secrets := f.secrets.insert (ns, secret.metadata.nameOrEmpty) secret })
  | .deleteSecret ns name =>
    (if f.secrets.contains (ns, name) then .ok () else .error (.missing "secret" name),
      { f with secrets := f.secrets.erase (ns, name) })
  | .getClass name => (answer (.getClass name), f)
  | .getClaim ns name => (answer (.getClaim ns name), f)
  | .writeClaimStatus claim status => (answer (.writeClaimStatus claim status), f)
  | .writeAccessStatus access status => (answer (.writeAccessStatus access status), f)

/-- What is carried out is one of the ways in which the facilities may carry it out. -/
theorem carries_carry (answer : Replies) (fresh : Credentials) (f : Facilities) (c : Call) :
    f.Carries c (f.carry answer fresh c).1 (f.carry answer fresh c).2 := by
  cases c with
  | backend t op => exact ⟨fresh, rfl, rfl⟩
  | createSecret ns secret =>
    simp only [Carries, carry]
    split
    · exact ⟨⟨_, rfl⟩, rfl⟩
    · exact ⟨rfl, rfl⟩
  | deleteSecret ns name =>
    refine ⟨?_, rfl⟩
    simp only [carry]
    split
    · rfl
    · exact ⟨_, rfl, rfl⟩
  | getSecret ns name => exact ⟨rfl, rfl⟩
  | _ => rfl

end Facilities

namespace Plant

/-- A claim with another status, in its next version. -/
def withClaimStatus (claim : BucketClaim) (status : ClaimStatus) : BucketClaim :=
  { claim with metadata := nextVersion claim.metadata, status := some status }

/-- An access with another status, in its next version. -/
def withAccessStatus (access : BucketAccess) (status : AccessStatus) : BucketAccess :=
  { access with metadata := nextVersion access.metadata, status := some status }

/-- What becomes of a status write that may be accepted. -/
inductive Hearing where
  /-- It is accepted. -/
  | granted
  /-- It is accepted, but the operator hears of a failure. -/
  | unheard
  /-- It is refused. -/
  | refused

/-- The status of a copy is written, whereby an object is stored if the write is accepted. -/
def write {α : Type} [Object α] (hearing : Hearing) (p : Plant α) (copy obj : α) :
    Except Failure α × Plant α :=
  match hearing, p.server.accept copy obj with
  | .granted, some s => (.ok obj, { p with server := s })
  | .unheard, some s => (.error conflict, { p with server := s })
  | _, _ => (.error conflict, p)

/-- Answers the calls for claims. -/
def serveClaims (answer : Replies) (hearing : Hearing) (p : Plant BucketClaim) :
    (c : Call) → Except Failure c.Result × Plant BucketClaim
  | .writeClaimStatus copy status => write (α := BucketClaim) hearing p copy (withClaimStatus copy status)
  | c =>
    ((p.facilities.carry answer default c).1,
      { p with facilities := (p.facilities.carry answer default c).2 })

/-- Answers the calls for accesses. -/
def serveAccesses (answer : Replies) (hearing : Hearing) (p : Plant BucketAccess) :
    (c : Call) → Except Failure c.Result × Plant BucketAccess
  | .writeAccessStatus copy status =>
    write (α := BucketAccess) hearing p copy (withAccessStatus copy status)
  | c =>
    ((p.facilities.carry answer default c).1,
      { p with facilities := (p.facilities.carry answer default c).2 })

variable {fails others : Call → Prop} {answer : Replies} {hearing : Hearing}

/-- A call that writes no status is answered by the facilities. -/
theorem answers_carry {α : Type} [Object α] [Managed α] (p : Plant α) (c : Call)
    (unwritten : (Managed.written? c : Option (α × _)) = none) :
    (plant α fails others).answers p c (some (p.facilities.carry answer default c).1)
      { p with facilities := (p.facilities.carry answer default c).2 } := by
  refine ⟨?_, Or.inl ⟨_, p.facilities.carries_carry answer default c, Or.inl rfl⟩⟩
  show p.server.Answers c _ p.server
  unfold ApiServer.Answers
  rw [unwritten]

/-- Whatever becomes of a status write, it is what an API server may make of it, and it concerns
nothing else. -/
theorem writes_write {α : Type} [Object α] [Managed α] (hearing : Hearing) (p : Plant α)
    (copy : α) {obj : α} {status : Managed.Status α} (written : Managed.status? obj = some status) :
    p.server.Writes copy status (p.write hearing copy obj).1.toOption
        (p.write hearing copy obj).2.server ∧
      (p.write hearing copy obj).2.facilities = p.facilities := by
  unfold write
  split
  · rename_i s accepted
    obtain ⟨k, accepts, rfl⟩ := ApiServer.accepts_of_accept accepted written
    exact ⟨Or.inr ⟨k, obj, accepts, rfl, Or.inr rfl⟩, rfl⟩
  · rename_i s accepted
    obtain ⟨k, accepts, rfl⟩ := ApiServer.accepts_of_accept accepted written
    exact ⟨Or.inr ⟨k, obj, accepts, rfl, Or.inl rfl⟩, rfl⟩
  · exact ⟨Or.inl ⟨rfl, rfl⟩, rfl⟩

/-- The calls for claims are answered as a plant may answer them. -/
theorem serveClaims_answers (p : Plant BucketClaim) (c : Call) :
    (plant BucketClaim fails others).answers p c (some (serveClaims answer hearing p c).1)
      (serveClaims answer hearing p c).2 := by
  cases c with
  | writeClaimStatus copy status =>
    obtain ⟨writes, same⟩ :=
      writes_write hearing p copy (rfl : (withClaimStatus copy status).status = some status)
    refine ⟨?_, Or.inl ⟨_, same, Or.inl rfl⟩⟩
    have confirmed : ∀ reply : Except Failure BucketClaim,
        Claims.confirmed? (.writeClaimStatus copy status) reply = reply.toOption := by
      rintro (_ | _) <;> rfl
    rw [← confirmed] at writes
    exact writes
  | _ => exact answers_carry p _ rfl

/-- The calls for accesses are answered as a plant may answer them. -/
theorem serveAccesses_answers (p : Plant BucketAccess) (c : Call) :
    (plant BucketAccess fails others).answers p c (some (serveAccesses answer hearing p c).1)
      (serveAccesses answer hearing p c).2 := by
  cases c with
  | writeAccessStatus copy status =>
    obtain ⟨writes, same⟩ :=
      writes_write hearing p copy (rfl : (withAccessStatus copy status).status = some status)
    refine ⟨?_, Or.inl ⟨_, same, Or.inl rfl⟩⟩
    have confirmed : ∀ reply : Except Failure BucketAccess,
        Accesses.confirmed? (.writeAccessStatus copy status) reply = reply.toOption := by
      rintro (_ | _) <;> rfl
    rw [← confirmed] at writes
    exact writes
  | _ => exact answers_carry p _ rfl

end Plant

/-! ## A small cluster -/

/-- The registry that serves one type from memory. -/
def oneType : Registry := ({} : Registry).register "fake" .inMemory

/-- A class for that type. -/
def someClass : BucketClass where
  metadata := { name := some "c", uid := some "s" }
  spec := { parameters := [(backendTypeParameter, "fake")] }

/-- Every class can be read, and is this one. -/
def onlySomeClass : Replies
  | .getClass _ => .ok someClass
  | _ => .error conflict

/-- No class can be read. -/
def noClass : Replies
  | .getClass name => .error (.missing "BucketClass" name)
  | _ => .error conflict

/-- A claim that nothing has been done for. -/
def newClaim : BucketClaim where
  metadata := { name := some "a", ns := some "n", uid := some "u", resourceVersion := some "1" }
  spec := { className := some "c" }

/-- An access that nothing has been done for. -/
def newAccess : BucketAccess where
  metadata := { name := some "a", ns := some "n", uid := some "u", resourceVersion := some "1" }
  spec := { className := some "c", existingBucketId := some "b" }

/-- A plant with an object and nothing else but a bucket. -/
def plantWith {α : Type} [Object α] (obj : α) : Plant α where
  server := .keeping (.namespaced "n" "a") obj
  facilities := { backends := fun _ => { buckets := ({} : Table String String).insert "b" "" } }

/-- The object that a plant is set up with may be reported. -/
theorem plantWith_shows {α : Type} [Object α] [Managed α] {fails others : Call → Prop} {obj : α}
    (identified : (Object.uid? obj).isSome) : (plant α fails others).shows (plantWith obj) obj :=
  ⟨List.mem_singleton_self _, identified⟩

/-- The status of the claim once its bucket has been created. -/
def newClaimStatus : ClaimStatus := .ofProvisioned someClass "fake-u" "fake"

/-- What is noted when the claim is provisioned and then vanishes. -/
def newClaimNotes : List (Note BucketClaim) :=
  let provisioned := Plant.withClaimStatus newClaim newClaimStatus
  [.finished (.namespaced "n" "a") (.ok ()),
    .called (.namespaced "n" "a") ⟨.backend "fake" (.deleteBucket "fake-u" ""), some (.ok ())⟩
      (some provisioned),
    .lookedUp (.namespaced "n" "a") none (some provisioned),
    .finished (.namespaced "n" "a") (.ok ()),
    .called (.namespaced "n" "a")
      ⟨.writeClaimStatus newClaim newClaimStatus, some (.ok provisioned)⟩ none,
    .called (.namespaced "n" "a") ⟨.backend "fake" (.createBucket "u" ""), some (.ok "fake-u")⟩ none,
    .called (.namespaced "n" "a") ⟨.getClass "c", some (.ok someClass)⟩ none] ++
    [.lookedUp (.namespaced "n" "a") (some newClaim) none]

/-- The claim is provisioned, vanishes and is torn down. -/
theorem run_newClaim (fails others : Call → Prop) : ∃ d trace p,
    Run (plant BucketClaim fails others) (Claims.reconcile oneType) 1 (.opening {} {})
      (plantWith newClaim) d trace p ∧
    trace.notes = newClaimNotes ∧ d.isQuiet = true ∧
    d.stores.cache.objects.get? (.namespaced "n" "a") = none := by
  obtain ⟨d, trace, p, rehearsed, rest⟩ : ∃ d trace p,
      Desk.rehearse (Plant.serveClaims onlySomeClass .granted) (Claims.reconcile oneType) 1
        (lifetime newClaim 13 11) (.opening {} {}) [] (plantWith newClaim) = some (d, trace, p) ∧
      Trace.notes trace = newClaimNotes ∧ d.isQuiet = true ∧
      d.stores.cache.objects.get? (.namespaced "n" "a") = none :=
    ⟨_, _, _, by rfl, by rfl, by rfl, by rfl⟩
  exact ⟨d, trace, p, Run.start.rehearsed Plant.serveClaims_answers
    (reports_lifetime (plantWith_shows rfl)) rehearsed, rest⟩

/-- The status of the access once it has been granted. -/
def newAccessStatus : AccessStatus where
  accessGranted := true
  accountId := "account-s-id"
  bucketId := "b"
  backendType := "fake"
  secretName := "bucket-credentials-a"

/-- What is noted when the access is granted and then vanishes. -/
def newAccessNotes : List (Note BucketAccess) :=
  let granted := Plant.withAccessStatus newAccess newAccessStatus
  let secret := credentialsSecret newAccess "bucket-credentials-a" "b" none default
  [.finished (.namespaced "n" "a") (.ok ()),
    .called (.namespaced "n" "a") ⟨.deleteSecret "n" "bucket-credentials-a", some (.ok ())⟩
      (some granted),
    .called (.namespaced "n" "a")
      ⟨.backend "fake" (.revokeAccess "b" "account-s-id"), some (.ok ())⟩ (some granted),
    .lookedUp (.namespaced "n" "a") none (some granted),
    .finished (.namespaced "n" "a") (.ok ()),
    .called (.namespaced "n" "a")
      ⟨.writeAccessStatus newAccess newAccessStatus, some (.ok granted)⟩ none,
    .called (.namespaced "n" "a") ⟨.createSecret "n" secret, some (.ok ())⟩ none,
    .called (.namespaced "n" "a") ⟨.getSecret "n" "bucket-credentials-a", some (.ok none)⟩ none,
    .called (.namespaced "n" "a")
      ⟨.backend "fake" (.grantAccess "b" "account-s"), some (.ok ⟨"account-s-id", default⟩)⟩ none,
    .called (.namespaced "n" "a") ⟨.getClass "c", some (.ok someClass)⟩ none] ++
    [.lookedUp (.namespaced "n" "a") (some newAccess) none]

/-- The access is granted, vanishes and is revoked. -/
theorem run_newAccess (fails others : Call → Prop) : ∃ d trace p,
    Run (plant BucketAccess fails others) (Accesses.reconcile oneType) 1 (.opening {} {})
      (plantWith newAccess) d trace p ∧
    trace.notes = newAccessNotes ∧ d.isQuiet = true ∧
    d.stores.cache.objects.get? (.namespaced "n" "a") = none := by
  obtain ⟨d, trace, p, rehearsed, rest⟩ : ∃ d trace p,
      Desk.rehearse (Plant.serveAccesses onlySomeClass .granted) (Accesses.reconcile oneType) 1
        (lifetime newAccess 14 11) (.opening {} {}) [] (plantWith newAccess) =
          some (d, trace, p) ∧
      Trace.notes trace = newAccessNotes ∧ d.isQuiet = true ∧
      d.stores.cache.objects.get? (.namespaced "n" "a") = none :=
    ⟨_, _, _, by rfl, by rfl, by rfl, by rfl⟩
  exact ⟨d, trace, p, Run.start.rehearsed Plant.serveAccesses_answers
    (reports_lifetime (plantWith_shows rfl)) rehearsed, rest⟩

end BucketProvisioning.Engine
