import BucketProvisioning.Proofs.Queue.Floor

/-!
# No wake-up is lost

Whoever adds a key lets go of the keys before the bell is rung, and whoever was handed a key lets go
of them before it rings for the next one and leaves.  Between any two of these pieces others may
come.  A `Lobby` is a retrying queue with everything that is under way at it: the rings that are
still to be made, and how far every request for a key has come.  A `Piece` is what nothing can
interrupt; `Lobby.run` lets pieces follow one another in any order.  An act that nobody interrupts
is its pieces one after the other (`run_add`, `run_done`, `run_shutDown`, `run_look`).

* `Lobby.Alert`: something is under way that will bring somebody to look at the queue.
* `Lobby.Sound`: as long as a key is ready and the queue is open, somebody is alert; once it has
  been shut down everybody who sleeps is woken, or is going to be.  Every piece keeps this, whatever
  it finds; of the bell it needs what is said in the first section.

`no_wakeup_lost` is what follows.
-/

set_option autoImplicit false
set_option linter.unusedSectionVars false

namespace BucketProvisioning.Queue

open BucketProvisioning

/-! ## What a bell does -/

namespace Bell

variable {b : Bell} {i j : Nat} {r : Ring}

/-- Somebody listens: it sleeps, or it has been woken and has not left yet. -/
def Knows (b : Bell) (i : Nat) : Prop := i ∈ b.sleepers ∨ b.isWoken i = true

/-- Somebody is woken by one ring or by a ring for all. -/
theorem isWoken_iff : b.isWoken i = true ↔ ∃ r, (i, r) ∈ b.woken := by
  simp [isWoken]

/-- A ring is kept if nobody sleeps. -/
theorem ring_of_nobody (nobody : b.sleepers = []) : b.ring = { b with kept := true } := by
  simp [ring, nobody]

/-- A ring wakes the one who has slept longest. -/
theorem ring_of_somebody {rest : List Nat} (first : b.sleepers = i :: rest) :
    b.ring = { b with sleepers := rest, woken := b.woken ++ [(i, .single)] } := by
  simp [ring, first]

/-- No ring is without effect: it is kept, or somebody has been woken by it. -/
theorem ring_heard (b : Bell) : b.ring.kept = true ∨ ∃ i, (i, .single) ∈ b.ring.woken := by
  cases sleep : b.sleepers with
  | nil => exact Or.inl (by rw [ring_of_nobody sleep])
  | cons i rest => exact Or.inr ⟨i, by rw [ring_of_somebody sleep]; simp⟩

/-- Ringing does not change whom the bell knows. -/
@[simp] theorem knows_ring : b.ring.Knows i ↔ b.Knows i := by
  cases sleep : b.sleepers with
  | nil =>
    rw [ring_of_nobody sleep]
    exact Iff.rfl
  | cons j rest =>
    rw [ring_of_somebody sleep]
    simp only [Knows, isWoken, sleep, List.any_append, List.any_cons, List.any_nil, List.mem_cons,
      Bool.or_eq_true, decide_eq_true_eq, Bool.or_false, eq_comm (a := j)]
    tauto

/-- Ringing for all does not change whom the bell knows. -/
@[simp] theorem knows_ringAll : b.ringAll.Knows i ↔ b.Knows i := by
  simp [Knows, ringAll, isWoken_iff, exists_or, or_comm]

/-- Nobody sleeps after everybody has been woken. -/
theorem isWoken_ringAll (known : b.Knows i) : b.ringAll.isWoken i = true :=
  (knows_ringAll.2 known).resolve_left (by simp [ringAll])

/-- Whoever has been woken stays so when the bell rings. -/
theorem isWoken_ring (woken : b.isWoken i = true) : b.ring.isWoken i = true := by
  obtain ⟨r, mem⟩ := isWoken_iff.1 woken
  refine isWoken_iff.2 ⟨r, ?_⟩
  cases sleep : b.sleepers with
  | nil => rwa [ring_of_nobody sleep]
  | cons j rest =>
    rw [ring_of_somebody sleep]
    exact List.mem_append_left _ mem

/-- Whoever is forgotten is not woken. -/
@[simp] theorem mem_woken_forget : (j, r) ∈ (b.forget i).woken ↔ (j, r) ∈ b.woken ∧ j ≠ i := by
  simp [forget]

/-- Whoever is forgotten does not sleep. -/
@[simp] theorem mem_sleepers_forget : j ∈ (b.forget i).sleepers ↔ j ∈ b.sleepers ∧ j ≠ i := by
  simp [forget]

/-- Whoever else was woken stays so when somebody is forgotten. -/
theorem isWoken_forget : (b.forget i).isWoken j = true ↔ b.isWoken j = true ∧ j ≠ i := by
  simp [isWoken_iff]

/-- A bell knows nothing of whom it has forgotten. -/
@[simp] theorem knows_forget : (b.forget i).Knows j ↔ b.Knows j ∧ j ≠ i := by
  simp only [Knows, mem_sleepers_forget, isWoken_forget]
  tauto

/-- A bell knows nothing of whom has left. -/
@[simp] theorem knows_leave : (b.leave i).Knows j ↔ b.Knows j ∧ j ≠ i := by
  unfold leave
  simp only
  split <;> simp

/-- Whoever has been woken stays so when somebody else leaves. -/
theorem isWoken_leave (woken : b.isWoken j = true) (other : j ≠ i) :
    (b.leave i).isWoken j = true := by
  have kept := isWoken_forget.2 ⟨woken, other⟩
  unfold leave
  simp only
  split
  · exact isWoken_ring kept
  · exact kept

/-- A bell knows whoever listens to it. -/
@[simp] theorem knows_listen : (b.listen i).Knows j ↔ j = i ∨ b.Knows j := by
  unfold listen
  split <;> simp [Knows, isWoken_iff, exists_or] <;> tauto

/-- Whoever has been woken stays so when somebody begins to listen. -/
theorem isWoken_listen (woken : b.isWoken j = true) : (b.listen i).isWoken j = true := by
  obtain ⟨r, mem⟩ := isWoken_iff.1 woken
  refine isWoken_iff.2 ⟨r, ?_⟩
  unfold listen
  split
  · exact List.mem_append_left _ mem
  · exact mem

/-! A ring is kept only while nobody sleeps. -/

/-- Nobody sleeps while a ring is kept. -/
def Tight (b : Bell) : Prop := b.kept = true → b.sleepers = []

/-- A ring is kept only if it finds nobody asleep. -/
theorem Tight.ring (tight : b.Tight) : b.ring.Tight := by
  cases sleep : b.sleepers with
  | nil =>
    rw [ring_of_nobody sleep]
    exact fun _ => sleep
  | cons i rest =>
    rw [ring_of_somebody sleep]
    intro kept
    simp [tight kept] at sleep

/-- After a ring for all nobody sleeps. -/
theorem Tight.ringAll : b.ringAll.Tight := fun _ => rfl

/-- Forgetting somebody puts nobody to sleep. -/
theorem Tight.forget (tight : b.Tight) (i : Nat) : (b.forget i).Tight := by
  intro kept
  have none : b.sleepers = [] := tight kept
  simp [Bell.forget, none]

/-- Whoever leaves passes a ring on as if it had been made then. -/
theorem Tight.leave (tight : b.Tight) (i : Nat) : (b.leave i).Tight := by
  unfold Bell.leave
  simp only
  split
  · exact (tight.forget i).ring
  · exact tight.forget i

/-- Whoever begins to listen takes the ring that is kept, or sleeps where none is. -/
theorem Tight.listen (i : Nat) : (b.listen i).Tight := by
  unfold Bell.listen
  split
  · intro kept
    simp at kept
  · rename_i none
    exact fun kept => absurd kept none

end Bell

/-! ## Pieces of acts -/

/-- How far a request for a key has come. -/
inductive Stage where
  /-- There is no request. -/
  | away
  /-- It has begun to listen and is about to look at the queue. -/
  | listening
  /-- It has found nothing and sleeps. -/
  | asleep
  /-- It has its answer and is about to leave; if more keys wait it rings before that. -/
  | leaving (more : Bool)
deriving DecidableEq, Repr

/-- A queue and everything that is under way at it. -/
structure Lobby (κ : Type) where
  /-- The queue. -/
  queue : RetryQueue κ
  /-- The rings that are still to be made for keys that have been made ready. -/
  rings : Nat := 0
  /-- How often everybody is still to be woken because the queue has been shut down. -/
  alarms : Nat := 0
  /-- How far each request has come. -/
  stage : Nat → Stage := fun _ => .away

/-- What nothing can interrupt. -/
inductive Piece (κ : Type) where
  /-- The first piece of an act. -/
  | first (a : Act κ)
  /-- A ring is made for a key that has been made ready. -/
  | ring
  /-- Everybody is woken because the queue has been shut down. -/
  | ringAll
  /-- A request that has its answer rings if more keys wait, and leaves after that. -/
  | leave (i : Nat)
deriving Repr

namespace Lobby

variable {κ : Type} [DecidableEq κ]

/-- A queue to which nothing has happened yet. -/
def opening (policy : RetryPolicy) : Lobby κ := { queue := .ofPolicy policy }

/-- The keys of the queue. -/
def keys (l : Lobby κ) : WorkQueue κ := l.queue.keys

/-- The bell of the queue. -/
def bell (l : Lobby κ) : Bell := l.queue.station.bell

/-- The lobby with other keys. -/
def withKeys (l : Lobby κ) (keys : WorkQueue κ) : Lobby κ :=
  { l with queue := { l.queue with station := { l.queue.station with queue := keys } } }

/-- The lobby with another bell. -/
def withBell (l : Lobby κ) (bell : Bell) : Lobby κ :=
  { l with queue := { l.queue with station := { l.queue.station with bell } } }

/-- The lobby with a request at another stage. -/
def withStage (l : Lobby κ) (i : Nat) (stage : Stage) : Lobby κ :=
  { l with stage := Function.update l.stage i stage }

/-- The lobby with a ring that is still to be made, if there is a reason for it. -/
def owing (l : Lobby κ) (reason : Bool) : Lobby κ := { l with rings := l.rings + reason.toNat }

/-- A key is added. -/
def put (l : Lobby κ) (k : κ) : Lobby κ :=
  (l.withKeys (l.keys.add k)).owing (l.keys.addWakes k)

/-- A key is added after a delay, and at once without one. -/
def putAfter (l : Lobby κ) (k : κ) (delay : Span) : Lobby κ :=
  if l.queue.isShuttingDown then l
  else if delay.isZero then l.put k
  else { l with queue := l.queue.addAfter k delay }

/-- A request looks at the queue. -/
def look (l : Lobby κ) (i : Nat) : Lobby κ :=
  if l.keys.shuttingDown then l.withStage i (.leaving false)
  else
    match l.keys.take? with
    | some (_, keys) => (l.withKeys keys).withStage i (.leaving (!keys.waiting.isEmpty))
    | none => l.withStage i .asleep

/-- The first piece of an act.  A request begins, or begins again after it has been woken; it can
be given up while it sleeps. -/
def begin (l : Lobby κ) : Act κ → Option (Lobby κ)
  | .add k => some (l.put k)
  | .addAfter k delay => some (l.putAfter k delay)
  | .addFailed k =>
    let (delay, backoff) := l.queue.backoff.next k
    some ({ l with queue := { l.queue with backoff } }.putAfter k delay)
  | .fire =>
    (l.queue.delayed.fire? l.queue.now).map fun r =>
      { l with queue := { l.queue with delayed := r.2 } }.put r.1
  | .forget k => some { l with queue := l.queue.forget k }
  | .listen i =>
    if l.stage i = .away ∨ l.stage i = .asleep ∧ l.bell.isWoken i = true then
      some ((l.withBell ((l.bell.forget i).listen i)).withStage i .listening)
    else none
  | .look i => if l.stage i = .listening then some (l.look i) else none
  | .giveUp i =>
    if l.stage i = .asleep then some ((l.withBell (l.bell.leave i)).withStage i .away) else none
  | .done _ k => some ((l.withKeys (l.keys.done k)).owing (l.keys.doneWakes k))
  | .shutDown => some { l.withKeys l.keys.shutDown with alarms := l.alarms + 1 }
  | .wait now => some { l with queue := { l.queue with now } }

/-- The lobby after a piece; nothing if the piece is not possible. -/
def step (l : Lobby κ) : Piece κ → Option (Lobby κ)
  | .first a => l.begin a
  | .ring => if l.rings = 0 then none else some { l.withBell l.bell.ring with rings := l.rings - 1 }
  | .ringAll =>
    if l.alarms = 0 then none else some { l.withBell l.bell.ringAll with alarms := l.alarms - 1 }
  | .leave i =>
    match l.stage i with
    | .leaving true => some ((l.withBell l.bell.ring).withStage i (.leaving false))
    | .leaving false => some ((l.withBell (l.bell.leave i)).withStage i .away)
    | _ => none

/-- The lobby after a list of pieces, unless one of them is not possible. -/
def run (l : Lobby κ) : List (Piece κ) → Option (Lobby κ)
  | [] => some l
  | p :: later => (l.step p).bind fun l' => l'.run later

/-! ## Acts that nobody interrupts -/

section whole

variable (l : Lobby κ)

/-- Adding a key is to add it and to ring if that makes it ready. -/
theorem run_add (k : κ) :
    l.run (.first (.add k) :: List.replicate (l.keys.addWakes k).toNat .ring) =
      some { l with queue := l.queue.add k } := by
  cases wakes : l.keys.addWakes k <;>
    simp [run, step, begin, put, owing, withKeys, withBell, bell, RetryQueue.add, Station.add,
      Station.ringIf, wakes, keys, RetryQueue.keys] at wakes ⊢

/-- Taking a key back is to take it back and to ring if that makes it ready. -/
theorem run_done (i : Nat) (k : κ) :
    l.run (.first (.done i k) :: List.replicate (l.keys.doneWakes k).toNat .ring) =
      some { l with queue := l.queue.done k } := by
  cases wakes : l.keys.doneWakes k <;>
    simp [run, step, begin, owing, withKeys, withBell, bell, RetryQueue.done, Station.done,
      Station.ringIf, wakes, keys, RetryQueue.keys] at wakes ⊢

/-- Shutting a queue down is to shut it down and to wake everybody. -/
theorem run_shutDown :
    l.run [.first .shutDown, .ringAll] = some { l with queue := l.queue.shutDown } := by
  simp [run, step, begin, withKeys, withBell, bell, keys, RetryQueue.keys, RetryQueue.shutDown,
    Station.shutDown]

/-- A request that looks at the queue is to look, to ring if more keys wait, and to leave unless
there is nothing to find. -/
theorem run_look {i : Nat} (listening : l.stage i = .listening) :
    ∃ n, l.run (.first (.look i) :: List.replicate n (.leave i)) =
      some (({ l with queue := { l.queue with station := (l.queue.station.look i).2 } }).withStage i
        (if (l.queue.station.look i).1 = Look.nothing then .asleep else .away)) := by
  cases closed : l.keys.shuttingDown with
  | true =>
    have closed' : l.queue.station.queue.shuttingDown = true := closed
    refine ⟨1, ?_⟩
    simp [run, step, begin, listening, look, closed, closed', withStage, withBell, bell,
      Station.look]
  | false =>
    have opened : l.queue.station.queue.shuttingDown = false := closed
    cases takes : l.keys.take? with
    | none =>
      have takes' : l.queue.station.queue.take? = none := takes
      refine ⟨0, ?_⟩
      simp [run, step, begin, listening, look, closed, opened, takes, takes', withStage,
        Station.look]
    | some r =>
      obtain ⟨k, q⟩ := r
      have takes' : l.queue.station.queue.take? = some (k, q) := takes
      cases more : q.waiting.isEmpty with
      | true =>
        refine ⟨1, ?_⟩
        simp [run, step, begin, listening, look, closed, opened, takes, takes', more, withStage,
          withKeys, withBell, bell, Station.look, Station.ringIf]
      | false =>
        refine ⟨2, ?_⟩
        simp [run, step, begin, listening, look, closed, opened, takes, takes', more, withStage,
          withKeys, withBell, bell, Station.look, Station.ringIf, List.replicate]

end whole

/-! ## Whoever is alert -/

/-- Something is under way that will bring somebody to look at the queue. -/
def Alert (l : Lobby κ) : Prop :=
  l.bell.kept = true ∨ 0 < l.rings ∨ (∃ i, (i, .single) ∈ l.bell.woken) ∨
    ∃ i, l.stage i = .listening ∨ l.stage i = .leaving true

/-- Whoever is needed is alert. -/
structure Sound (l : Lobby κ) : Prop where
  /-- No ring is kept while somebody sleeps. -/
  tight : l.bell.Tight
  /-- The bell knows the requests that are under way. -/
  known : ∀ i, l.bell.Knows i ↔ l.stage i ≠ .away
  /-- As long as a key is ready and the queue is open, somebody is alert. -/
  alert : l.keys.shuttingDown = false → l.keys.waiting ≠ [] → l.Alert
  /-- Everybody is woken only after the queue has been shut down. -/
  alarmed : 0 < l.alarms → l.keys.shuttingDown = true
  /-- Once everybody has been woken, nobody sleeps any more. -/
  woken : l.keys.shuttingDown = true → l.alarms = 0 →
    ∀ i, l.stage i = .asleep → l.bell.isWoken i = true

/-- A lobby that has just been opened is sound. -/
theorem sound_opening (policy : RetryPolicy) : (opening policy : Lobby κ).Sound where
  tight := by simp [opening, bell, RetryQueue.ofPolicy, Bell.Tight]
  known := by simp [opening, bell, RetryQueue.ofPolicy, Bell.Knows, Bell.isWoken]
  alert := by simp [opening, keys, RetryQueue.ofPolicy, RetryQueue.keys]
  alarmed := by simp [opening]
  woken := by simp [opening]

end Lobby

/-- Adding a key makes a key ready only if it calls for a ring. -/
theorem WorkQueue.ready_of_add {κ : Type} [DecidableEq κ] {q : WorkQueue κ} {k : κ}
    (ready : (q.add k).waiting ≠ []) : q.waiting ≠ [] ∨ q.addWakes k = true := by
  by_cases ignored : q.shuttingDown = true ∨ k ∈ q.dirty
  · rw [add_of_ignored ignored] at ready
    exact Or.inl ready
  · rw [not_or, Bool.not_eq_true] at ignored
    by_cases flying : k ∈ q.inFlight
    · rw [add_of_accepted ignored.1 ignored.2] at ready
      simp only [flying, if_true] at ready
      exact Or.inl ready
    · exact Or.inr (by simp [addWakes, ignored.1, ignored.2, flying])

/-- So does taking a key back. -/
theorem WorkQueue.ready_of_done {κ : Type} [DecidableEq κ] {q : WorkQueue κ} {k : κ}
    (ready : (q.done k).waiting ≠ []) : q.waiting ≠ [] ∨ q.doneWakes k = true := by
  by_cases wakes : q.doneWakes k = true
  · exact Or.inr wakes
  · simp only [done, wakes] at ready
    exact Or.inl ready

namespace Lobby

namespace Sound

variable {κ : Type} [DecidableEq κ] {l l' : Lobby κ} {i : Nat}

/-- Keys may be added and taken back, as long as there is a ring to be made if one becomes ready. -/
theorem of_keys (h : l.Sound) (bell : l'.bell = l.bell) (stage : l'.stage = l.stage)
    (alarms : l'.alarms = l.alarms) (rings : l.rings ≤ l'.rings)
    (closed : l'.keys.shuttingDown = l.keys.shuttingDown)
    (ready : l'.keys.waiting ≠ [] → l.keys.waiting ≠ [] ∨ 0 < l'.rings) : l'.Sound where
  tight := bell ▸ h.tight
  known := by
    rw [bell, stage]
    exact h.known
  alert opened waits := by
    unfold Alert
    rw [bell, stage]
    rcases ready waits with earlier | rung
    · rcases h.alert (closed ▸ opened) earlier with kept | due | others
      · exact Or.inl kept
      · exact Or.inr (Or.inl (Nat.lt_of_lt_of_le due rings))
      · exact Or.inr (Or.inr others)
    · exact Or.inr (Or.inl rung)
  alarmed := by
    rw [alarms, closed]
    exact h.alarmed
  woken := by
    rw [alarms, closed, bell, stage]
    exact h.woken

/-- Adding a key owes a ring if that makes the key ready. -/
theorem put (h : l.Sound) (k : κ) : (l.put k).Sound := by
  refine h.of_keys rfl rfl rfl (Nat.le_add_right _ _) (WorkQueue.shuttingDown_add l.keys k) ?_
  intro waits
  refine (WorkQueue.ready_of_add waits).imp_right fun wakes => ?_
  show 0 < l.rings + (l.keys.addWakes k).toNat
  simp [wakes]

/-- Setting a timer makes no key ready. -/
theorem putAfter (h : l.Sound) (k : κ) (delay : Span) : (l.putAfter k delay).Sound := by
  unfold Lobby.putAfter
  split
  · exact h
  · rename_i opened
    split
    · exact h.put k
    · rename_i later
      refine h.of_keys ?_ rfl rfl (Nat.le_refl _) ?_ ?_ <;>
        simp [Lobby.bell, Lobby.keys, RetryQueue.addAfter, opened, later, RetryQueue.keys]
      exact Or.inl

/-- Taking a key back owes a ring if that makes the key ready. -/
theorem done (h : l.Sound) (k : κ) :
    ((l.withKeys (l.keys.done k)).owing (l.keys.doneWakes k)).Sound := by
  refine h.of_keys rfl rfl rfl (Nat.le_add_right _ _) rfl fun waits => ?_
  refine (WorkQueue.ready_of_done waits).imp_right fun wakes => ?_
  show 0 < l.rings + (l.keys.doneWakes k).toNat
  simp [wakes]

/-- Shutting the queue down owes a ring for all. -/
theorem shutDown (h : l.Sound) :
    ({ l.withKeys l.keys.shutDown with alarms := l.alarms + 1 } : Lobby κ).Sound where
  tight := h.tight
  known := h.known
  alert opened := by simp [Lobby.keys, withKeys, RetryQueue.keys, WorkQueue.shutDown] at opened
  alarmed _ := rfl
  woken _ none := by simp at none

/-- A ring is made. -/
theorem ring (h : l.Sound) (rings : Nat) :
    ({ l.withBell l.bell.ring with rings } : Lobby κ).Sound where
  tight := h.tight.ring
  known _ := Bell.knows_ring.trans (h.known _)
  alert _ _ := by
    rcases l.bell.ring_heard with kept | woken
    · exact Or.inl kept
    · exact Or.inr (Or.inr (Or.inl woken))
  alarmed := h.alarmed
  woken closed none i sleeps := Bell.isWoken_ring (h.woken closed none i sleeps)

/-- A request that leaves keys behind rings before it leaves. -/
theorem ringOn (h : l.Sound) (more : l.stage i = .leaving true) :
    ((l.withBell l.bell.ring).withStage i (.leaving false)).Sound := by
  have rung := h.ring l.rings
  refine ⟨rung.tight, fun j => (rung.known j).trans ?_, fun _ _ => ?_, rung.alarmed,
    fun closed none j sleeps => ?_⟩
  · by_cases same : j = i
    · subst same
      simp [withStage, withBell, more]
    · simp [withStage, same]
  · rcases l.bell.ring_heard with kept | woken
    · exact Or.inl kept
    · exact Or.inr (Or.inr (Or.inl woken))
  · by_cases same : j = i
    · subst same
      simp [withStage] at sleeps
    · exact rung.woken closed none j (by simpa [withStage, same] using sleeps)

/-- Everybody is woken. -/
theorem ringAll (h : l.Sound) (due : l.alarms ≠ 0) :
    ({ l.withBell l.bell.ringAll with alarms := l.alarms - 1 } : Lobby κ).Sound := by
  have closed : l.keys.shuttingDown = true := h.alarmed (Nat.pos_of_ne_zero due)
  refine ⟨Bell.Tight.ringAll, fun _ => Bell.knows_ringAll.trans (h.known _), fun opened => ?_,
    fun _ => closed, fun _ _ i sleeps => ?_⟩
  · exact absurd (closed.symm.trans opened) (by simp)
  · exact Bell.isWoken_ringAll ((h.known i).2 fun gone => by simp [withBell, gone] at sleeps)

/-- A request begins to listen, for the first time or again. -/
theorem listen (h : l.Sound) (i : Nat) :
    ((l.withBell ((l.bell.forget i).listen i)).withStage i .listening).Sound := by
  refine ⟨Bell.Tight.listen i, fun j => ?_, fun _ _ => ?_, h.alarmed,
    fun closed none j sleeps => ?_⟩
  · show ((l.bell.forget i).listen i).Knows j ↔ Function.update l.stage i .listening j ≠ .away
    by_cases same : j = i
    · subst same
      simp
    · simp [same, h.known j]
  · exact Or.inr (Or.inr (Or.inr ⟨i, Or.inl (Function.update_self ..)⟩))
  · by_cases same : j = i
    · subst same
      simp [withStage] at sleeps
    · have sleeps' : l.stage j = .asleep := by simpa [withStage, withBell, same] using sleeps
      exact Bell.isWoken_listen (Bell.isWoken_forget.2 ⟨h.woken closed none j sleeps', same⟩)

/-- A request leaves, having got its answer or not.  It was not the only one to be alert, unless it
passes on the ring by which it was woken. -/
theorem leave (h : l.Sound) (drowsy : l.stage i = .asleep ∨ l.stage i = .leaving false) :
    ((l.withBell (l.bell.leave i)).withStage i .away).Sound := by
  refine ⟨h.tight.leave i, fun j => ?_, fun opened waits => ?_, h.alarmed,
    fun closed none j sleeps => ?_⟩
  · show (l.bell.leave i).Knows j ↔ Function.update l.stage i .away j ≠ .away
    by_cases same : j = i
    · subst same
      simp
    · simp [same, h.known j]
  · show Lobby.Alert ((l.withBell (l.bell.leave i)).withStage i .away)
    by_cases passes : (i, Ring.single) ∈ l.bell.woken
    · have rings : l.bell.leave i = (l.bell.forget i).ring := by simp [Bell.leave, passes]
      rw [rings]
      rcases (l.bell.forget i).ring_heard with kept | woken
      · exact Or.inl kept
      · exact Or.inr (Or.inr (Or.inl woken))
    · have quiet : l.bell.leave i = l.bell.forget i := by simp [Bell.leave, passes]
      rw [quiet]
      rcases h.alert opened waits with kept | due | ⟨j, woken⟩ | ⟨j, busy⟩
      · exact Or.inl kept
      · exact Or.inr (Or.inl due)
      · have other : j ≠ i := fun same => passes (same ▸ woken)
        exact Or.inr (Or.inr (Or.inl ⟨j, Bell.mem_woken_forget.2 ⟨woken, other⟩⟩))
      · have other : j ≠ i := by
          rintro rfl
          rcases drowsy with is | is <;> simp [is] at busy
        refine Or.inr (Or.inr (Or.inr ⟨j, ?_⟩))
        simpa [withStage, withBell, other] using busy
  · by_cases same : j = i
    · subst same
      simp [withStage] at sleeps
    · have sleeps' : l.stage j = .asleep := by simpa [withStage, withBell, same] using sleeps
      exact Bell.isWoken_leave (h.woken closed none j sleeps') same

/-- A request looks at the queue.  If it leaves keys behind it is going to ring. -/
theorem look (h : l.Sound) (listens : l.stage i = .listening) : (l.look i).Sound := by
  have present : ∀ {stage : Stage} (j : Nat), stage ≠ .away →
      (l.bell.Knows j ↔ Function.update l.stage i stage j ≠ .away) := by
    intro stage j there
    by_cases same : j = i
    · subst same
      simp [h.known j, listens, there]
    · simp [same, h.known j]
  unfold Lobby.look
  split
  · rename_i closed
    refine ⟨h.tight, fun j => present j (by simp), fun opened => ?_, h.alarmed,
      fun _ none j sleeps => ?_⟩
    · exact absurd (closed.symm.trans opened) (by simp)
    · by_cases same : j = i
      · subst same
        simp [withStage] at sleeps
      · exact h.woken closed none j (by simpa [withStage, same] using sleeps)
  · rename_i opened
    rw [Bool.not_eq_true] at opened
    split
    · rename_i k keys takes
      obtain ⟨-, rest, -, same⟩ := WorkQueue.take?_eq_some.1 takes
      have stillOpen : keys.shuttingDown = false := by rw [same]; exact opened
      refine ⟨h.tight, fun j => present j (by simp), fun _ waits => ?_, fun due => ?_,
        fun closed => ?_⟩
      · have left : keys.waiting ≠ [] := waits
        have more : keys.waiting.isEmpty = false := by simpa using left
        refine Or.inr (Or.inr (Or.inr ⟨i, Or.inr ?_⟩))
        simp [withStage, more]
      · exact absurd ((h.alarmed due).symm.trans opened) (by simp)
      · exact absurd (stillOpen.symm.trans closed) (by simp)
    · rename_i none
      have nothing : l.keys.waiting = [] := by
        unfold WorkQueue.take? at none
        rw [opened] at none
        cases waits : l.keys.waiting with
        | nil => rfl
        | cons k rest => simp [waits] at none
      refine ⟨h.tight, fun j => present j (by simp), fun _ waits => absurd nothing waits, h.alarmed,
        fun closed => ?_⟩
      exact absurd (opened.symm.trans closed) (by simp)

/-- Every piece leaves those alert who are needed. -/
theorem step (h : l.Sound) {p : Piece κ} (steps : l.step p = some l') : l'.Sound := by
  cases p with
  | ring =>
    simp only [Lobby.step] at steps
    split at steps
    · simp at steps
    · obtain rfl := Option.some.inj steps
      exact h.ring _
  | ringAll =>
    simp only [Lobby.step] at steps
    split at steps
    · simp at steps
    · rename_i due
      obtain rfl := Option.some.inj steps
      exact h.ringAll due
  | leave i =>
    simp only [Lobby.step] at steps
    split at steps
    · rename_i more
      obtain rfl := Option.some.inj steps
      exact h.ringOn more
    · rename_i last
      obtain rfl := Option.some.inj steps
      exact h.leave (Or.inr last)
    · simp at steps
  | first a =>
    cases a with
    | add k =>
      obtain rfl := Option.some.inj steps
      exact h.put k
    | addAfter k delay =>
      obtain rfl := Option.some.inj steps
      exact h.putAfter k delay
    | addFailed k =>
      obtain rfl := Option.some.inj steps
      have counted : ({ l with queue := { l.queue with backoff := (l.queue.backoff.next k).2 } } :
          Lobby κ).Sound := h.of_keys rfl rfl rfl (Nat.le_refl _) rfl Or.inl
      exact counted.putAfter k _
    | fire =>
      obtain ⟨r, due, rfl⟩ := Option.map_eq_some_iff.1 steps
      have fired : ({ l with queue := { l.queue with delayed := r.2 } } : Lobby κ).Sound :=
        h.of_keys rfl rfl rfl (Nat.le_refl _) rfl Or.inl
      exact fired.put r.1
    | forget k =>
      obtain rfl := Option.some.inj steps
      exact h.of_keys rfl rfl rfl (Nat.le_refl _) rfl Or.inl
    | listen i =>
      simp only [Lobby.step, begin] at steps
      split at steps
      · obtain rfl := Option.some.inj steps
        exact h.listen i
      · simp at steps
    | look i =>
      simp only [Lobby.step, begin] at steps
      split at steps
      · rename_i listens
        obtain rfl := Option.some.inj steps
        exact h.look listens
      · simp at steps
    | giveUp i =>
      simp only [Lobby.step, begin] at steps
      split at steps
      · rename_i sleeps
        obtain rfl := Option.some.inj steps
        exact h.leave (Or.inl sleeps)
      · simp at steps
    | done i k =>
      obtain rfl := Option.some.inj steps
      exact h.done k
    | shutDown =>
      obtain rfl := Option.some.inj steps
      exact h.shutDown
    | wait now =>
      obtain rfl := Option.some.inj steps
      exact h.of_keys rfl rfl rfl (Nat.le_refl _) rfl Or.inl

/-- Whatever is done at a queue and in whatever order, those are alert who are needed. -/
theorem run {pieces : List (Piece κ)} (h : l.Sound) (runs : l.run pieces = some l') : l'.Sound := by
  induction pieces generalizing l with
  | nil =>
    obtain rfl := Option.some.inj runs
    exact h
  | cons p later ih =>
    obtain ⟨l₁, steps, rest⟩ := Option.bind_eq_some_iff.1 runs
    exact ih (h.step steps) rest

end Sound

/-! ## Whenever nobody can go on -/

variable {κ : Type} [DecidableEq κ]

/-- A piece by which something goes on that is under way already: a ring, or a request that has
begun.  (A delayed key whose time has come may still be there.) -/
def GoesOn (l : Lobby κ) : Piece κ → Prop
  | .ring | .ringAll | .leave _ => True
  | .first (.look _) => True
  | .first (.listen i) => l.stage i ≠ .away
  | .first _ => False

/-- Nothing that is under way can go on. -/
def Still (l : Lobby κ) : Prop := ∀ p, l.GoesOn p → l.step p = none

/-- Nothing can go on exactly if no ring is due and every request that has begun sleeps. -/
theorem still_iff {l : Lobby κ} :
    l.Still ↔ l.rings = 0 ∧ l.alarms = 0 ∧
      ∀ i, l.stage i = .away ∨ l.stage i = .asleep ∧ l.bell.isWoken i = false := by
  constructor
  · intro still
    refine ⟨?_, ?_, fun i => ?_⟩
    · simpa [step] using still .ring trivial
    · simpa [step] using still .ringAll trivial
    · cases stage : l.stage i with
      | away => exact Or.inl rfl
      | listening => simpa [step, begin, stage] using still (.first (.look i)) trivial
      | asleep =>
        have begins : l.GoesOn (.first (.listen i)) := by simp [GoesOn, stage]
        exact Or.inr ⟨rfl, by simpa [step, begin, stage] using still _ begins⟩
      | leaving more => cases more <;> simpa [step, stage] using still (.leave i) trivial
  · rintro ⟨rings, alarms, requests⟩ p goesOn
    cases p with
    | ring => simp [step, rings]
    | ringAll => simp [step, alarms]
    | leave i => rcases requests i with is | ⟨is, -⟩ <;> simp [step, is]
    | first a =>
      cases a with
      | look i => rcases requests i with is | ⟨is, -⟩ <;> simp [step, begin, is]
      | listen i =>
        rcases requests i with is | ⟨is, unwoken⟩
        · exact absurd is goesOn
        · simp [step, begin, is, unwoken]
      | _ => exact goesOn.elim

/-- **No wake-up is lost.**  However the pieces of adding, finishing and delaying keys, of shutting
the queue down, and of any number of requests for keys come between one another, and whichever of
the requests are given up while they sleep: whenever nothing that is under way can go on, and still
a request sleeps, there is no key that could be handed out, and the queue is open. -/
theorem no_wakeup_lost (policy : RetryPolicy) {pieces : List (Piece κ)} {l : Lobby κ}
    (runs : (opening policy).run pieces = some l) (still : l.Still) :
    (∀ i, l.stage i ≠ .asleep) ∨ l.keys.waiting = [] ∧ l.keys.shuttingDown = false := by
  have sound : l.Sound := (sound_opening policy).run runs
  obtain ⟨rings, alarms, requests⟩ := still_iff.1 still
  by_cases blocked : ∃ i, l.stage i = .asleep
  · obtain ⟨i, sleeps⟩ := blocked
    have unwoken : l.bell.isWoken i = false := by
      rcases requests i with gone | ⟨-, unwoken⟩
      · simp [gone] at sleeps
      · exact unwoken
    have opened : l.keys.shuttingDown = false := by
      by_contra closed
      have woken := sound.woken (by simpa using closed) alarms i sleeps
      simp [woken] at unwoken
    refine Or.inr ⟨?_, opened⟩
    by_contra ready
    -- whoever is alert could go on
    rcases sound.alert opened ready with kept | due | ⟨j, woken⟩ | ⟨j, busy⟩
    · have known : l.bell.Knows i := (sound.known i).2 (by simp [sleeps])
      rcases known with still | woken
      · simp [sound.tight kept] at still
      · simp [woken] at unwoken
    · simp [rings] at due
    · have isWoken := Bell.isWoken_iff.2 ⟨_, woken⟩
      rcases requests j with gone | ⟨-, not⟩
      · exact (sound.known j).1 (Or.inr isWoken) gone
      · simp [isWoken] at not
    · rcases requests j with gone | ⟨sleeps, -⟩
      · simp [gone] at busy
      · simp [sleeps] at busy
  · exact Or.inl fun i sleeps => blocked ⟨i, sleeps⟩

/-- Two requests sleep when a key is added.  The one that is woken is given up, and the other gets
the key; a third one begins to sleep. -/
def gaveUp : List (Piece Nat) :=
  [.first (.listen 0), .first (.look 0), .first (.listen 1), .first (.look 1), .first (.add 7),
    .ring, .first (.giveUp 0), .first (.listen 1), .first (.look 1), .leave 1, .first (.listen 2),
    .first (.look 2)]

/-- The third request sleeps for a good reason. -/
theorem no_wakeup_lost_given_up : ∃ l : Lobby Nat, (opening {}).run gaveUp = some l ∧ l.Still ∧
    l.stage 2 = .asleep ∧ l.keys.inFlight = [7] ∧ l.keys.waiting = [] ∧
    l.keys.shuttingDown = false := by
  have sleeps : ∀ l : Lobby Nat, l.Still → l.stage 2 = .asleep →
      (opening {}).run gaveUp = some l → l.keys.waiting = [] ∧ l.keys.shuttingDown = false :=
    fun l still sleeps runs => (no_wakeup_lost {} runs still).resolve_left fun none => none 2 sleeps
  have still : ∀ l : Lobby Nat, (opening {}).run gaveUp = some l → l.Still := by
    rintro _ ⟨⟩
    refine still_iff.2 ⟨rfl, rfl, fun i => ?_⟩
    match i with
    | 0 => exact Or.inl rfl
    | 1 => exact Or.inl rfl
    | 2 => exact Or.inr ⟨rfl, rfl⟩
    | _ + 3 => exact Or.inl rfl
  exact ⟨_, rfl, still _ rfl, rfl, rfl, sleeps _ (still _ rfl) rfl rfl⟩

end Lobby

end BucketProvisioning.Queue
