import BucketProvisioning.Engine.Office
import BucketProvisioning.Proofs.Engine.Rehearsal
import BucketProvisioning.Proofs.Engine.Wing

/-!
# The start and the end of the controllers

`Office.Course` is anything that may come of a new office, in whatever order its acts come.

* `Office.goesOn`: somebody can go on until whoever runs the controllers has left.
* `Office.ne_of_own`: whoever goes on changes something, so an office that nobody changes any more
  is one in which nobody can go on (`Office.Still`).

`graceful_stop` says that both kinds are worked on gracefully, that nobody leaves before the keys
are back, and that nobody waits in vain.
-/

set_option autoImplicit false

namespace BucketProvisioning.Engine

open BucketProvisioning BucketProvisioning.Reconcile BucketProvisioning.Backend
open BucketProvisioning.Resource

namespace Office

/-- Whether those who work in an office, or run it, can do something on their own. -/
def Act.isOwn : Act → Bool
  | .claims a => a.isOwn || a.isOrder
  | .accesses a => a.isOwn || a.isOrder
  | .ask => false
  | .leave => true

/-- What was done and in which office, the latest first. -/
abbrev Log := List (Office × Act)

/-- What was done in the wing of claims. -/
def Log.claims (log : Log) : Wing.Log BucketClaim :=
  log.filterMap fun e =>
    match e.2 with
    | .claims a => some (e.1.claims, a)
    | _ => none

/-- What was done in the wing of accesses. -/
def Log.accesses (log : Log) : Wing.Log BucketAccess :=
  log.filterMap fun e =>
    match e.2 with
    | .accesses a => some (e.1.accesses, a)
    | _ => none

/-- Nobody in an office can go on: whatever those who work in it, or run it, can do on their own
leaves it as it is. -/
def Still (backends : Registry) (count : Nat) (o : Office) : Prop :=
  ∀ a, a.isOwn = true → ∀ o', o.step backends count a = some o' → o' = o

/-- The offices that can come of a new one, with what was done in between. -/
inductive Course (backends : Registry) (count : Nat) (policy : RetryPolicy) : Office → Log → Prop
  /-- Nothing has been done yet. -/
  | start : Course backends count policy (opening policy) []
  /-- Something more is done. -/
  | next {o o' : Office} {log : Log} {a : Act} (course : Course backends count policy o log)
      (steps : o.step backends count a = some o') : Course backends count policy o' ((o, a) :: log)

section course

variable {backends : Registry} {count : Nat} {policy : RetryPolicy} {o o' : Office} {log : Log}

/-- Whatever was done in a course was done at an office of that course, and was possible there. -/
theorem Course.before {later earlier : Log} {o₁ : Office} {a : Act}
    (course : Course backends count policy o (later ++ (o₁, a) :: earlier)) :
    Course backends count policy o₁ earlier ∧ ∃ o₂, o₁.step backends count a = some o₂ := by
  induction later generalizing o with
  | nil =>
    cases course with
    | next before steps => exact ⟨before, o, steps⟩
  | cons e later ih =>
    cases course with
    | next before steps => exact ih before

/-- What is done in an office is done in its wings. -/
theorem Course.wings (course : Course backends count policy o log) :
    Wing.Course (Claims.reconcile backends) count (.opening policy) o.claims log.claims ∧
      Wing.Course (Accesses.reconcile backends) count (.opening policy) o.accesses
        log.accesses := by
  induction course with
  | start => exact ⟨.start, .start⟩
  | @next o o' log a course steps ih =>
    obtain ⟨claims, accesses⟩ := ih
    cases a with
    | claims a =>
      simp only [step] at steps
      split at steps
      · obtain ⟨w, acts, rfl⟩ := Option.map_eq_some_iff.1 steps
        exact ⟨claims.next acts, accesses⟩
      · simp at steps
    | accesses a =>
      simp only [step] at steps
      split at steps
      · obtain ⟨w, acts, rfl⟩ := Option.map_eq_some_iff.1 steps
        exact ⟨claims, accesses.next acts⟩
      · simp at steps
    | ask =>
      simp only [step] at steps
      split at steps
      · obtain rfl := Option.some.inj steps
        exact ⟨claims, accesses⟩
      · simp at steps
    | leave =>
      simp only [step] at steps
      split at steps
      · obtain rfl := Option.some.inj steps
        exact ⟨claims, accesses⟩
      · simp at steps

/-- Whoever leaves does so when the workers of both kinds have come to their end. -/
theorem over_of_leave (leaves : o.step backends count .leave = some o') :
    o.claims.desk.isOver = true ∧ o.accesses.desk.isOver = true := by
  simp only [step] at leaves
  split at leaves
  · rename_i may
    simp only [Bool.and_eq_true] at may
    exact ⟨may.1.2, may.2⟩
  · simp at leaves

/-- What is due next can be done. -/
theorem isSome_order {kind : Kind} (closing : o.phase = .closing) (turn : o.next? = some kind) :
    ∃ a, a.isOwn = true ∧ (o.step backends count a).isSome = true := by
  have may : o.allows kind true = true := by simp [allows, closing, turn]
  have due : match kind with
      | .claim => o.claims.due ≠ .nothing
      | .access => o.accesses.due ≠ .nothing := by
    unfold next? at turn
    split at turn
    · rename_i unshut
      obtain rfl := Option.some.inj turn
      exact Duty.ne_nothing (by simpa using unshut)
    split at turn
    · rename_i unshut
      obtain rfl := Option.some.inj turn
      exact Duty.ne_nothing (by simpa using unshut)
    split at turn
    · obtain rfl := Option.some.inj turn
      assumption
    split at turn
    · obtain rfl := Option.some.inj turn
      assumption
    · simp at turn
  cases kind with
  | claim =>
    refine ⟨.claims .order, rfl, ?_⟩
    simpa [step, Wing.Act.isOrder, may] using Wing.isSome_order due
  | access =>
    refine ⟨.accesses .order, rfl, ?_⟩
    simpa [step, Wing.Act.isOrder, may] using Wing.isSome_order due

/-- If it is nobody's turn, nothing is due. -/
theorem nothing_due (turn : o.next? = none) :
    o.claims.due = .nothing ∧ o.accesses.due = .nothing := by
  unfold next? at turn
  split at turn
  · simp at turn
  split at turn
  · simp at turn
  split at turn
  · simp at turn
  split at turn
  · simp at turn
  · exact ⟨not_not.1 ‹_›, not_not.1 ‹_›⟩

/-- What those who work in a wing can do on their own is never forbidden. -/
theorem allows_of_isOwn {α : Type} {a : Wing.Act α} {kind : Kind} (own : a.isOwn = true) :
    o.allows kind a.isOrder = true := by
  unfold allows
  cases a <;> first | rfl | simp [Wing.Act.isOwn] at own

/-- **Somebody can go on** until whoever runs the controllers has left, once a shutdown has been
asked for. -/
theorem goesOn (course : Course backends count policy o log) (closing : o.phase = .closing) :
    ∃ a, a.isOwn = true ∧ (o.step backends count a).isSome = true := by
  obtain ⟨claims, accesses⟩ := course.wings
  have claimsSound := (Wing.sound_opening policy).course claims
  have accessesSound := (Wing.sound_opening policy).course accesses
  cases turn : o.next? with
  | some kind => exact isSome_order closing turn
  | none =>
    obtain ⟨claimsDone, accessesDone⟩ := nothing_due turn
    cases claimsOver : o.claims.desk.isOver with
    | false =>
      obtain ⟨a, own, acts⟩ := claimsSound.goesOn (Claims.reconcile backends) count claimsDone
        claimsOver
      refine ⟨.claims a, by simp [Act.isOwn, own], ?_⟩
      simpa [step, allows_of_isOwn own] using acts
    | true =>
      cases accessesOver : o.accesses.desk.isOver with
      | false =>
        obtain ⟨a, own, acts⟩ := accessesSound.goesOn (Accesses.reconcile backends) count
          accessesDone accessesOver
        refine ⟨.accesses a, by simp [Act.isOwn, own], ?_⟩
        simpa [step, allows_of_isOwn own] using acts
      | true => exact ⟨.leave, rfl, by simp [step, closing, turn, claimsOver, accessesOver]⟩

/-- **Whoever goes on changes something.** -/
theorem ne_of_own {a : Act} (own : a.isOwn = true) (steps : o.step backends count a = some o') :
    o' ≠ o := by
  intro same
  cases a with
  | claims a =>
    simp only [step] at steps
    split at steps
    · obtain ⟨w, acts, rfl⟩ := Option.map_eq_some_iff.1 steps
      exact Wing.ne_of_own own acts (congrArg Office.claims same)
    · cases steps
  | accesses a =>
    simp only [step] at steps
    split at steps
    · obtain ⟨w, acts, rfl⟩ := Option.map_eq_some_iff.1 steps
      exact Wing.ne_of_own own acts (congrArg Office.accesses same)
    · cases steps
  | ask => cases own
  | leave =>
    simp only [step] at steps
    split at steps
    · rename_i may
      obtain rfl := Option.some.inj steps
      have closed : .closed = o.phase := congrArg Office.phase same
      simp [← closed] at may
    · cases steps

/-- **Start and graceful stop.**  However the acts of the workers, of the reports, of whoever runs
the controllers and of anybody else come between one another, and whenever a shutdown is asked for:

* the work on claims and that on accesses are graceful;
* when whoever runs the controllers leaves, no key of either kind is in flight but those with which
  a worker broke down;
* whenever nobody can go on after a shutdown has been asked for, whoever runs the controllers has
  left. -/
theorem graceful_stop (course : Course backends count policy o log) :
    o.claims.Graceful log.claims ∧ o.accesses.Graceful log.accesses ∧
    (∀ (later : Log) o₁ (earlier : Log), log = later ++ (o₁, .leave) :: earlier →
      (∀ key ∈ o₁.claims.desk.queue.keys.inFlight, earlier.claims.Lost key) ∧
      ∀ key ∈ o₁.accesses.desk.queue.keys.inFlight, earlier.accesses.Lost key) ∧
    (o.phase ≠ .serving → o.Still backends count → o.phase = .closed) := by
  refine ⟨Wing.graceful_of_course course.wings.1, Wing.graceful_of_course course.wings.2, ?_, ?_⟩
  · rintro later o₁ earlier rfl
    obtain ⟨before, o₂, leaves⟩ := course.before
    obtain ⟨claimsOver, accessesOver⟩ := over_of_leave leaves
    exact ⟨(Wing.graceful_of_course before.wings.1).finished claimsOver,
      (Wing.graceful_of_course before.wings.2).finished accessesOver⟩
  · intro asked still
    cases phase : o.phase with
    | serving => exact absurd phase asked
    | closed => rfl
    | closing =>
      obtain ⟨a, own, steps⟩ := goesOn course phase
      obtain ⟨o', steps⟩ := Option.isSome_iff_exists.1 steps
      exact absurd (still a own o' steps) (ne_of_own own steps)

end course

/-! ## A shutdown in the middle of a reconcile -/

/-- An office and its log after some acts, unless one of them is not possible. -/
def follow (backends : Registry) (count : Nat) (o : Office) (log : Log) :
    List Act → Option (Office × Log)
  | [] => some (o, log)
  | a :: later =>
    match o.step backends count a with
    | some o' => follow backends count o' ((o, a) :: log) later
    | none => none

/-- What follows from a list of acts is a course. -/
theorem course_of_follow {backends : Registry} {count : Nat} {policy : RetryPolicy} {o o' : Office}
    {log log' : Log} {acts : List Act} (course : Course backends count policy o log)
    (follows : o.follow backends count log acts = some (o', log')) :
    Course backends count policy o' log' := by
  induction acts generalizing o log with
  | nil =>
    obtain ⟨rfl, rfl⟩ := Prod.mk.inj (Option.some.inj follows)
    exact course
  | cons a later ih =>
    unfold follow at follows
    split at follows
    · rename_i o₁ steps
      exact ih (course.next steps) follows
    · simp at follows

/-- Things happen at the desk of claims. -/
def atClaims (happenings : List (Happening BucketClaim)) : List Act :=
  happenings.map fun h => .claims (.happen h)

/-- A worker is in the middle of the reconcile of a claim, and the cache of accesses is not
complete, when a shutdown is asked for.  The worker goes on only after everything that is due has
been done. -/
def interrupted : List Act :=
  atClaims (opened [newClaim] ++ labour 3) ++
    [.ask, .claims .order, .claims .order, .accesses .order, .accesses .order, .claims .order,
      .accesses .order, .accesses .order, .accesses .abandon] ++
    atClaims (labour 7) ++ [.leave]

/-- Whether nobody in a wing can go on. -/
def isAtRest {α : Type} (w : Wing α) : Bool :=
  w.desk.pool ≠ .waiting && w.desk.workers.all Worker.isOver

/-- Nobody can go on in an office that has been left, if nobody can in its wings. -/
theorem still_of_atRest {backends : Registry} {count : Nat} {o : Office} (left : o.phase = .closed)
    (claims : isAtRest o.claims = true) (accesses : isAtRest o.accesses = true) :
    o.Still backends count := by
  simp only [isAtRest, Bool.and_eq_true, decide_eq_true_eq] at claims accesses
  intro a own o' steps
  -- nothing is possible at all
  suffices none : o.step backends count a = none by cases none.symm.trans steps
  cases a with
  | claims a =>
    rcases Bool.or_eq_true_iff.1 own with own | order
    · simp [step, Wing.act_of_over own claims.1 claims.2]
    · simp [step, allows, order, left]
  | accesses a =>
    rcases Bool.or_eq_true_iff.1 own with own | order
    · simp [step, Wing.act_of_over own accesses.1 accesses.2]
    · simp [step, allows, order, left]
  | ask => simp [Act.isOwn] at own
  | leave => simp [step, left]

/-- The claim is handed out before its queue is closed and given back after that, and then whoever
runs the controllers leaves. -/
theorem graceful_stop_once : ∃ o log w h w' h' o₁, Course oneType 1 {} o log ∧
    (w, .happen h) ∈ log.claims ∧ w.desk.handedKey? h = some "n/a" ∧ w.due = .close ∧
    (w', .happen h') ∈ log.claims ∧ w'.desk.returnedKey? h' = some "n/a" ∧ w'.due = .nothing ∧
    (o₁, .leave) ∈ log ∧ (∀ key ∈ o₁.claims.desk.queue.keys.inFlight, log.claims.Lost key) ∧
    o.Still oneType 1 ∧ o.phase = .closed := by
  have rehearsed : ((opening {}).follow oneType 1 [] interrupted).any (fun r =>
      decide (r.1.phase = .closed) && isAtRest r.1.claims && isAtRest r.1.accesses &&
        r.2.head?.any (fun e => match e.2 with | .leave => true | _ => false) &&
        r.2.claims.any (fun e => e.2.happening?.any fun h =>
          decide (e.1.desk.handedKey? h = some "n/a")) &&
        r.2.claims.any fun e => e.2.happening?.any fun h =>
          decide (e.1.desk.returnedKey? h = some "n/a" ∧ e.1.due = .nothing)) = true := by
    decide +kernel
  simp only [Option.any_eq_true, List.any_eq_true, Bool.and_eq_true, decide_eq_true_eq] at rehearsed
  obtain ⟨⟨o, log⟩, follows, ⟨⟨⟨⟨closed, claims⟩, accesses⟩, ⟨o₁, a⟩, first, leaves⟩,
    ⟨w, a₁⟩, mem, h, is, handed⟩, ⟨w', a₂⟩, mem', h', is', returned, due⟩ := rehearsed
  obtain rfl := Wing.Act.eq_of_happening is
  obtain rfl := Wing.Act.eq_of_happening is'
  have course : Course oneType 1 {} o log := course_of_follow .start follows
  have still : o.Still oneType 1 := still_of_atRest closed claims accesses
  obtain ⟨graceful, -, leaving, stops⟩ := graceful_stop course
  obtain ⟨earlier, rfl⟩ : ∃ earlier, log = (o₁, .leave) :: earlier := by
    cases a <;> simp at leaves
    exact ⟨log.tail, List.eq_cons_of_mem_head? first⟩
  refine ⟨o, _, w, h, w', h', o₁, course, mem, handed, graceful.opened w h _ mem handed, mem',
    returned, due, List.mem_cons_self, (leaving [] o₁ earlier rfl).1, still, ?_⟩
  exact stops (by simp [show o.phase = .closed from closed]) still

end Office

end BucketProvisioning.Engine
