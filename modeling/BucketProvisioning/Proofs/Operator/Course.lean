import BucketProvisioning.Operator.Life
import BucketProvisioning.Proofs.Engine.Closing
import BucketProvisioning.Proofs.Engine.Entrusting
import BucketProvisioning.Proofs.Leadership.Phases

/-!
# The course of a life

A `Run` is anything that may come of a program: any replies, any order of the steps of its workers
and of its competitor, signals at any moment.  Its log lists what was done, the latest first, each
with the program to which it was done.

* `Life.step_of_next` is the only place where a step is taken apart; it says what a step does to a
  program that needs the lease, as a `Life.Step`.
* `Stage.GoesWith`: which phases of the competitor and of the controllers go with each stage
  (`Run.sound`).
* `Run.course` and `Run.wings`: what the program does about both kinds is a course of its office,
  and what it does about each is a course of its wing.
-/

set_option autoImplicit false

namespace BucketProvisioning.Operator

open BucketProvisioning BucketProvisioning.Api BucketProvisioning.Engine
open BucketProvisioning.Leadership BucketProvisioning.Resource BucketProvisioning.Reconcile

/-! ## Runs -/

/-- What was done and to which program, the latest first. -/
abbrev Log := List (Life × Happening)

/-- The programs that can come of a program, with what was done in between. -/
inductive Run (first : Life) : Life → Log → Prop
  /-- Nothing has been done yet. -/
  | start : Run first first []
  /-- Something more is done. -/
  | next {l l' : Life} {log : Log} {h : Happening} {traces : List Trace} (run : Run first l log)
      (happens : l.next h = some (l', traces)) : Run first l' ((l, h) :: log)

/-- What is done to the world outside when something happens. -/
def Life.doing (l : Life) (h : Happening) : List Trace := ((l.next h).map Prod.snd).getD []

/-- What happens in the wing of claims. -/
def atClaims : Life × Happening → Option (Wing BucketClaim × Wing.Act BucketClaim)
  | (l, .onClaims a) => some (l.office.claims, a)
  | (l, .elapse ms) =>
    some (l.office.claims, .happen (.wait (l.office.claims.desk.queue.now + ms)))
  | _ => none

/-- What happens in the wing of accesses. -/
def atAccesses : Life × Happening → Option (Wing BucketAccess × Wing.Act BucketAccess)
  | (l, .onAccesses a) => some (l.office.accesses, a)
  | (l, .elapse ms) =>
    some (l.office.accesses, .happen (.wait (l.office.accesses.desk.queue.now + ms)))
  | _ => none

/-- What was done in the wing of claims. -/
def Log.claims (log : Log) : Wing.Log BucketClaim := log.filterMap atClaims

/-- What was done in the wing of accesses. -/
def Log.accesses (log : Log) : Wing.Log BucketAccess := log.filterMap atAccesses

variable {plan : Plan} {unique : String} {e : Elector}
variable {first l l' : Life} {h : Happening} {traces : List Trace} {log : Log}

/-- What happened divides a run into what led to it and what came after it. -/
theorem Run.split {l₁ : Life} {later earlier : Log}
    (run : Run first l (later ++ (l₁, h) :: earlier)) : ∃ l₂ traces,
      Run first l₁ earlier ∧ l₁.next h = some (l₂, traces) ∧ Run l₂ l later := by
  induction later generalizing l with
  | nil =>
    cases run with
    | next before happens => exact ⟨l, _, before, happens, .start⟩
  | cons e later ih =>
    cases run with
    | next before happens =>
      obtain ⟨l₂, traces, earlier, happens₁, after⟩ := ih before
      exact ⟨l₂, traces, earlier, happens₁, after.next happens⟩

/-! ## Steps -/

namespace Life

/-- The traces of what is done for a claim. -/
def claimTraces (l : Life) (a : Wing.Act BucketClaim) : List Trace :=
  (l.office.claims.desk.deed? (Claims.reconcile l.plan.backends) l.plan.settings.workers
    a.happening?).toList.map .forClaim

/-- The traces of what is done for an access. -/
def accessTraces (l : Life) (a : Wing.Act BucketAccess) : List Trace :=
  (l.office.accesses.desk.deed? (Accesses.reconcile l.plan.backends) l.plan.settings.workers
    a.happening?).toList.map .forAccess

/-- What can happen to a program that needs the lease. -/
inductive Step (e : Elector) (l : Life) : Happening → Life → List Trace → Prop
  /-- A definition has been installed, and another one is to be. -/
  | installed {d d' : Definition} {rest : List Definition} {outcome : Except ApiFault Unit}
      (was : l.stage = .installing (d :: d' :: rest)) :
      Step e l (.installed outcome) { l with stage := .installing (d' :: rest) } [.installs d]
  /-- The last definition has been installed. -/
  | ready {d : Definition} {outcome : Except ApiFault Unit} (was : l.stage = .installing [d]) :
      Step e l (.installed outcome) { l with stage := .acquiring, phase := .attempting e.attempt }
        [.installs d]
  /-- A definition could not be installed. -/
  | failed {d : Definition} {rest : List Definition} {outcome : Except ApiFault Unit} (f : Fault)
      (was : l.stage = .installing (d :: rest)) :
      Step e l (.installed outcome) (l.finish (.fault f)) [.installs d]
  /-- The competitor has done a step. -/
  | competed {time : Instant} {reply : LeaseRequest → Except ApiFault Lease}
      {phase : Leadership.Phase} {traces : List Trace} (may : l.competes = true)
      (steps : e.step l.now time (fun r sent => (reply r, sent ++ [Trace.lease r])) l.phase [] =
        some (phase, traces)) :
      Step e l (.compete time reply) (l.competed phase) traces
  /-- Something is done in the wing of claims. -/
  | onClaims {a : Wing.Act BucketClaim} {claims : Wing BucketClaim} (atWork : l.isAtWork = true)
      (allowed : l.office.allows .claim a.isOrder = true)
      (acts : l.office.claims.act (Claims.reconcile l.plan.backends) l.plan.settings.workers a =
        some claims) :
      Step e l (.onClaims a) { l with office := { l.office with claims } } (l.claimTraces a)
  /-- Something is done in the wing of accesses. -/
  | onAccesses {a : Wing.Act BucketAccess} {accesses : Wing BucketAccess}
      (atWork : l.isAtWork = true) (allowed : l.office.allows .access a.isOrder = true)
      (acts : l.office.accesses.act (Accesses.reconcile l.plan.backends) l.plan.settings.workers a =
        some accesses) :
      Step e l (.onAccesses a) { l with office := { l.office with accesses } } (l.accessTraces a)
  /-- Time passes. -/
  | elapsed (ms : Nat) : Step e l (.elapse ms) (l.elapse ms) []
  /-- A signal comes before the program listens for it. -/
  | killed {rest : List Definition} (was : l.stage = .installing rest) :
      Step e l .signal (l.finish .killed) []
  /-- A signal comes while the program waits for the lease. -/
  | dismissed (was : l.stage = .acquiring) : Step e l .signal (l.finish .success) []
  /-- A signal comes while the controllers run. -/
  | asked (was : l.stage = .working) :
      Step e l .signal
        { l with stage := .draining .signal, office := { l.office with phase := .closing } } []
  /-- A signal comes while the program is ending. -/
  | ignored (was : (∃ cause, l.stage = .draining cause) ∨ l.stage = .releasing ∨
      ∃ how, l.stage = .ended how) : Step e l .signal l []
  /-- The loss of the lease is noticed while the controllers run. -/
  | lost (was : l.stage = .working) (gone : l.phase = .deposed) :
      Step e l .noticeLoss
        { l with stage := .draining .loss, office := { l.office with phase := .closing } } []
  /-- The controllers have stopped after the lease was lost. -/
  | deposed (was : l.stage = .draining .loss)
      (leaves : l.office.step l.plan.backends l.plan.settings.workers .leave =
        some { l.office with phase := .closed }) :
      Step e l .drained
        ({ l with office := { l.office with phase := .closed } }.finish (.fault .leadershipLost)) []
  /-- The controllers have stopped after a signal. -/
  | drained (was : l.stage = .draining .signal)
      (leaves : l.office.step l.plan.backends l.plan.settings.workers .leave =
        some { l.office with phase := .closed }) :
      Step e l .drained
        { l with
          stage := .releasing
          phase := e.beginRelease l.phase
          office := { l.office with phase := .closed } } []
  /-- The lease has been given up, or could not be. -/
  | released {r : Except Failure Unit} (was : l.stage = .releasing)
      (given : l.phase = .released r) :
      Step e l .released (l.finish .success) []

/-- What is done in the wing of claims changes that wing. -/
theorem claims_of_inOffice {a : Wing.Act BucketClaim} (goes : l.inOffice (.claims a) = some l') :
    l.office.allows .claim a.isOrder = true ∧
      ∃ claims, l.office.claims.act (Claims.reconcile l.plan.backends) l.plan.settings.workers a =
          some claims ∧ l' = { l with office := { l.office with claims } } := by
  obtain ⟨office, steps, rfl⟩ := Option.map_eq_some_iff.1 goes
  simp only [Office.step] at steps
  split at steps
  · obtain ⟨claims, acts, rfl⟩ := Option.map_eq_some_iff.1 steps
    exact ⟨‹_›, claims, acts, rfl⟩
  · cases steps

/-- What is done in the wing of accesses changes that wing. -/
theorem accesses_of_inOffice {a : Wing.Act BucketAccess}
    (goes : l.inOffice (.accesses a) = some l') : l.office.allows .access a.isOrder = true ∧
      ∃ accesses, l.office.accesses.act (Accesses.reconcile l.plan.backends)
          l.plan.settings.workers a = some accesses ∧
        l' = { l with office := { l.office with accesses } } := by
  obtain ⟨office, steps, rfl⟩ := Option.map_eq_some_iff.1 goes
  simp only [Office.step] at steps
  split at steps
  · obtain ⟨accesses, acts, rfl⟩ := Option.map_eq_some_iff.1 steps
    exact ⟨‹_›, accesses, acts, rfl⟩
  · cases steps

/-- A request for the controllers to stop is heard while they run. -/
theorem stopWork_eq {cause : Cause} (stops : l.stopWork cause = some l') :
    l' = { l with stage := .draining cause, office := { l.office with phase := .closing } } := by
  simp only [stopWork, inOffice, Office.step, Option.map_map] at stops
  split at stops
  · exact (Option.some.inj stops).symm
  · cases stops

/-- Whoever leaves the controllers closes them. -/
theorem leave_eq (leaves : l.inOffice .leave = some l') :
    l.office.step l.plan.backends l.plan.settings.workers .leave =
        some { l.office with phase := .closed } ∧
      l' = { l with office := { l.office with phase := .closed } } := by
  obtain ⟨office, steps, rfl⟩ := Option.map_eq_some_iff.1 leaves
  have closed : office = { l.office with phase := .closed } := by
    simp only [Office.step] at steps
    split at steps
    · exact (Option.some.inj steps).symm
    · cases steps
  exact ⟨closed ▸ steps, by rw [closed]⟩

/-- **Every step is one of these.** -/
theorem step_of_next (needs : l.elector? = some e) (happens : l.next h = some (l', traces)) :
    Step e l h l' traces := by
  cases h with
  | installed outcome =>
    simp only [next, installed] at happens
    split at happens
    · rename_i d rest was
      obtain ⟨rfl, rfl⟩ := Prod.mk.inj (Option.some.inj happens)
      cases outcome with
      | error fault => exact .failed _ was
      | ok u =>
        cases rest with
        | nil => simpa [afterInstallation, needs] using Step.ready was
        | cons d' rest => exact .installed was
    · cases happens
  | compete time reply =>
    simp only [next, compete, needs] at happens
    split at happens
    · rename_i may
      obtain ⟨⟨phase, sent⟩, steps, same⟩ := Option.map_eq_some_iff.1 happens
      obtain ⟨rfl, rfl⟩ := Prod.mk.inj same
      exact .competed may steps
    · cases happens
  | onClaims a =>
    simp only [next, onClaims] at happens
    split at happens
    · rename_i may
      obtain ⟨l₁, goes, same⟩ := Option.map_eq_some_iff.1 happens
      obtain ⟨rfl, rfl⟩ := Prod.mk.inj same
      obtain ⟨allowed, claims, acts, rfl⟩ := claims_of_inOffice goes
      exact .onClaims (Bool.and_eq_true_iff.1 may).1 allowed acts
    · cases happens
  | onAccesses a =>
    simp only [next, onAccesses] at happens
    split at happens
    · rename_i may
      obtain ⟨l₁, goes, same⟩ := Option.map_eq_some_iff.1 happens
      obtain ⟨rfl, rfl⟩ := Prod.mk.inj same
      obtain ⟨allowed, accesses, acts, rfl⟩ := accesses_of_inOffice goes
      exact .onAccesses (Bool.and_eq_true_iff.1 may).1 allowed acts
    · cases happens
  | elapse ms =>
    obtain ⟨rfl, rfl⟩ := Prod.mk.inj (Option.some.inj happens)
    exact .elapsed ms
  | signal =>
    obtain ⟨l₁, hears, same⟩ := Option.map_eq_some_iff.1 happens
    obtain ⟨rfl, rfl⟩ := Prod.mk.inj same
    simp only [signal] at hears
    cases was : l.stage with
    | installing rest =>
      rw [was] at hears
      exact Option.some.inj hears ▸ .killed was
    | acquiring =>
      rw [was] at hears
      exact Option.some.inj hears ▸ .dismissed was
    | working =>
      rw [was] at hears
      exact stopWork_eq hears ▸ .asked was
    | draining cause =>
      rw [was] at hears
      exact Option.some.inj hears ▸ .ignored (Or.inl ⟨cause, was⟩)
    | releasing =>
      rw [was] at hears
      exact Option.some.inj hears ▸ .ignored (Or.inr (Or.inl was))
    | ended how =>
      rw [was] at hears
      exact Option.some.inj hears ▸ .ignored (Or.inr (Or.inr ⟨how, was⟩))
  | noticeLoss =>
    obtain ⟨l₁, notices, same⟩ := Option.map_eq_some_iff.1 happens
    obtain ⟨rfl, rfl⟩ := Prod.mk.inj same
    simp only [noticeLoss] at notices
    split at notices
    · rename_i was gone
      exact stopWork_eq notices ▸ .lost was gone
    · cases notices
  | drained =>
    obtain ⟨l₁, notices, same⟩ := Option.map_eq_some_iff.1 happens
    obtain ⟨rfl, rfl⟩ := Prod.mk.inj same
    simp only [drained] at notices
    split at notices
    · rename_i cause was
      obtain ⟨l₂, leaves, rfl⟩ := Option.map_eq_some_iff.1 notices
      obtain ⟨may, rfl⟩ := leave_eq leaves
      cases cause with
      | loss => exact .deposed was may
      | signal => simpa [afterWork, needs] using Step.drained (e := e) was may
    · cases notices
  | released =>
    obtain ⟨l₁, notices, same⟩ := Option.map_eq_some_iff.1 happens
    obtain ⟨rfl, rfl⟩ := Prod.mk.inj same
    simp only [released] at notices
    split at notices
    · rename_i r was given
      exact Option.some.inj notices ▸ .released was given
    · cases notices

end Life

/-! ## What goes with each stage -/

/-- The competitor has not got the lease yet. -/
def IsSeeking (p : Leadership.Phase) : Prop := (∃ d, p = .attempting d) ∨ ∃ due, p = .pausing due

/-- The competitor gives the lease up, and nothing keeps it from coming to an end with that. -/
def IsLeaving (p : Leadership.Phase) : Prop :=
  (∃ d, p = .releasing d ∧ d.Whole) ∨ ∃ r, p = .released r

/-- Which phases of the competitor and of the controllers go with a stage.  A competitor that has
got the lease is said to have it even if it is lost, until that is noticed. -/
def Stage.GoesWith : Stage → Leadership.Phase → Engine.Phase → Prop
  | .installing _, p, o => p = .outside ∧ o = .serving
  | .acquiring, p, o => IsSeeking p ∧ o = .serving
  | .working, p, o => p.holdsGuard = true ∧ o = .serving
  | .draining .signal, p, o => p.holdsGuard = true ∧ o = .closing
  | .draining .loss, p, o => p = .deposed ∧ o = .closing
  | .releasing, p, o => IsLeaving p ∧ o = .closed
  | .ended _, p, _ => p = .outside

namespace Life

/-- What holds of a program that needs the lease, whatever has been done. -/
structure Sound (plan : Plan) (e : Elector) (l : Life) : Prop where
  /-- The plan stays. -/
  plan : l.plan = plan
  /-- So does the competitor. -/
  needs : l.elector? = some e
  /-- Everybody is where the stage says. -/
  place : l.stage.GoesWith l.phase l.office.phase

/-- A process that begins is sound. -/
theorem sound_begin (needs : plan.elector? unique = some e) : (begin plan unique).Sound plan e :=
  ⟨rfl, needs, rfl, rfl⟩

/-- With the lease in hand, or without one to get, a step of the competitor is its own affair. -/
theorem competed_eq (other : l.stage ≠ .acquiring) (phase : Leadership.Phase) :
    l.competed phase = { l with phase } := by
  unfold competed
  split
  · exact absurd ‹_› other
  · exact absurd ‹_› other
  · rfl

namespace Sound

/-- The stage tells the phase of the elector and that of the office. -/
theorem at_stage (sound : l.Sound plan e) {stage : Stage} (is : l.stage = stage) :
    stage.GoesWith l.phase l.office.phase := is ▸ sound.place

/-- **Every step of the competitor leaves everybody where the stage says.** -/
theorem competed (sound : l.Sound plan e) {now : Nat} {time : Instant}
    {serve : LeaseRequest → List Trace → Except ApiFault Lease × List Trace}
    {phase : Leadership.Phase} (may : l.competes = true)
    (steps : e.step now time serve l.phase [] = some (phase, traces)) :
    (l.competed phase).Sound plan e := by
  cases stage : l.stage with
  | installing rest | ended how => simp [competes, stage] at may
  | acquiring =>
    obtain ⟨⟨d, is⟩ | ⟨due, is⟩, serving⟩ := sound.at_stage stage
    · rw [is] at steps
      rcases Elector.step_attempting steps with ⟨d', rfl⟩ | ⟨due, rfl⟩ | ⟨-, due, rfl⟩ | rfl
      · rw [show l.competed (.attempting d') = { l with phase := .attempting d' } by
          simp [Life.competed, stage]]
        exact ⟨sound.plan, sound.needs, by rw [stage]; exact ⟨Or.inl ⟨_, rfl⟩, serving⟩⟩
      · rw [show l.competed (.pausing due) = { l with phase := .pausing due } by
          simp [Life.competed, stage]]
        exact ⟨sound.plan, sound.needs, by rw [stage]; exact ⟨Or.inr ⟨_, rfl⟩, serving⟩⟩
      · rw [show l.competed (.leading due) = { l with phase := .leading due }.beginWork by
          simp [Life.competed, stage]]
        exact ⟨sound.plan, sound.needs, rfl, serving⟩
      · rw [show l.competed .outside = l.finish .brokenDown by simp [Life.competed, stage]]
        exact ⟨sound.plan, sound.needs, rfl⟩
    · rw [is] at steps
      obtain rfl := Elector.step_pausing steps
      rw [show l.competed (.attempting e.attempt) = { l with phase := .attempting e.attempt } by
        simp [Life.competed, stage]]
      exact ⟨sound.plan, sound.needs, by rw [stage]; exact ⟨Or.inl ⟨_, rfl⟩, serving⟩⟩
  | working =>
    obtain ⟨guarded, serving⟩ := sound.at_stage stage
    rw [competed_eq (by simp [stage])]
    refine ⟨sound.plan, sound.needs, ?_⟩
    rw [stage]
    exact ⟨Elector.step_guarded guarded steps, serving⟩
  | draining cause =>
    rw [competed_eq (by simp [stage])]
    refine ⟨sound.plan, sound.needs, ?_⟩
    rw [stage]
    cases cause with
    | signal =>
      obtain ⟨guarded, closing⟩ := sound.at_stage stage
      exact ⟨Elector.step_guarded guarded steps, closing⟩
    | loss =>
      obtain ⟨deposed, -⟩ := sound.at_stage stage
      rw [deposed] at steps
      cases steps
  | releasing =>
    obtain ⟨⟨d, is, whole⟩ | ⟨r, is⟩, closed⟩ := sound.at_stage stage
    · rw [is] at steps
      rw [competed_eq (by simp [stage])]
      refine ⟨sound.plan, sound.needs, ?_⟩
      rw [stage]
      exact ⟨Elector.step_releasing whole steps, closed⟩
    · rw [is] at steps
      cases steps

/-- **Every step keeps a program sound.** -/
theorem next (sound : l.Sound plan e) (step : Step e l h l' traces) : l'.Sound plan e := by
  cases step with
  | installed was =>
    obtain ⟨outside, serving⟩ := sound.at_stage was
    exact ⟨sound.plan, sound.needs, outside, serving⟩
  | ready was =>
    exact ⟨sound.plan, sound.needs, Or.inl ⟨_, rfl⟩, (sound.at_stage was).2⟩
  | failed | killed | dismissed | deposed | released => exact ⟨sound.plan, sound.needs, rfl⟩
  | competed may steps => exact sound.competed may steps
  | onClaims | onAccesses | elapsed => exact ⟨sound.plan, sound.needs, sound.place⟩
  | ignored => exact sound
  | asked was => exact ⟨sound.plan, sound.needs, (sound.at_stage was).1, rfl⟩
  | lost was gone => exact ⟨sound.plan, sound.needs, gone, rfl⟩
  | drained was leaves =>
    refine ⟨sound.plan, sound.needs, Or.inl ⟨e.release, ?_, e.whole_release⟩, rfl⟩
    exact if_pos (sound.at_stage was).1

end Sound

end Life

/-- Everybody is where the stage says, whatever has been done. -/
theorem Run.sound (run : Run first l log) (sound : first.Sound plan e) : l.Sound plan e := by
  induction run with
  | start => exact sound
  | next run happens ih => exact ih.next (Life.step_of_next ih.needs happens)

/-! ## The office in the program -/

/-- The competitor leaves the controllers alone. -/
theorem Life.office_competed (l : Life) (phase : Leadership.Phase) :
    (l.competed phase).office = l.office := by
  unfold competed
  split <;> rfl

/-- **What the program does about both kinds is a course of its office**, in which the same is done
in both wings. -/
theorem Run.course (run : Run (.begin plan unique) l log) (needs : plan.elector? unique = some e) :
    ∃ log' : Office.Log,
      Office.Course plan.backends plan.settings.workers plan.settings.retry l.office log' ∧
      log'.claims = log.claims ∧ log'.accesses = log.accesses := by
  induction run with
  | start => exact ⟨[], .start, rfl, rfl⟩
  | @next l l' log h traces run happens ih =>
    obtain ⟨log', course, claims, accesses⟩ := ih
    have sound := run.sound (Life.sound_begin needs)
    cases Life.step_of_next sound.needs happens with
    | installed | ready | failed | killed | dismissed | ignored | released =>
      exact ⟨log', course, claims, accesses⟩
    | competed may steps => exact ⟨log', l.office_competed _ ▸ course, claims, accesses⟩
    | @onClaims a w atWork allowed acts =>
      rw [sound.plan] at acts
      refine ⟨(l.office, .claims a) :: log', course.next ?_, ?_, accesses⟩
      · simp [Office.step, allowed, acts]
      · exact congrArg ((l.office.claims, a) :: ·) claims
    | @onAccesses a w atWork allowed acts =>
      rw [sound.plan] at acts
      refine ⟨(l.office, .accesses a) :: log', course.next ?_, claims, ?_⟩
      · simp [Office.step, allowed, acts]
      · exact congrArg ((l.office.accesses, a) :: ·) accesses
    | elapsed ms =>
      -- time passes in one wing and then in the other
      let later := l.office.claims.desk.queue.now + ms
      let later' := l.office.accesses.desk.queue.now + ms
      let o := { l.office with
        claims := { l.office.claims with desk := l.office.claims.desk.setNow later } }
      have first : l.office.step plan.backends plan.settings.workers
          (.claims (.happen (.wait later))) = some o := by
        simp [Office.step, Office.allows, Wing.Act.isOrder, Wing.act, Desk.happen, later, o]
      have second : o.step plan.backends plan.settings.workers
          (.accesses (.happen (.wait later'))) = some (l.elapse ms).office := by
        simp [Office.step, Office.allows, Wing.Act.isOrder, Wing.act, Desk.happen, later', o,
          Life.elapse, later]
      refine ⟨_, (course.next first).next second, ?_, ?_⟩
      · exact congrArg ((l.office.claims, .happen (.wait later)) :: ·) claims
      · exact congrArg ((l.office.accesses, .happen (.wait later')) :: ·) accesses
    | asked was =>
      refine ⟨(l.office, .ask) :: log', course.next ?_, claims, accesses⟩
      simp [Office.step, (sound.at_stage was).2]
    | lost was gone =>
      refine ⟨(l.office, .ask) :: log', course.next ?_, claims, accesses⟩
      simp [Office.step, (sound.at_stage was).2]
    | deposed was leaves | drained was leaves =>
      rw [sound.plan] at leaves
      exact ⟨(l.office, .leave) :: log', course.next leaves, claims, accesses⟩

/-- What the program does about each kind is a course of its wing. -/
theorem Run.wings (run : Run (.begin plan unique) l log) (needs : plan.elector? unique = some e) :
    Wing.Course (Claims.reconcile plan.backends) plan.settings.workers
        (.opening plan.settings.retry) l.office.claims log.claims ∧
      Wing.Course (Accesses.reconcile plan.backends) plan.settings.workers
        (.opening plan.settings.retry) l.office.accesses log.accesses := by
  obtain ⟨log', course, claims, accesses⟩ := run.course needs
  exact claims ▸ accesses ▸ course.wings

end BucketProvisioning.Operator
