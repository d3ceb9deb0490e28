import BucketProvisioning.Proofs.Engine.Rehearsal
import BucketProvisioning.Proofs.Operator.Course

/-!
# Only the leader works

A program that needs the lease does nothing for any object before it has got the lease, and hands no
key out once it has been stopped.  How it ends depends on what stopped it: whoever loses the lease
leaves it alone, and whoever is asked to end gives it up last of all.

* `Life.occasion_of_step`: what must be so when something is done to the world outside.
* `Run.acquired`: nobody works, stops working or gives the lease up before an attempt to get it has
  succeeded.
* `Stage.fate?`: as soon as something stops the controllers it is settled how the program ends, and
  nothing changes that any more (`Run.settled`).
* `Run.drained`: the lease is not given up before the workers of both kinds have come to their end.
* `Life.ends_if_still`: the program does not stay where it is before it has ended, once it is
  settled how; for whatever it can do by itself changes it (`Life.ne_of_own`).

`only_leader_works` says all of this of every run.  `killed_while_installing` is a run that a signal
ends too early for that: nobody listens yet.
-/

set_option autoImplicit false

namespace BucketProvisioning.Operator

open BucketProvisioning BucketProvisioning.Api BucketProvisioning.Engine
open BucketProvisioning.Leadership BucketProvisioning.Resource BucketProvisioning.Reconcile

variable {plan : Plan} {unique : String} {e : Elector}
variable {first l l' : Life} {h : Happening} {traces : List Trace} {log : Log}

/-! ## What has been done -/

/-- Whether something is done for an object: a call to the server or to a backend, or an event. -/
def Trace.isWork : Trace → Bool
  | .forClaim _ => true
  | .forAccess _ => true
  | _ => false

/-- Whether it is the lease that is touched. -/
def Trace.isLease : Trace → Bool
  | .lease _ => true
  | _ => false

/-- Nothing of a sort has been done to the world outside. -/
def Log.Without (sort : Trace → Bool) (log : Log) : Prop :=
  ∀ x ∈ log, ∀ t ∈ x.1.doing x.2, sort t = false

/-- An attempt to get the lease has succeeded. -/
def Log.Acquired (log : Log) : Prop :=
  ∃ l time reply, (l, .compete time reply) ∈ log ∧ l.phase = .attempting (.done (.ok true))

/-- After an attempt to get the lease had succeeded and before the queue was closed, a worker was
handed a key, and it has held the key ever since. -/
def Log.Entrusted {α : Type} [Object α] (at? : Life × Happening → Option (Wing α × Wing.Act α))
    (log : Log) (i : Nat) (key : String) : Prop :=
  ∃ (later : Log) (x : Life × Happening) (earlier : Log) (w : Wing α) (h : Engine.Happening α),
    log = later ++ x :: earlier ∧ earlier.Acquired ∧ at? x = some (w, .happen h) ∧
    w.desk.handedKey? h = some key ∧ h.worker? = some i ∧ w.due = .close ∧
    ∀ y ∈ later.filterMap at?, y.1.desk.keyOf? i = some key

/-- The controllers have stopped when no key of either kind was in flight but those with which a
worker broke down, and nothing has been done for an object since. -/
def Log.Drained (log : Log) : Prop :=
  ∃ (later : Log) (l : Life) (earlier : Log), log = later ++ (l, .drained) :: earlier ∧
    (∀ key ∈ l.office.claims.desk.queue.keys.inFlight, earlier.claims.Lost key) ∧
    (∀ key ∈ l.office.accesses.desk.queue.keys.inFlight, earlier.accesses.Lost key) ∧
    later.Without Trace.isWork

/-- What is done in a step is what the step says. -/
theorem Life.doing_eq (happens : l.next h = some (l', traces)) : l.doing h = traces := by
  rw [doing, happens]
  rfl

/-- What has not been done stays undone if a step does nothing of the sort. -/
theorem Log.Without.cons {sort : Trace → Bool} (without : log.Without sort)
    (happens : l.next h = some (l', traces)) (none : ∀ t ∈ traces, sort t = false) :
    Log.Without sort ((l, h) :: log) :=
  List.forall_mem_cons.2 ⟨Life.doing_eq happens ▸ none, without⟩

/-- A lease that was once acquired was acquired. -/
theorem Log.Acquired.cons (acquired : log.Acquired) (x : Life × Happening) :
    Log.Acquired (x :: log) := by
  obtain ⟨l, time, reply, mem, gets⟩ := acquired
  exact ⟨l, time, reply, List.mem_cons_of_mem x mem, gets⟩

/-- What has been drained stays so if a step does nothing for an object. -/
theorem Log.Drained.cons (drained : log.Drained) (happens : l.next h = some (l', traces))
    (none : ∀ t ∈ traces, t.isWork = false) : Log.Drained ((l, h) :: log) := by
  obtain ⟨later, l₀, earlier, rfl, claims, accesses, quiet⟩ := drained
  exact ⟨(l, h) :: later, l₀, earlier, rfl, claims, accesses, quiet.cons happens none⟩

/-! ## Who does what -/

namespace Life

/-- What must be so when something is done to the world outside. -/
def Occasion (l : Life) (h : Happening) : Trace → Prop
  | .installs d => ∃ rest, l.stage = .installing (d :: rest)
  | .lease _ => l.competes = true ∧ l.phase ≠ .deposed
  | .forClaim deed => l.isAtWork = true ∧ ∃ h', h = .onClaims (.happen h') ∧
    l.office.claims.desk.deed? (Claims.reconcile l.plan.backends) l.plan.settings.workers
      (some h') = some deed
  | .forAccess deed => l.isAtWork = true ∧ ∃ h', h = .onAccesses (.happen h') ∧
    l.office.accesses.desk.deed? (Accesses.reconcile l.plan.backends) l.plan.settings.workers
      (some h') = some deed

/-- **Nothing is done without an occasion.** -/
theorem occasion_of_step (step : Step e l h l' traces) : ∀ t ∈ traces, l.Occasion h t := by
  cases step with
  | installed was | ready was | failed f was => exact List.forall_mem_singleton.2 ⟨_, was⟩
  | competed may steps =>
    have led : l.phase ≠ .deposed := by
      intro deposed
      rw [deposed] at steps
      cases steps
    rcases Elector.sent_of_step steps with rfl | ⟨r, rfl⟩
    · exact List.forall_mem_nil _
    · exact List.forall_mem_singleton.2 ⟨may, led⟩
  | @onClaims a claims atWork =>
    intro t mem
    obtain ⟨deed, does, rfl⟩ := List.mem_map.1 mem
    cases a with
    | happen h => exact ⟨atWork, h, rfl, Option.mem_toList.1 does⟩
    | order | abandon | cutOff i => cases Option.mem_toList.1 does
  | @onAccesses a accesses atWork =>
    intro t mem
    obtain ⟨deed, does, rfl⟩ := List.mem_map.1 mem
    cases a with
    | happen h => exact ⟨atWork, h, rfl, Option.mem_toList.1 does⟩
    | order | abandon | cutOff i => cases Option.mem_toList.1 does
  | _ => exact List.forall_mem_nil _

/-- Nothing is done for an object unless the controllers run. -/
theorem isAtWork_of_isWork {t : Trace} (occasion : l.Occasion h t) (work : t.isWork = true) :
    l.isAtWork = true := by
  cases t with
  | forClaim deed | forAccess deed => exact occasion.1
  | installs | lease => cases work

end Life

/-! ## From stage to stage -/

/-- Whether an attempt to get the lease has succeeded and the program has not ended since. -/
def Stage.isTenured : Stage → Bool
  | .working => true
  | .draining _ => true
  | .releasing => true
  | _ => false

/-- How the program is going to end, if that is settled. -/
def Stage.fate? : Stage → Option Ending
  | .draining .loss => some (.fault .leadershipLost)
  | .draining .signal => some .success
  | .releasing => some .success
  | .ended how => some how
  | _ => none

namespace Life

/-- Work is done only in a tenure. -/
theorem tenured_of_isAtWork (atWork : l.isAtWork = true) : l.stage.isTenured = true := by
  unfold isAtWork at atWork
  cases stage : l.stage <;> simp [stage] at atWork <;> rfl

/-- Nobody comes to work but by an attempt to get the lease that has succeeded. -/
theorem tenured_of_step (sound : l.Sound plan e) (step : Step e l h l' traces)
    (tenured : l'.stage.isTenured = true) : l.stage.isTenured = true ∨
      (∃ time reply, h = .compete time reply) ∧ l.phase = .attempting (.done (.ok true)) := by
  cases step with
  | installed | ready | failed | killed | dismissed | deposed | released => cases tenured
  | onClaims | onAccesses | elapsed | ignored => exact Or.inl tenured
  | asked was | lost was | drained was => exact Or.inl (was ▸ rfl)
  | @competed time reply phase traces may steps =>
    by_cases stage : l.stage = .acquiring
    · rcases (sound.at_stage stage).1 with ⟨d, is⟩ | ⟨due, is⟩
      · rw [is] at steps
        rcases Elector.step_attempting steps with ⟨d', rfl⟩ | ⟨due, rfl⟩ | ⟨rfl, -⟩ | rfl
        · simp [Life.competed, stage, Stage.isTenured] at tenured
        · simp [Life.competed, stage, Stage.isTenured] at tenured
        · exact Or.inr ⟨⟨time, reply, rfl⟩, is⟩
        · simp [Life.competed, stage, Stage.isTenured, finish] at tenured
      · rw [is] at steps
        obtain rfl := Elector.step_pausing steps
        simp [Life.competed, stage, Stage.isTenured] at tenured
    · rw [competed_eq stage] at tenured
      exact Or.inl tenured

/-- A process has ended in a way if its last stage says so. -/
theorem ending_eq {how : Ending} : l.ending? = some how ↔ l.stage = .ended how := by
  unfold ending?
  split <;> simp_all

/-- A program ends as it was settled. -/
theorem ending_of_fate {how how' : Ending} (settled : l.stage.fate? = some how)
    (ends : l.ending? = some how') : how' = how := by
  rw [ending_eq.1 ends] at settled
  exact Option.some.inj settled

/-- **What is settled stays settled.** -/
theorem fate_of_step (step : Step e l h l' traces) {how : Ending}
    (settled : l.stage.fate? = some how) : l'.stage.fate? = some how := by
  cases step with
  | installed was | ready was | failed f was | killed was | dismissed was | asked was | lost was =>
    rw [was] at settled
    cases settled
  | onClaims | onAccesses | elapsed | ignored => exact settled
  | competed =>
    rw [competed_eq (by intro stage; simp [stage, Stage.fate?] at settled)]
    exact settled
  | deposed was | drained was | released was =>
    rw [was] at settled
    exact settled

/-- A program that has ended does nothing any more. -/
theorem ended_of_step (step : Step e l h l' traces) {how : Ending}
    (finished : l.stage = .ended how) : l'.stage = .ended how ∧ traces = [] := by
  cases step with
  | installed was | ready was | failed f was | killed was | dismissed was | asked was | lost was
  | deposed was | drained was | released was => cases finished.symm.trans was
  | competed may => simp [competes, finished] at may
  | onClaims atWork | onAccesses atWork => simp [isAtWork, finished] at atWork
  | elapsed | ignored => exact ⟨finished, rfl⟩

/-- Nobody gives the lease up but whoever does so already or has just stopped because of a
signal. -/
theorem releasing_of_step (step : Step e l h l' traces) (releasing : l'.stage = .releasing) :
    l.stage = .releasing ∨ h = .drained ∧
      l.office.step l.plan.backends l.plan.settings.workers .leave =
        some { l.office with phase := .closed } := by
  cases step with
  | onClaims | onAccesses | elapsed | ignored => exact Or.inl releasing
  | drained was leaves => exact Or.inr ⟨rfl, leaves⟩
  | @competed time reply phase =>
    unfold Life.competed at releasing
    split at releasing <;> first | exact Or.inl releasing | cases releasing
  | _ => cases releasing

/-- Whoever has been asked to stop ends by having given the lease up. -/
theorem released_of_step (step : Step e l h l' traces) (settled : l.stage.fate? = some .success)
    {how : Ending} (finished : l'.stage = .ended how) :
    l.stage = .ended how ∨ h = .released := by
  cases step with
  | installed was | ready was | failed f was | killed was | dismissed was | deposed was =>
    rw [was] at settled
    cases settled
  | onClaims | onAccesses | elapsed | ignored => exact Or.inl finished
  | asked | lost | drained => cases finished
  | competed =>
    rw [competed_eq (by intro stage; simp [stage, Stage.fate?] at settled)] at finished
    exact Or.inl finished
  | released => exact Or.inr rfl

/-- Whoever gives the lease up has nothing else to do. -/
theorem Sound.releasing_of_phase (sound : l.Sound plan e)
    {d : Dialogue (Except Failure Unit)} (is : l.phase = .releasing d) : l.stage = .releasing := by
  have place := sound.place
  rw [is] at place
  cases stage : l.stage with
  | releasing => rfl
  | draining cause =>
    cases cause with
    | signal | loss => simp [stage, Stage.GoesWith, Leadership.Phase.holdsGuard] at place
  | _ => simp [stage, Stage.GoesWith, IsSeeking, Leadership.Phase.holdsGuard] at place

end Life

/-! ## Whole runs -/

namespace Run

/-- **Nobody comes to work before an attempt to get the lease has succeeded.** -/
theorem acquired (run : Run (.begin plan unique) l log) (needs : plan.elector? unique = some e)
    (tenured : l.stage.isTenured = true) : log.Acquired := by
  induction run with
  | start => cases tenured
  | next run happens ih =>
    have sound := run.sound (Life.sound_begin needs)
    have step := Life.step_of_next sound.needs happens
    rcases Life.tenured_of_step sound step tenured with before | ⟨⟨time, reply, rfl⟩, gets⟩
    · exact (ih before).cons _
    · exact ⟨_, time, reply, List.mem_cons_self, gets⟩

/-- As long as no attempt to get the lease has succeeded, nothing is done for an object. -/
theorem without_work (run : Run (.begin plan unique) l log) (needs : plan.elector? unique = some e)
    (waiting : ¬ log.Acquired) : log.Without Trace.isWork := by
  induction run with
  | start => exact List.forall_mem_nil _
  | @next l l' log h traces run happens ih =>
    have sound := run.sound (Life.sound_begin needs)
    refine (ih fun acquired => waiting (acquired.cons _)).cons happens fun t mem => ?_
    by_contra work
    have occasion := Life.occasion_of_step (Life.step_of_next sound.needs happens) t mem
    have atWork := Life.isAtWork_of_isWork occasion (by simpa using work)
    exact waiting ((run.acquired needs (Life.tenured_of_isAtWork atWork)).cons _)

/-- A fate that is settled stays so. -/
theorem settled (run : Run first l log) (sound : first.Sound plan e) {how : Ending}
    (settled : first.stage.fate? = some how) : l.stage.fate? = some how := by
  induction run with
  | start => exact settled
  | next run happens ih =>
    exact Life.fate_of_step (Life.step_of_next (run.sound sound).needs happens) ih

/-- Once it is settled that the program ends because the lease is lost, nobody touches the lease. -/
theorem without_lease (run : Run first l log) (sound : first.Sound plan e)
    (lost : first.stage.fate? = some (.fault .leadershipLost)) : log.Without Trace.isLease := by
  induction run with
  | start => exact List.forall_mem_nil _
  | @next l l' log h traces run happens ih =>
    have sound' := run.sound sound
    have fate := run.settled sound lost
    refine ih.cons happens fun t mem => ?_
    have occasion := Life.occasion_of_step (Life.step_of_next sound'.needs happens) t mem
    cases t with
    | installs | forClaim | forAccess => rfl
    | lease r =>
      obtain ⟨competes, inIt⟩ := occasion
      cases stage : l.stage with
      | draining cause =>
        cases cause with
        | loss => exact absurd (sound'.at_stage stage).1 inIt
        | signal => simp [stage, Stage.fate?] at fate
      | ended how => simp [Life.competes, stage] at competes
      | _ => simp [stage, Stage.fate?] at fate

/-- Nothing is done any more once the program has ended. -/
theorem finished (run : Run first l log) (sound : first.Sound plan e) {how : Ending}
    (finished : first.stage = .ended how) : l.stage = .ended how ∧ log.Without Trace.isWork := by
  induction run with
  | start => exact ⟨finished, List.forall_mem_nil _⟩
  | next run happens ih =>
    obtain ⟨ended, rfl⟩ :=
      Life.ended_of_step (Life.step_of_next (run.sound sound).needs happens) ih.1
    exact ⟨ended, ih.2.cons happens (List.forall_mem_nil _)⟩

/-- **The lease is not given up before the controllers have stopped.** -/
theorem drained (run : Run (.begin plan unique) l log) (needs : plan.elector? unique = some e)
    (releasing : l.stage = .releasing) : log.Drained := by
  induction run with
  | start => cases releasing
  | @next l l' log h traces run happens ih =>
    have sound := run.sound (Life.sound_begin needs)
    have step := Life.step_of_next sound.needs happens
    rcases Life.releasing_of_step step releasing with before | ⟨rfl, leaves⟩
    · refine (ih before).cons happens fun t mem => ?_
      by_contra work
      have occasion := Life.occasion_of_step step t mem
      have atWork := Life.isAtWork_of_isWork occasion (by simpa using work)
      simp [Life.isAtWork, before] at atWork
    · obtain ⟨claimsOver, accessesOver⟩ := Office.over_of_leave leaves
      obtain ⟨claims, accesses⟩ := run.wings needs
      exact ⟨[], l, log, rfl, (Wing.graceful_of_course claims).finished claimsOver,
        (Wing.graceful_of_course accesses).finished accessesOver, List.forall_mem_nil _⟩

/-- Whoever has been asked to stop and has ended has seen before how it went with giving the lease
up. -/
theorem released (run : Run first l log) (sound : first.Sound plan e)
    (asked : first.stage.fate? = some .success) (going : first.ending? = none) {how : Ending}
    (ends : l.ending? = some how) : ∃ l₁, (l₁, .released) ∈ log := by
  induction run with
  | start => cases going.symm.trans ends
  | @next l l' log h traces run happens ih =>
    have step := Life.step_of_next (run.sound sound).needs happens
    have fate := run.settled sound asked
    rcases Life.released_of_step step fate (Life.ending_eq.1 ends) with before | rfl
    · obtain ⟨l₁, mem⟩ := ih (Life.ending_eq.2 before)
      exact ⟨l₁, List.mem_cons_of_mem _ mem⟩
    · exact ⟨l, List.mem_cons_self⟩

end Run

/-! ## Whoever can go on -/

/-- Whether it is the program's own doing. -/
def Happening.isOwn : Happening → Bool
  | .elapse _ => false
  | .signal => false
  | .onClaims a => a.isOwn || a.isOrder
  | .onAccesses a => a.isOwn || a.isOrder
  | _ => true

/-- Nobody in the program can go on, whatever is replied: whatever it can do on its own leaves it
as it is. -/
def Life.Still (l : Life) : Prop :=
  ∀ h, h.isOwn = true → ∀ l' traces, l.next h = some (l', traces) → l' = l

/-- **Whatever the program does on its own changes it.** -/
theorem Life.ne_of_own (step : Step e l h l' traces) (own : h.isOwn = true) : l' ≠ l := by
  intro same
  have stage : l'.stage = l.stage := by rw [same]
  cases step with
  | installed was =>
    have shorter := Stage.installing.inj (stage.trans was)
    exact List.ne_cons_self shorter
  | ready was | failed f was | lost was | deposed was | drained was | released was =>
    cases stage.trans was
  | @competed time reply phase traces may steps =>
    have comesTo : (l.competed phase).phase = phase := by
      unfold competed
      split <;> rfl
    exact Elector.ne_of_step steps (comesTo.symm.trans (congrArg Life.phase same))
  | onClaims atWork allowed acts =>
    exact Wing.ne_of_own own acts (congrArg (fun l => l.office.claims) same)
  | onAccesses atWork allowed acts =>
    exact Wing.ne_of_own own acts (congrArg (fun l => l.office.accesses) same)
  | elapsed | killed | dismissed | asked | ignored => cases own

/-- What those who work in a wing do on their own comes from within, and so does what is due. -/
theorem isWithin_of_isOwn {α : Type} {a : Wing.Act α} (own : (a.isOwn || a.isOrder) = true) :
    isWithin a = true := by
  unfold isWithin
  split <;> first | rfl | cases own

/-- What can be done in the office while the controllers stop, the program can do. -/
theorem Life.isSome_next (sound : l.Sound plan e) {cause : Cause}
    (stage : l.stage = .draining cause) {a : Office.Act} (own : a.isOwn = true)
    (steps : (l.office.step plan.backends plan.settings.workers a).isSome = true) :
    ∃ h, h.isOwn = true ∧ (l.next h).isSome = true := by
  have atWork : l.isAtWork = true := by simp [isAtWork, stage]
  rw [← sound.plan] at steps
  cases a with
  | claims a =>
    refine ⟨.onClaims a, own, ?_⟩
    simpa [next, onClaims, inOffice, atWork, isWithin_of_isOwn own] using steps
  | accesses a =>
    refine ⟨.onAccesses a, own, ?_⟩
    simpa [next, onAccesses, inOffice, atWork, isWithin_of_isOwn own] using steps
  | ask => cases own
  | leave =>
    refine ⟨.drained, rfl, ?_⟩
    simpa [next, drained, inOffice, stage] using steps

/-- **The program comes to its end**: once it is settled how it ends, it does not stay where it is
before it has. -/
theorem Life.ends_if_still (run : Run (.begin plan unique) l log)
    (needs : plan.elector? unique = some e) {how : Ending}
    (settled : l.stage.fate? = some how) (still : l.Still) : l.ending? = some how := by
  have sound := run.sound (sound_begin needs)
  -- it would not be still if it could do something on its own
  have goesOn {h : Happening} (own : h.isOwn = true) (steps : (l.next h).isSome = true) :
      False := by
    obtain ⟨⟨l', traces⟩, happens⟩ := Option.isSome_iff_exists.1 steps
    exact ne_of_own (step_of_next sound.needs happens) own (still h own l' traces happens)
  cases stage : l.stage with
  | draining cause =>
    have closing : l.office.phase = .closing := by
      cases cause with
      | signal | loss => exact (sound.at_stage stage).2
    obtain ⟨log', course, -⟩ := run.course needs
    obtain ⟨a, own, steps⟩ := Office.goesOn course closing
    obtain ⟨h, own, steps⟩ := isSome_next sound stage own steps
    exact (goesOn own steps).elim
  | releasing =>
    rcases (sound.at_stage stage).1 with ⟨d, is, -⟩ | ⟨r, is⟩
    · refine (goesOn (h := .compete default fun _ => .ok default) rfl ?_).elim
      simpa [next, compete, sound.needs, competes, stage, is] using
        Elector.isSome_step_releasing d
    · refine (goesOn (h := .released) rfl ?_).elim
      simp [next, released, stage, is]
  | ended how' =>
    rw [stage] at settled
    simpa [ending?, stage, Stage.fate?] using settled
  | _ => simp [stage, Stage.fate?] at settled

/-! ## Whoever holds a key -/

/-- Whoever is entrusted with a key in a wing is entrusted with it as the leader, if keys are handed
out only while the controllers run. -/
theorem Run.entrusted {α : Type} [Object α]
    {at? : Life × Happening → Option (Wing α × Wing.Act α)} {i : Nat} {key : String}
    (run : Run (.begin plan unique) l log) (needs : plan.elector? unique = some e)
    (entrusted : Wing.Log.Entrusted (log.filterMap at?) i key)
    (hands : ∀ l h l' traces w h', Life.Step e l h l' traces → at? (l, h) = some (w, .happen h') →
      w.desk.handedKey? h' = some key → l.isAtWork = true) : log.Entrusted at? i key := by
  obtain ⟨later, w, h, earlier, same, handed, worker, opened, held⟩ := entrusted
  obtain ⟨later', rest, rfl, isLater, isRest⟩ := List.filterMap_eq_append_iff.1 same
  obtain ⟨between, ⟨l₁, h₁⟩, earlier', rfl, aside, is, -⟩ := List.filterMap_eq_cons_iff.1 isRest
  have split := (List.append_assoc later' between ((l₁, h₁) :: earlier')).symm
  rw [split] at run
  obtain ⟨l₂, traces, before, happens, -⟩ := run.split
  have step := Life.step_of_next (before.sound (Life.sound_begin needs)).needs happens
  have atWork := hands _ _ _ _ w h step is handed
  have acquired := before.acquired needs (Life.tenured_of_isAtWork atWork)
  refine ⟨later' ++ between, _, earlier', w, h, split, acquired, is, handed, worker, opened, ?_⟩
  rw [List.filterMap_append, isLater, List.filterMap_eq_nil_iff.2 aside, List.append_nil]
  exact held

/-- Whoever holds the key of a claim was handed it as the leader. -/
theorem Run.entrusted_claim (run : Run (.begin plan unique) l log)
    (needs : plan.elector? unique = some e) {i : Nat} {key : String}
    (holds : l.office.claims.desk.keyOf? i = some key) : log.Entrusted atClaims i key := by
  refine run.entrusted needs ((run.wings needs).1.entrusted holds) ?_
  intro l h l' traces w h' step is handed
  cases step with
  | onClaims atWork => exact atWork
  | elapsed ms =>
    cases is
    cases handed
  | _ => cases is

/-- Whoever holds the key of an access was handed it as the leader. -/
theorem Run.entrusted_access (run : Run (.begin plan unique) l log)
    (needs : plan.elector? unique = some e) {i : Nat} {key : String}
    (holds : l.office.accesses.desk.keyOf? i = some key) : log.Entrusted atAccesses i key := by
  refine run.entrusted needs ((run.wings needs).2.entrusted holds) ?_
  intro l h l' traces w h' step is handed
  cases step with
  | onAccesses atWork => exact atWork
  | elapsed ms =>
    cases is
    cases handed
  | _ => cases is

/-! ## Only the leader works -/

/-- What is done for objects is done by the leader, and what stops the leader says how it ends. -/
structure Life.Rightful (l : Life) (log : Log) : Prop where
  /-- What is done for a claim is done by a worker in the middle of the reconcile of the claim's
  key, and it was handed the key after the lease had been got and before the queue was closed. -/
  claims : ∀ (later : Log) l₁ h (earlier : Log) deed, log = later ++ (l₁, h) :: earlier →
    .forClaim deed ∈ l₁.doing h →
    ∃ i rest, l₁.office.claims.desk.worker? i = some (.busy deed.key rest) ∧
      (Claims.reconcile l₁.plan.backends deed.key).Leaves rest ∧ deed.IsNext rest ∧
      earlier.Entrusted atClaims i deed.key
  /-- So it is with what is done for an access. -/
  accesses : ∀ (later : Log) l₁ h (earlier : Log) deed, log = later ++ (l₁, h) :: earlier →
    .forAccess deed ∈ l₁.doing h →
    ∃ i rest, l₁.office.accesses.desk.worker? i = some (.busy deed.key rest) ∧
      (Accesses.reconcile l₁.plan.backends deed.key).Leaves rest ∧ deed.IsNext rest ∧
      earlier.Entrusted atAccesses i deed.key
  /-- A signal that comes before the lease has been got ends the program, and nothing is ever done
  for an object.  Whoever waits for the lease hears the signal and ends as it was asked to; as long
  as definitions are being installed nobody listens for signals yet, and the signal itself ends the
  program. -/
  turnedAway : ∀ (later : Log) l₁ (earlier : Log), log = later ++ (l₁, .signal) :: earlier →
    ¬ earlier.Acquired → l₁.ending? = none → log.Without Trace.isWork ∧
      (l₁.stage = .acquiring ∧ l.ending? = some .success ∨
        (∃ rest, l₁.stage = .installing rest) ∧ l.ending? = some .killed)
  /-- If the loss of the lease stops the controllers, nobody touches the lease again, and the
  program comes to its end with that fault and no other way. -/
  deposed : ∀ (later : Log) l₁ (earlier : Log), log = later ++ (l₁, .noticeLoss) :: earlier →
    later.Without Trace.isLease ∧
    (∀ how, l.ending? = some how → how = .fault .leadershipLost) ∧
    (l.Still → l.ending? = some (.fault .leadershipLost))
  /-- If a signal stops the controllers, the program comes to its end as it was asked to and no
  other way, when the controllers have stopped and the lease has been given up, or could not be. -/
  dismissed : ∀ (later : Log) l₁ (earlier : Log), log = later ++ (l₁, .signal) :: earlier →
    l₁.stage = .working →
    (∀ how, l.ending? = some how → how = .success ∧
      ∃ (after : Log) (l₂ : Life) (before : Log) (r : Except Failure Unit),
        log = after ++ (l₂, .released) :: before ∧ l₂.phase = .released r ∧ before.Drained) ∧
    (l.Still → l.ending? = some .success)
  /-- Nobody gives the lease up before the controllers have stopped. -/
  releasing : ∀ (later : Log) l₁ h (earlier : Log) d, log = later ++ (l₁, h) :: earlier →
    l₁.phase = .releasing d → earlier.Drained

namespace Run

/-- Whatever is done for a claim is done in the middle of a reconcile, by somebody who was handed
the key as the leader. -/
theorem rightful_claim (run : Run (.begin plan unique) l log)
    (needs : plan.elector? unique = some e) (happens : l.next h = some (l', traces)) {deed : Deed}
    (does : .forClaim deed ∈ traces) :
    ∃ i rest, l.office.claims.desk.worker? i = some (.busy deed.key rest) ∧
      (Claims.reconcile l.plan.backends deed.key).Leaves rest ∧ deed.IsNext rest ∧
      log.Entrusted atClaims i deed.key := by
  have sound := run.sound (Life.sound_begin needs)
  obtain ⟨-, h', -, does⟩ :=
    Life.occasion_of_step (Life.step_of_next sound.needs happens) _ does
  obtain ⟨i, rest, -, busy, next⟩ := Desk.busy_of_deed does
  refine ⟨i, rest, busy, ?_, next, run.entrusted_claim needs (Desk.keyOf?_of_worker busy)⟩
  exact sound.plan ▸ (run.wings needs).1.faithful i deed.key rest busy

/-- So it is with whatever is done for an access. -/
theorem rightful_access (run : Run (.begin plan unique) l log)
    (needs : plan.elector? unique = some e) (happens : l.next h = some (l', traces)) {deed : Deed}
    (does : .forAccess deed ∈ traces) :
    ∃ i rest, l.office.accesses.desk.worker? i = some (.busy deed.key rest) ∧
      (Accesses.reconcile l.plan.backends deed.key).Leaves rest ∧ deed.IsNext rest ∧
      log.Entrusted atAccesses i deed.key := by
  have sound := run.sound (Life.sound_begin needs)
  obtain ⟨-, h', -, does⟩ :=
    Life.occasion_of_step (Life.step_of_next sound.needs happens) _ does
  obtain ⟨i, rest, -, busy, next⟩ := Desk.busy_of_deed does
  refine ⟨i, rest, busy, ?_, next, run.entrusted_access needs (Desk.keyOf?_of_worker busy)⟩
  exact sound.plan ▸ (run.wings needs).2.faithful i deed.key rest busy

/-- A signal that is heard before the lease has been got ends the program at once. -/
theorem turned_away (run : Run (.begin plan unique) l log) (needs : plan.elector? unique = some e)
    (waiting : ¬ log.Acquired) (going : l.ending? = none)
    (happens : l.next .signal = some (l', traces)) : traces = [] ∧
      (l.stage = .acquiring ∧ l'.stage = .ended .success ∨
        (∃ rest, l.stage = .installing rest) ∧ l'.stage = .ended .killed) := by
  have untenured : l.stage.isTenured ≠ true := fun tenured => waiting (run.acquired needs tenured)
  cases Life.step_of_next (run.sound (Life.sound_begin needs)).needs happens with
  | killed was => exact ⟨rfl, Or.inr ⟨⟨_, was⟩, rfl⟩⟩
  | dismissed was => exact ⟨rfl, Or.inl ⟨was, rfl⟩⟩
  | asked was => exact absurd (was ▸ rfl) untenured
  | ignored was =>
    rcases was with ⟨cause, was⟩ | was | ⟨how, was⟩
    · exact absurd (was ▸ rfl) untenured
    · exact absurd (was ▸ rfl) untenured
    · cases going.symm.trans (Life.ending_eq.2 was)

/-- Whoever ends after giving the lease up does so when the controllers have stopped. -/
theorem given_up (run : Run (.begin plan unique) l log) (needs : plan.elector? unique = some e)
    (happens : l.next .released = some (l', traces)) :
    ∃ r, l.phase = .released r ∧ log.Drained := by
  cases Life.step_of_next (run.sound (Life.sound_begin needs)).needs happens with
  | released was given => exact ⟨_, given, run.drained needs was⟩

end Run

/-- **Only the leader works.**  In every run of a program that needs the lease, whatever is replied
to it, whoever else takes the lease, and whenever it is asked to end: whatever is done for an object
is done in the reconcile of a key that a worker was handed after the lease had been got and before
the queue was closed; a signal that comes before the lease has been got ends the program without any
such deed, as it was asked to if it waits for the lease; whoever loses the lease leaves it alone and
ends with that fault; and whoever is asked to end while it works lets the workers finish, gives the
lease up after them and ends as it was asked to. -/
theorem only_leader_works (elects : plan.options.leaderElection = true)
    (run : Run (.begin plan unique) l log) : l.Rightful log := by
  obtain ⟨e, needs⟩ : ∃ e, plan.elector? unique = some e := ⟨_, if_pos elects⟩
  have sound₀ := Life.sound_begin needs
  constructor
  case claims =>
    rintro later l₁ h earlier deed rfl does
    obtain ⟨l₂, traces, before, happens, -⟩ := run.split
    exact before.rightful_claim needs happens (Life.doing_eq happens ▸ does)
  case accesses =>
    rintro later l₁ h earlier deed rfl does
    obtain ⟨l₂, traces, before, happens, -⟩ := run.split
    exact before.rightful_access needs happens (Life.doing_eq happens ▸ does)
  case turnedAway =>
    rintro later l₁ earlier rfl waiting going
    obtain ⟨l₂, traces, before, happens, after⟩ := run.split
    have sound := before.sound sound₀
    have sound₂ := sound.next (Life.step_of_next sound.needs happens)
    have quiet := before.without_work needs waiting
    obtain ⟨rfl, how⟩ := before.turned_away needs waiting going happens
    rcases how with ⟨was, ended⟩ | ⟨was, ended⟩
    all_goals
      obtain ⟨ended, none⟩ := after.finished sound₂ ended
      refine ⟨List.forall_mem_append.2 ⟨none, quiet.cons happens (List.forall_mem_nil _)⟩, ?_⟩
    · exact Or.inl ⟨was, Life.ending_eq.2 ended⟩
    · exact Or.inr ⟨was, Life.ending_eq.2 ended⟩
  case deposed =>
    rintro later l₁ earlier rfl
    obtain ⟨l₂, traces, before, happens, after⟩ := run.split
    have sound := before.sound sound₀
    have step := Life.step_of_next sound.needs happens
    have sound₂ := sound.next step
    cases step with
    | lost was gone =>
      have fate := after.settled sound₂ rfl
      exact ⟨after.without_lease sound₂ rfl, fun how ends => Life.ending_of_fate fate ends,
        Life.ends_if_still run needs fate⟩
  case dismissed =>
    rintro later l₁ earlier rfl working
    obtain ⟨l₂, traces, before, happens, after⟩ := run.split
    have sound := before.sound sound₀
    have step := Life.step_of_next sound.needs happens
    have sound₂ := sound.next step
    cases step with
    | asked =>
      have fate := after.settled sound₂ rfl
      refine ⟨fun how ends => ⟨Life.ending_of_fate fate ends, ?_⟩,
        Life.ends_if_still run needs fate⟩
      obtain ⟨l₃, mem⟩ := after.released sound₂ rfl rfl ends
      obtain ⟨after', between, rfl⟩ := List.append_of_mem mem
      rw [List.append_assoc, List.cons_append] at run ⊢
      obtain ⟨l₄, traces', before₃, happens₃, -⟩ := run.split
      obtain ⟨r, given, drained⟩ := before₃.given_up needs happens₃
      exact ⟨after', l₃, _, r, rfl, given, drained⟩
    | killed was | dismissed was => cases working.symm.trans was
    | ignored was =>
      rw [working] at was
      simp at was
  case releasing =>
    rintro later l₁ h earlier d rfl is
    obtain ⟨l₂, traces, before, happens, -⟩ := run.split
    exact before.drained needs ((before.sound sound₀).releasing_of_phase is)

/-! ## Two leaders -/

/-- A program and its log after some things have happened, unless one of them is not possible. -/
def Life.follow (l : Life) (log : Log) : List Happening → Option (Life × Log)
  | [] => some (l, log)
  | h :: later =>
    match l.next h with
    | some (l', _) => l'.follow ((l, h) :: log) later
    | none => none

/-- What follows from a list of happenings is a run. -/
theorem run_of_follow {log' : Log} {happenings : List Happening} (run : Run first l log)
    (follows : l.follow log happenings = some (l', log')) : Run first l' log' := by
  induction happenings generalizing l log with
  | nil =>
    obtain ⟨rfl, rfl⟩ := Prod.mk.inj (Option.some.inj follows)
    exact run
  | cons h later ih =>
    unfold Life.follow at follows
    split at follows
    · rename_i l₁ traces happens
      exact ih (run.next happens) follows
    · cases follows

/-- An instance with one worker that works only while it leads. -/
def leading : Plan where
  settings := { workers := 1 }
  backends := oneType
  options := { leaderElection := true, podName := some "pod-a" }

/-- There is no lease yet, and everything that is written is accepted. -/
def vacant : LeaseRequest → Except ApiFault Lease
  | .read => .error (.rejected (.failure 404 "NotFound" "leases \"bucket-operator-leader\""))
  | .create lease => .ok lease
  | .replace lease => .ok lease
  | .vacate _ => .ok {}

/-- The lease is held by an instance, which has just renewed it. -/
def heldBy (name : String) : LeaseRequest → Except ApiFault Lease
  | .read => .ok {
      metadata := { resourceVersion := some "2" }
      spec := some {
        holder := some name
        durationSeconds := some 30
        renewTime := some default } }
  | _ => .ok {}

/-- The competitor does some steps. -/
def competition (steps : Nat) (reply : LeaseRequest → Except ApiFault Lease) : List Happening :=
  List.replicate steps (.compete default reply)

/-- Things happen at the desk of claims. -/
def onDeskOfClaims (happenings : List (Engine.Happening BucketClaim)) : List Happening :=
  happenings.map fun h => .onClaims (.happen h)

/-- The definitions are installed, the lease is got, and the worker begins to reconcile a claim. -/
def elected : List Happening :=
  List.replicate 3 (.installed (.ok ())) ++ competition 4 vacant ++
    onDeskOfClaims (opened [newClaim] ++ labour 3)

/-- The queues are closed, the worker of accesses is dismissed, the worker of claims comes to its
end, and the controllers stop. -/
def stopped : List Happening :=
  [.onClaims .order, .onClaims .order, .onAccesses .order, .onAccesses .order, .onClaims .order,
      .onAccesses .order, .onAccesses .order, .onAccesses .abandon] ++
    onDeskOfClaims (labour 7) ++ [.drained]

/-- A leader that is asked to end in the middle of a reconcile. -/
def asked : List Happening :=
  elected ++ [.signal] ++ stopped ++ competition 4 (heldBy "pod-a") ++ [.released]

/-- A leader that somebody else has followed in the middle of a reconcile. -/
def followed : List Happening :=
  elected ++ [.elapse 10000] ++ competition 4 (heldBy "pod-b") ++ [.noticeLoss] ++ stopped

/-- Whether something has been done for an object. -/
def Log.hasWork (log : Log) : Bool := log.any fun x => (x.1.doing x.2).any Trace.isWork

/-- A log in which work is found is not one without work. -/
theorem Log.not_without_work (works : log.hasWork = true) : ¬ log.Without Trace.isWork := by
  intro without
  obtain ⟨x, mem, does⟩ := List.any_eq_true.1 works
  obtain ⟨t, done, work⟩ := List.any_eq_true.1 does
  exact absurd (without x mem t done) (by simp [work])

/-- Whether a signal stops the controllers. -/
def isDismissal (x : Life × Happening) : Bool :=
  match x.1.stage, x.2 with
  | .working, .signal => true
  | _, _ => false

/-- Whether the loss of the lease stops the controllers. -/
def isDeposition (x : Life × Happening) : Bool :=
  match x.2 with
  | .noticeLoss => true
  | _ => false

/-- Such a signal comes to a process that works. -/
theorem of_isDismissal {x : Life × Happening} (is : isDismissal x = true) :
    x.1.stage = .working ∧ x.2 = .signal := by
  unfold isDismissal at is
  split at is
  · exact ⟨‹_›, ‹_›⟩
  · cases is

/-- Such a loss is one that has been noticed. -/
theorem of_isDeposition {x : Life × Happening} (is : isDeposition x = true) :
    x.2 = .noticeLoss := by
  unfold isDeposition at is
  split at is
  · assumption
  · cases is

/-- One leader goes on with the reconcile and then gives the lease up, the other one leaves the
lease alone. -/
theorem only_leader_works_until_stopped : ∃ l log l' log',
    Run (.begin leading "u") l log ∧ l.Rightful log ∧ ¬ log.Without Trace.isWork ∧
    l.ending? = some .success ∧
    (∃ (after : Log) (l₂ : Life) (before : Log) (r : Except Failure Unit),
      log = after ++ (l₂, .released) :: before ∧ l₂.phase = .released r ∧ before.Drained) ∧
    Run (.begin leading "u") l' log' ∧ l'.Rightful log' ∧ ¬ log'.Without Trace.isWork ∧
    l'.ending? = some (.fault .leadershipLost) ∧
    ∃ (later : Log) (l₁ : Life) (earlier : Log), log' = later ++ (l₁, .noticeLoss) :: earlier ∧
      later.Without Trace.isLease := by
  have rehearsed : ((Life.begin leading "u").follow [] asked).any (fun r =>
      decide (r.1.ending? = some .success) && r.2.hasWork && r.2.any isDismissal) = true := by
    decide +kernel
  have rehearsed' : ((Life.begin leading "u").follow [] followed).any (fun r =>
      decide (r.1.ending? = some (.fault .leadershipLost)) && r.2.hasWork &&
        r.2.any isDeposition) = true := by
    decide +kernel
  simp only [Option.any_eq_true, List.any_eq_true, Bool.and_eq_true, decide_eq_true_eq]
    at rehearsed rehearsed'
  obtain ⟨⟨l, log⟩, follows, ⟨ends, works⟩, ⟨l₁, h₁⟩, mem, stops⟩ := rehearsed
  obtain ⟨⟨l', log'⟩, follows', ⟨ends', works'⟩, ⟨l₁', h₁'⟩, mem', stops'⟩ := rehearsed'
  obtain ⟨working, rfl⟩ := of_isDismissal stops
  obtain rfl := of_isDeposition stops'
  obtain ⟨later, earlier, split⟩ := List.append_of_mem mem
  obtain ⟨later', earlier', split'⟩ := List.append_of_mem mem'
  have run := run_of_follow .start follows
  have run' := run_of_follow .start follows'
  have rightful := only_leader_works rfl run
  have rightful' := only_leader_works rfl run'
  obtain ⟨-, given⟩ := (rightful.dismissed later l₁ earlier split working).1 _ ends
  obtain ⟨untouched, -⟩ := rightful'.deposed later' l₁' earlier' split'
  exact ⟨l, log, l', log', run, rightful, Log.not_without_work works, ends, given, run', rightful',
    Log.not_without_work works', ends', later', l₁', earlier', split', untouched⟩

/-- A signal that comes before there is any attempt to get the lease need not end the program as it
was asked to: an instance that still installs definitions does not listen for signals yet, and is
killed. -/
theorem killed_while_installing : leading.options.leaderElection = true ∧
    ∃ l, Run (.begin leading "u") l [(.begin leading "u", .signal)] ∧ ¬ Log.Acquired [] ∧
      (Life.begin leading "u").ending? = none ∧ l.ending? = some .killed ∧
      l.ending? ≠ some .success := by
  have dies : (Life.begin leading "u").next .signal =
      some ((Life.begin leading "u").finish .killed, []) := rfl
  refine ⟨rfl, _, .next .start dies, ?_, rfl, rfl, ?_⟩
  · rintro ⟨l, time, reply, mem, -⟩
    cases mem
  · rintro ⟨⟩

end BucketProvisioning.Operator
