import BucketProvisioning.Engine.Office
import BucketProvisioning.Leadership.Candidate
import BucketProvisioning.Operator.Installation
import BucketProvisioning.Operator.Plan

/-!
# The life of the program

From its start to its end the program installs the definitions, gets the lease if it is to work
only while holding it, and works until it hears that it is to end or that the lease is lost.  Then
the queues are closed, the keys that are held are reconciled to their end, and only after that is
the lease given up; a lease that was lost is not touched again.  In the meantime the lease is
renewed as before.

A `Happening` is one uninterruptible step.  What replies contain, which worker goes on and when a
signal is heard is the choice of the surroundings; `Life.next` says what follows, with what is done
to the world outside, and has no outcome for a step that is not possible at the moment.
-/

set_option autoImplicit false

namespace BucketProvisioning.Operator

open BucketProvisioning BucketProvisioning.Api BucketProvisioning.Engine
open BucketProvisioning.Leadership BucketProvisioning.Resource BucketProvisioning.Reconcile

/-- What made the program stop working. -/
inductive Cause where
  /-- Somebody asked it to end. -/
  | signal
  /-- The lease was lost. -/
  | loss
deriving DecidableEq, Repr

/-- How the program ended. -/
inductive Ending where
  /-- As it was asked to. -/
  | success
  /-- Because something went wrong. -/
  | fault (f : Fault)
  /-- It broke down. -/
  | brokenDown
  /-- By a signal that it does not heed yet. -/
  | killed
deriving DecidableEq, Repr

/-- What the program is doing. -/
inductive Stage where
  /-- It installs definitions. -/
  | installing (rest : List Definition)
  /-- It competes for the lease. -/
  | acquiring
  /-- It watches and reconciles. -/
  | working
  /-- It reconciles the keys that are held to their end. -/
  | draining (cause : Cause)
  /-- It gives the lease up. -/
  | releasing
  /-- It is over. -/
  | ended (how : Ending)

/-- The program. -/
structure Life where
  /-- The plan by which it runs. -/
  plan : Plan
  /-- Its competitor for the lease, if it needs the lease. -/
  elector? : Option Elector
  /-- What it is doing. -/
  stage : Stage
  /-- What its competitor is doing. -/
  phase : Leadership.Phase := .outside
  /-- The controllers. -/
  office : Office
  /-- The time in milliseconds. -/
  now : Nat := 0

/-- A step of the program or of its surroundings. -/
inductive Happening where
  /-- A definition has been installed, or not. -/
  | installed (outcome : Except ApiFault Unit)
  /-- The competitor does its next step; its clock shows `time`, and a request gets `reply`. -/
  | compete (time : Instant) (reply : LeaseRequest → Except ApiFault Lease)
  /-- Something is done in the wing of claims. -/
  | onClaims (a : Wing.Act BucketClaim)
  /-- Something is done in the wing of accesses. -/
  | onAccesses (a : Wing.Act BucketAccess)
  /-- Milliseconds pass. -/
  | elapse (ms : Nat)
  /-- The program hears that somebody asks it to end. -/
  | signal
  /-- The program notices that the lease is lost. -/
  | noticeLoss
  /-- The program notices that no more keys are held. -/
  | drained
  /-- The program notices that the lease has been given up, or could not be. -/
  | released

/-- What is done to the world outside. -/
inductive Trace where
  /-- A definition is applied. -/
  | installs (d : Definition)
  /-- A request about the lease is sent. -/
  | lease (r : LeaseRequest)
  /-- Something is done for a claim. -/
  | forClaim (deed : Deed)
  /-- Something is done for an access. -/
  | forAccess (deed : Deed)

/-- Whether an act comes from within a wing: time passes for the whole program at once, and nobody
but the program queues keys. -/
def isWithin {α : Type} : Wing.Act α → Bool
  | .happen (.wait _) => false
  | .happen (.queue _) => false
  | _ => true

namespace Life

/-- The controllers begin. -/
def beginWork (l : Life) : Life := { l with stage := .working }

/-- The definitions are installed. -/
def afterInstallation (l : Life) : Life :=
  match l.elector? with
  | some e => { l with stage := .acquiring, phase := .attempting e.attempt }
  | none => l.beginWork

/-- The program ends. -/
def finish (how : Ending) (l : Life) : Life := { l with stage := .ended how, phase := .outside }

/-- The program starts; `unique` tells it from others if nobody has named it. -/
def begin (plan : Plan) (unique : String) : Life where
  plan := plan
  elector? := plan.elector? unique
  stage := .installing Definition.all
  office := .opening plan.settings.retry

/-- The first definition that is not installed yet has been installed, or not. -/
def installed (outcome : Except ApiFault Unit) (l : Life) : Option (Life × List Trace) :=
  match l.stage with
  | .installing (d :: rest) =>
    let l' :=
      match outcome, rest with
      | .error e, _ => l.finish (.fault (.installation d.name e))
      | .ok (), [] => l.afterInstallation
      | .ok (), _ :: _ => { l with stage := .installing rest }
    some (l', [.installs d])
  | _ => none

/-! ## The lease -/

/-- Whether the competitor has steps to do. -/
def competes (l : Life) : Bool :=
  match l.stage with
  | .acquiring => true
  | .working => true
  | .draining _ => true
  | .releasing => true
  | _ => false

/-- The competitor has come to a phase.  With the lease the program begins to work; it breaks down
with a competitor that it waits for. -/
def competed (phase : Leadership.Phase) (l : Life) : Life :=
  match l.stage, phase with
  | .acquiring, .leading due => { l with phase := .leading due }.beginWork
  | .acquiring, .outside => l.finish .brokenDown
  | _, _ => { l with phase }

/-- The competitor does its next step. -/
def compete (time : Instant) (reply : LeaseRequest → Except ApiFault Lease) (l : Life) :
    Option (Life × List Trace) :=
  match l.elector? with
  | none => none
  | some e =>
    if l.competes then
      (e.step l.now time (fun r sent => (reply r, sent ++ [Trace.lease r])) l.phase []).map
        fun r => (l.competed r.1, r.2)
    else none

/-! ## The controllers -/

/-- Whether the controllers run. -/
def isAtWork (l : Life) : Bool :=
  match l.stage with
  | .working => true
  | .draining _ => true
  | _ => false

/-- Something is done in the office of the controllers. -/
def inOffice (a : Office.Act) (l : Life) : Option Life :=
  (l.office.step l.plan.backends l.plan.settings.workers a).map fun office => { l with office }

/-- Something is done in the wing of claims. -/
def onClaims (a : Wing.Act BucketClaim) (l : Life) : Option (Life × List Trace) :=
  if l.isAtWork && isWithin a then
    let deed? := l.office.claims.desk.deed? (Claims.reconcile l.plan.backends)
      l.plan.settings.workers a.happening?
    (l.inOffice (.claims a)).map fun l' => (l', deed?.toList.map Trace.forClaim)
  else none

/-- Something is done in the wing of accesses. -/
def onAccesses (a : Wing.Act BucketAccess) (l : Life) : Option (Life × List Trace) :=
  if l.isAtWork && isWithin a then
    let deed? := l.office.accesses.desk.deed? (Accesses.reconcile l.plan.backends)
      l.plan.settings.workers a.happening?
    (l.inOffice (.accesses a)).map fun l' => (l', deed?.toList.map Trace.forAccess)
  else none

/-- Milliseconds pass, for everybody at once. -/
def elapse (ms : Nat) (l : Life) : Life :=
  let claims := l.office.claims.desk
  let accesses := l.office.accesses.desk
  { l with
    now := l.now + ms
    office := { l.office with
      claims := { l.office.claims with desk := claims.setNow (claims.queue.now + ms) }
      accesses := { l.office.accesses with desk := accesses.setNow (accesses.queue.now + ms) } } }

/-! ## The end -/

/-- The controllers are asked to stop. -/
def stopWork (cause : Cause) (l : Life) : Option Life :=
  (l.inOffice .ask).map fun l => { l with stage := .draining cause }

/-- The program hears that somebody asks it to end; once it is ending it does not listen any
more. -/
def signal (l : Life) : Option Life :=
  match l.stage with
  | .installing _ => some (l.finish .killed)
  | .acquiring => some (l.finish .success)
  | .working => l.stopWork .signal
  | _ => some l

/-- The program notices that the lease is lost. -/
def noticeLoss (l : Life) : Option Life :=
  match l.stage, l.phase with
  | .working, .deposed => l.stopWork .loss
  | _, _ => none

/-- What the program does when the controllers have stopped: it gives the lease up unless it was
lost. -/
def afterWork (cause : Cause) (l : Life) : Life :=
  match cause, l.elector? with
  | .loss, _ => l.finish (.fault .leadershipLost)
  | .signal, some e => { l with stage := .releasing, phase := e.beginRelease l.phase }
  | .signal, none => l.finish .success

/-- The program notices that no more keys are held. -/
def drained (l : Life) : Option Life :=
  match l.stage with
  | .draining cause => (l.inOffice .leave).map (afterWork cause)
  | _ => none

/-- The program notices that the lease has been given up, or could not be: it ends either way. -/
def released (l : Life) : Option Life :=
  match l.stage, l.phase with
  | .releasing, .released _ => some (l.finish .success)
  | _, _ => none

/-- What follows from a step, with what is done to the world outside; nothing if the step is not
possible. -/
def next (l : Life) : Happening → Option (Life × List Trace)
  | .installed outcome => l.installed outcome
  | .compete time reply => l.compete time reply
  | .onClaims a => l.onClaims a
  | .onAccesses a => l.onAccesses a
  | .elapse ms => some (l.elapse ms, [])
  | .signal => l.signal.map fun l' => (l', [])
  | .noticeLoss => l.noticeLoss.map fun l' => (l', [])
  | .drained => l.drained.map fun l' => (l', [])
  | .released => l.released.map fun l' => (l', [])

/-- Installs the definitions one after the other with a server that replies at once. -/
def install {m : Type → Type} [Monad m] (send : Request → m Delivery) (l : Life) : m Life := do
  match l.stage with
  | .installing ds =>
    ds.foldlM (fun (l : Life) d => do
      match l.stage with
      | .installing _ =>
        let outcome ← (installation d).run send
        return ((l.installed outcome).map Prod.fst).getD l
      | _ => return l) l
  | _ => return l

/-- How the program ended, if it has. -/
def ending? (l : Life) : Option Ending :=
  match l.stage with
  | .ended how => some how
  | _ => none

end Life

/-- What the program ends with. -/
def Ending.exitCode : Ending → Nat
  | .success => 0
  | .fault _ => 1
  | .brokenDown => 101
  | .killed => 143

/-- What the program complains about when it ends. -/
def Ending.complaint : Ending → String
  | .fault f => f.report
  | _ => ""

end BucketProvisioning.Operator
