import BucketProvisioning.CommandLine.Help
import BucketProvisioning.Operator.Fault
import BucketProvisioning.Resource.Definition

/-!
# From the command line to a plan

What the program does about its command line: it answers a question, shows the manifests of the
kinds, complains, or has a plan by which it runs.  A plan has settings that the engine can run
with and at least one backend.
-/

set_option autoImplicit false

namespace BucketProvisioning.Operator

open BucketProvisioning BucketProvisioning.Backend BucketProvisioning.Leadership
open BucketProvisioning.CommandLine BucketProvisioning.Text.Terminal

/-- How the program is going to run. -/
structure Plan where
  /-- The settings of the controllers. -/
  settings : Settings
  /-- The backends. -/
  backends : Registry
  /-- The options that it was made from. -/
  options : Options

namespace Plan

/-- The plan for some options. -/
def ofOptions (o : Options) : Except Fault Plan :=
  match o.settings.check with
  | .error e => .error (.settings e)
  | .ok () =>
    match Registry.ofConfig o.inMemory o.remote with
    | .error e => .error (.backends e)
    | .ok backends =>
      if backends.isEmpty then .error .noBackends
      else .ok { settings := o.settings, backends, options := o }

/-- The name of the lease that the leader holds. -/
def leaderLeaseName : String := "bucket-operator-leader"

/-- The name of this instance; `unique` tells it from others if nobody has named it. -/
def identity (p : Plan) (unique : String) : String :=
  p.options.podName.getD (programName ++ "-" ++ unique)

/-- The competitor for the lease, if the program is to work only while holding it. -/
def elector? (p : Plan) (unique : String) : Option Elector :=
  if p.options.leaderElection then
    some {
      leaseName := leaderLeaseName
      ns := p.options.leaseNamespace
      identity := p.identity unique
      timings := p.options.timings }
  else none

end Plan

/-- What the program does about its command line. -/
inductive Response where
  /-- It answers a question. -/
  | answer (text : String)
  /-- It shows the manifests of the kinds. -/
  | manifests (documents : List Json)
  /-- It complains about the way in which it was called. -/
  | misuse (m : Misuse) (inStyle : Bool)
  /-- It cannot run. -/
  | fault (f : Fault)
  /-- It runs. -/
  | run (p : Plan)

namespace Response

/-- What the program does about its command line. -/
def ofArguments (vars : Variables) (arguments : List String) : Response :=
  let inStyle := wantsStyle vars
  match CommandLine.read vars arguments with
  | .error (.inquiry q) => .answer (render inStyle (q.answer vars))
  | .error (.misuse m) => .misuse m inStyle
  | .ok o =>
    if o.showManifests then .manifests (Resource.Definition.all.map Resource.Definition.manifest)
    else
      match Plan.ofOptions o with
      | .ok p => .run p
      | .error f => .fault f

/-- What the program ends with, if it does not run. -/
def exitCode : Response → Nat
  | .answer _ => 0
  | .manifests _ => 0
  | .misuse _ _ => 2
  | .fault _ => 1
  | .run _ => 0

/-- What the program complains about. -/
def complaint : Response → String
  | .misuse m inStyle => render inStyle m.message
  | .fault f => f.report
  | _ => ""

end Response

end BucketProvisioning.Operator
