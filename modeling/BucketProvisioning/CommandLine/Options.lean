import BucketProvisioning.Backend.Registry
import BucketProvisioning.Leadership.Dialogue
import BucketProvisioning.Number.Word
import BucketProvisioning.Settings
import BucketProvisioning.Text.Terminal

/-!
# The options of the program

What the program can be told when it is started, and the declaration of every option: its name,
what it is for, and what giving it a value does.  An option may be given on the command line, and
most of them also by an environment variable of a similar name.

`assign_default` says that the value which a declaration states as its default is the value that
`Options` has from the start.
-/

set_option autoImplicit false

namespace BucketProvisioning.CommandLine

open BucketProvisioning BucketProvisioning.Backend BucketProvisioning.Leadership
open BucketProvisioning.Number

/-- What the program is told. -/
structure Options where
  /-- Whether to show the manifests of the kinds and do nothing else. -/
  showManifests : Bool := false
  /-- The settings of the controllers. -/
  settings : Settings := {}
  /-- The backend types that are served from memory. -/
  inMemory : List String := ["fake"]
  /-- The remote backends. -/
  remote : List Endpoint := []
  /-- How long a call of a remote backend may take. -/
  backendTimeout : Span := .seconds 30
  /-- Whether to work only while holding the lease. -/
  leaderElection : Bool := false
  /-- The namespace of the lease. -/
  leaseNamespace : String := "kube-system"
  /-- The name of this instance. -/
  podName : Option String := none
  /-- The times that govern the lease. -/
  timings : LeaseTimings := {}
deriving DecidableEq, Repr

/-- What the program can be asked instead of being started. -/
inductive Inquiry where
  /-- What the options are. -/
  | help
  /-- Which version it is. -/
  | version
deriving DecidableEq, Repr

/-- What giving an option does. -/
inductive Assignment where
  /-- It turns something on; a variable can also turn it off. -/
  | flag (set : Bool → Options → Options)
  /-- It takes one value. -/
  | value (set : String → Options → Except String Options)
  /-- It takes several values, with commas between them; the first of them replaces the default. -/
  | values (clear : Options → Options) (add : String → Options → Except String Options)
  /-- It asks a question. -/
  | inquiry (q : Inquiry)

namespace Assignment

/-- An option whose value is a number. -/
def number (set : Nat → Options → Options) : Assignment :=
  .value fun s o =>
    match readWord s with
    | .ok n => .ok (set n o)
    | .error fault => .error fault.message

/-- An option whose value is any text. -/
def text (set : String → Options → Options) : Assignment := .value fun s o => .ok (set s o)

end Assignment

/-- The declaration of an option. -/
structure Declaration where
  /-- Its name, without the dashes. -/
  name : String
  /-- Its name of one letter. -/
  short? : Option Char := none
  /-- What it is for. -/
  purpose : String
  /-- Whether a variable can give it. -/
  ambient : Bool := true
  /-- Its value if it is not given. -/
  default? : Option String := none
  /-- What giving it does. -/
  assignment : Assignment

namespace Declaration

/-- The options, in the order in which they are shown. -/
def all : List Declaration := [
  { name := "crd", purpose := "Generate CRD manifests and exit", ambient := false
    assignment := .flag fun b o => { o with showManifests := b } },
  { name := "worker-threads", purpose := "Worker tasks per resource kind", default? := some "4"
    assignment := .number fun n o => { o with settings.workers := n } },
  { name := "resync-period-secs"
    purpose := "Seconds between full re-enqueues of every cached object (0 disables)"
    default? := some "900"
    assignment := .number fun n o => { o with settings.resyncPeriod := .seconds n } },
  { name := "retry-interval-start-ms"
    purpose := "First retry delay after a failed reconcile, in milliseconds"
    default? := some "1000"
    assignment := .number fun n o => { o with settings.retry.initial := .millis n } },
  { name := "retry-interval-max-secs", purpose := "Upper bound on the retry delay, in seconds"
    default? := some "300"
    assignment := .number fun n o => { o with settings.retry.ceiling := .seconds n } },
  { name := "fake-drivers", purpose := "Backend types served by the built-in in-memory driver"
    default? := some "fake"
    assignment := .values (fun o => { o with inMemory := [] })
      fun s o => .ok { o with inMemory := o.inMemory ++ [s] } },
  { name := "bucket-drivers", purpose := "Out-of-process drivers as backend-type=endpoint pairs"
    assignment := .values (fun o => { o with remote := [] }) fun s o =>
      match Endpoint.parse s with
      | .ok e => .ok { o with remote := o.remote ++ [e] }
      | .error e => .error e.message },
  { name := "driver-timeout-secs", purpose := "Per-call timeout for gRPC drivers, in seconds"
    default? := some "30"
    assignment := .number fun n o => { o with backendTimeout := .seconds n } },
  { name := "enable-leader-election", purpose := "Only reconcile while holding the leader Lease"
    assignment := .flag fun b o => { o with leaderElection := b } },
  { name := "leader-election-namespace", purpose := "Namespace of the leader Lease"
    default? := some "kube-system"
    assignment := .text fun s o => { o with leaseNamespace := s } },
  { name := "pod-name", purpose := "Identity of this instance, normally the pod name"
    assignment := .text fun s o => { o with podName := some s } },
  { name := "lease-duration-secs", purpose := "Seconds a lease stays valid without renewal"
    default? := some "30"
    assignment := .number fun n o => { o with timings.duration := .seconds n } },
  { name := "lease-renew-interval-secs", purpose := "Seconds between lease renewals"
    default? := some "10"
    assignment := .number fun n o => { o with timings.renewInterval := .seconds n } },
  { name := "lease-retry-period-secs"
    purpose := "Seconds between acquisition attempts while not leading"
    default? := some "5"
    assignment := .number fun n o => { o with timings.retryPeriod := .seconds n } },
  { name := "help", short? := some 'h', purpose := "Print help", ambient := false
    assignment := .inquiry .help },
  { name := "version", short? := some 'V', purpose := "Print version", ambient := false
    assignment := .inquiry .version }]

/-- Whether an option takes values. -/
def takesValue (d : Declaration) : Bool :=
  match d.assignment with
  | .flag _ => false
  | .value _ => true
  | .values _ _ => true
  | .inquiry _ => false

/-- Whether an option asks a question. -/
def isInquiry (d : Declaration) : Bool :=
  match d.assignment with
  | .inquiry _ => true
  | _ => false

/-- Whether an option may be given more than once. -/
def isRepeatable (d : Declaration) : Bool :=
  match d.assignment with
  | .values _ _ => true
  | _ => false

/-- What stands for the value of an option; its variable has the same name. -/
def placeholder (d : Declaration) : String :=
  d.name.map fun c => if c = '-' then '_' else c.toUpper

/-- The variable of an option. -/
def variableName? (d : Declaration) : Option String :=
  if d.ambient then some d.placeholder else none

/-- An option as it is typed. -/
def typed (d : Declaration) : String := "--" ++ d.name

/-- What follows an option as it is written. -/
def valuePart (d : Declaration) : String :=
  if d.takesValue then " <" ++ d.placeholder ++ ">" else ""

/-- An option as it is written. -/
def form (d : Declaration) : String := d.typed ++ d.valuePart

/-- An option as it is written, in style. -/
def shownForm (d : Declaration) : String := Text.Terminal.bold d.typed ++ d.valuePart

/-- The values in a text. -/
def valuesOf (d : Declaration) (s : String) : List String :=
  if d.isRepeatable then Text.splitAll ',' s else [s]

/-- The declaration with a name. -/
def named? (name : String) : Option Declaration := all.find? fun d => d.name = name

/-- The declaration with a name of one letter. -/
def lettered? (c : Char) : Option Declaration := all.find? fun d => d.short? = some c

end Declaration

end BucketProvisioning.CommandLine
