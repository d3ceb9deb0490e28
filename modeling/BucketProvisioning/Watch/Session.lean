import BucketProvisioning.Engine.Desk
import BucketProvisioning.Watch.Follower

/-!
# Following a scripted server

A follower feeds the desk of its kind from a server whose replies are prepared.  Requests take no
time; after a failure the follower waits, longer each time as long as nothing but failures is seen.
-/

set_option autoImplicit false

namespace BucketProvisioning.Watch

open BucketProvisioning BucketProvisioning.Engine BucketProvisioning.Resource
open BucketProvisioning.Api (Collection Request Reply Delivery)

/-- What is prepared for a watch. -/
inductive WatchScript where
  /-- It opens, gives its lines, and then stays open or ends. -/
  | lines (ls : List String) (staysOpen : Bool)
  /-- It is answered like any other request. -/
  | reply (d : Delivery)

/-- An open watch. -/
structure OpenWatch where
  /-- The lines that have not been read yet. -/
  lines : List String := []
  /-- Whether it stays open after them. -/
  staysOpen : Bool := true

/-- A follower and a scripted server. -/
structure Session (α : Type) where
  /-- The collection that is followed. -/
  collection : Collection
  /-- Where following it stands. -/
  follower : Follower := .fresh
  /-- The open watch. -/
  watch : OpenWatch := {}
  /-- How many failures there have been since anything else was seen. -/
  failures : Nat := 0
  /-- The millisecond before which nothing is done after a failure. -/
  resumeAt : Nat := 0
  /-- The time in milliseconds. -/
  now : Nat := 0
  /-- The replies to lists that have not been given yet. -/
  lists : List Delivery := []
  /-- The watches that have not been opened yet. -/
  watches : List WatchScript := []
  /-- The requests, the last one first. -/
  requests : List Request := []
  /-- The desk that is fed. -/
  desk : Desk α := {}

namespace Session

variable {α : Type} [Object α]

/-- The shortest wait after a failure, in milliseconds. -/
def shortestWait : Nat := 800

/-- The longest wait after a failure, in milliseconds. -/
def longestWait : Nat := 30000

/-- How long the follower waits after a number of failures in a row. -/
def waitAfter (failures : Nat) : Nat := min (shortestWait * Nat.pow 2 (min failures 10)) longestWait

/-- What a message led to is passed on. -/
def pass (s : Session α) (p : Progress α) : Session α :=
  let desk := p.events.foldl (fun d e => (d.receive e).routeAll) s.desk
  let failures := if p.events.isEmpty then s.failures else 0
  if p.failed then
    { s with desk, follower := p.next, failures := failures + 1,
             resumeAt := s.now + waitAfter failures }
  else { s with desk, follower := p.next, failures }

/-- A request to an address is sent, if it can be written, and `reply` answers it. -/
def sendTo (s : Session α) (address : String) (reply : Session α → Delivery × Session α) :
    Except ApiFault Reply × Session α :=
  match Request.build .get address with
  | .error e => (.error e, s)
  | .ok r =>
    match reply { s with requests := r :: s.requests } with
    | (.ok reply, s) => (.ok reply, s)
    | (.error reason, s) => (.error (.unreachable reason), s)

/-- The reply when nothing is prepared. -/
def unprepared : Delivery := .ok ⟨500, "nothing scripted"⟩

/-- Asks for a page of the list. -/
def askPage (s : Session α) (next : Option String) : Session α :=
  let (reply, s) := s.sendTo (Follower.listAddress s.collection next) fun s =>
    (s.lists.headD unprepared, { s with lists := s.lists.tail })
  s.pass (Follower.receivePage (do (← reply).read Page.decode))

/-- Opens a watch, if there is a reply, whatever its status code. -/
def openWith (s : Session α) (version : String) (reply : Except ApiFault Reply)
    (watch : OpenWatch) : Session α :=
  { s with watch }.pass (Follower.receiveStart version (reply.map fun _ => ()))

/-- A line without the sign that may stand before its end. -/
def trimLine (line : String) : String :=
  match line.toList.reverse with
  | '\r' :: rest => String.ofList rest.reverse
  | _ => line

/-- Asks for a watch. -/
def askWatch (s : Session α) (version : String) : Session α :=
  let script := s.watches.headD (.lines [] true)
  let delivery : Delivery :=
    match script with
    | .lines _ _ => .ok ⟨200, ""⟩
    | .reply d => d
  let (reply, s) := s.sendTo (Follower.watchAddress s.collection version) fun s =>
    (delivery, { s with watches := s.watches.tail })
  match script, reply with
  | .lines ls staysOpen, _ => s.openWith version reply ⟨ls, staysOpen⟩
  | .reply _, .ok r => s.openWith version reply ⟨(r.text.splitOn "\n").map trimLine, false⟩
  | .reply _, .error _ => s.openWith version reply {}

/-- Reads the next line of the open watch, which may say nothing.  Nothing happens if the watch
stays open without a line. -/
def readLine? (s : Session α) (version : String) : Option (Session α) :=
  match s.watch.lines with
  | line :: rest =>
    let s := { s with watch := { s.watch with lines := rest } }
    match WatchMessage.ofLine? line with
    | none => some s
    | some m => some (s.pass (Follower.receiveMessage version m))
  | [] =>
    if s.watch.staysOpen then none else some (s.pass (Follower.receiveEnd version))

/-- The next thing that can be done now. -/
def act? (s : Session α) : Option (Session α) :=
  if s.now < s.resumeAt then none
  else
    match s.follower with
    | .fresh => some (s.pass Follower.restart)
    | .listing next => some (s.askPage next)
    | .listed version => some (s.askWatch version)
    | .watching version => s.readLine? version

/-- Does what can be done until a time, at most `fuel` things. -/
def runTo (target : Nat) : Nat → Session α → Session α
  | 0, s => { s with now := target }
  | fuel + 1, s =>
    match s.act? with
    | some s => runTo target fuel s
    | none =>
      if s.now < s.resumeAt && s.resumeAt ≤ target then
        runTo target fuel { s with now := s.resumeAt }
      else { s with now := target }

/-- Enough for everything that is prepared and for every failure in a span of milliseconds. -/
def fuelFor (s : Session α) (span : Nat) : Nat :=
  let lines := s.watches.map fun
    | .lines ls _ => ls.length + 3
    | .reply (.ok r) => r.text.length + 5
    | .reply (.error _) => 5
  10 + s.watch.lines.length + 4 * s.lists.length + lines.foldl (· + ·) 0 + 4 * (span / shortestWait + 1)

/-- Lets time pass. -/
def advance (s : Session α) (span : Nat) : Session α :=
  s.runTo (s.now + span) (s.fuelFor span)

/-- The requests since they were last taken, in order. -/
def takeRequests (s : Session α) : List Request × Session α :=
  (s.requests.reverse, { s with requests := [] })

end Session

end BucketProvisioning.Watch
