import BucketProvisioning.Api.Client
import BucketProvisioning.Event
import BucketProvisioning.Table

/-!
# Recording events

Events become objects of the API server.  What has already been told about an object is not told
as a new event: the earlier one is changed to say how often and when it was seen last, and keeps
its first note.  An event that the server did not accept is as if it had never been published.
-/

set_option autoImplicit false

namespace BucketProvisioning.Api

open BucketProvisioning BucketProvisioning.Resource

/-- What makes two events the same; the note does not. -/
structure EventKey where
  /-- Whether it tells of trouble. -/
  type : EventType
  /-- What was being done. -/
  action : String
  /-- What happened. -/
  reason : String
  /-- What it is about. -/
  about : ObjectReference
deriving DecidableEq, Repr

/-- An event as an object. -/
structure RecordedEvent where
  /-- The event as it was first told. -/
  event : Event
  /-- What it is about. -/
  about : ObjectReference
  /-- The name of the object. -/
  name : String
  /-- When it was first told. -/
  time : Instant
  /-- How often it has been told, and when it was last, once that is more than once. -/
  series : Option (Nat × Instant) := none
deriving Repr

/-- The recorder of events. -/
structure Recorder where
  /-- The instance that tells them, if it has a name. -/
  reporter : Option String := none
  /-- The accepted events. -/
  accepted : Table EventKey RecordedEvent := {}
deriving Inhabited

namespace RecordedEvent

/-- What makes the event what it is. -/
def key (r : RecordedEvent) : EventKey := ⟨r.event.type, r.event.action, r.event.reason, r.about⟩

/-- When the event was last told. -/
def lastTime (r : RecordedEvent) : Instant := (r.series.map Prod.snd).getD r.time

/-- The digits of a point in time as they complete the name of an event. -/
def stamp (t : Instant) : String := String.ofList (Nat.toDigits 16 (t.micros.toNat * 1000))

/-- An event that is told for the first time. -/
def first (e : Event) (about : ObjectReference) (now : Instant) : RecordedEvent :=
  { event := e, about, time := now,
    name := about.name.getD fieldManager ++ "." ++ stamp now }

/-- An event that is told again. -/
def again (r : RecordedEvent) (now : Instant) : RecordedEvent :=
  { r with series := some ((r.series.map Prod.fst).getD 1 + 1, now) }

/-- Where the events about an object are kept. -/
def collection (r : RecordedEvent) : Collection := .events (r.about.ns.getD "default")

/-- The event as a document. -/
def encode (reporter : Option String) (r : RecordedEvent) : Json :=
  .obj ([("apiVersion", .str "events.k8s.io/v1"), ("kind", .str "Event"),
      ("action", .str r.event.action),
      ("eventTime", .str r.time.toMicroText),
      ("metadata", { name := some r.name, ns := r.about.ns : Metadata }.encode)]
    ++ Json.optField "note" .str r.event.note
    ++ [("reason", .str r.event.reason), ("regarding", r.about.encode),
      ("reportingController", .str fieldManager),
      ("reportingInstance", .str (reporter.getD fieldManager))]
    ++ Json.optField "series"
        (fun s => .obj [("count", .int s.1), ("lastObservedTime", .str s.2.toMicroText)]) r.series
    ++ [("type", .str r.event.type.text)])

open Decoder

/-- A field that may be absent but has to be a value otherwise. -/
def checkedField {α : Type} (name : String) (d : Decoder α) : Field Unit :=
  .checked name d.optional

/-- How often and when a document says that an event was told. -/
def decodeSeries : Decoder Unit :=
  openRecord "EventSeries" {
    start := (none : Option Instant)
    fields := [
      .checked "count" int32.optional,
      .of "lastObservedTime" instant.optional fun a _ => a]
    finish := fun
      | some _ => .ok ()
      | none => .error (.missingField "lastObservedTime") }

/-- What a document says about the source of an event. -/
def decodeSource : Decoder Unit :=
  openRecord "EventSource" (.plain () [checkedField "component" text, checkedField "host" text])

/-- A document that is an event. -/
def decode : Decoder Unit :=
  openRecord "Event" (.plain () (envelopeFields "events.k8s.io/v1" "Event" ++ [
    checkedField "action" text,
    checkedField "deprecatedCount" int32,
    checkedField "deprecatedFirstTimestamp" instant,
    checkedField "deprecatedLastTimestamp" instant,
    checkedField "deprecatedSource" decodeSource,
    checkedField "eventTime" instant,
    checkedField "metadata" Metadata.decode,
    checkedField "note" text,
    checkedField "reason" text,
    checkedField "regarding" ObjectReference.decode,
    checkedField "related" ObjectReference.decode,
    checkedField "reportingController" text,
    checkedField "reportingInstance" text,
    checkedField "series" decodeSeries,
    checkedField "type" text]))

/-- How the event is told to the server. -/
def exchange (reporter : Option String) (r : RecordedEvent) : Exchange Unit :=
  Client.expecting decode
    (if r.series.isSome then
      Request.patch r.collection r.name "" [] .merge (r.encode reporter)
    else Request.create r.collection (r.encode reporter))

end RecordedEvent

namespace Recorder

/-- For how many seconds an event that is told again counts as the same. -/
def memory : Int := 360

/-- The recorder without the events that have not been told for too long. -/
def prune (r : Recorder) (now : Instant) : Recorder :=
  { r with
    accepted := r.accepted.filter fun _ e => now < e.lastTime.addSeconds memory }

/-- The event as it is to be told now. -/
def next (r : Recorder) (e : Event) (about : ObjectReference) (now : Instant) : RecordedEvent :=
  let first := RecordedEvent.first e about now
  match r.accepted.get? first.key with
  | some earlier => earlier.again now
  | none => first

/-- The recorder after an event has been accepted. -/
def keep (r : Recorder) (e : RecordedEvent) : Recorder :=
  { r with accepted := r.accepted.insert e.key e }

/-- Tells an event. -/
def publish {m : Type → Type} [Monad m] (send : Request → m Delivery) (r : Recorder)
    (now : Instant) (e : Event) (about : ObjectReference) : m Recorder := do
  let r := r.prune now
  let told := r.next e about now
  match ← (told.exchange r.reporter).run send with
  | .ok () => return r.keep told
  | .error _ => return r

end Recorder

end BucketProvisioning.Api
