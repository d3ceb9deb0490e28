import BucketProvisioning.Store

/-!
# Notifications

What a watch reports about the objects of a kind, and what follows for the cache and the queue.
The cache is always written before the key is queued: a worker that is handed the key then sees
the change, or a later one.

`Notification.effects` and `Reflector.effects` list the consequences of a report as single steps,
between which workers may run.
-/

set_option autoImplicit false

namespace BucketProvisioning.Watch

open BucketProvisioning
open BucketProvisioning.Resource (Object)

variable {α : Type}

/-- A report that an object is gone. -/
inductive Deleted (α : Type) where
  /-- The watch saw the object go. -/
  | object (obj : α)
  /-- The object vanished unseen; the last known copy may be at hand. -/
  | unseen (key : String) (last : Option α)
deriving Repr

/-- A report about an object. -/
inductive Notification (α : Type) where
  /-- It is new. -/
  | added (obj : α)
  /-- It has changed. -/
  | modified (obj : α)
  /-- It is gone. -/
  | deleted (what : Deleted α)
deriving Repr

/-- A single consequence of a report. -/
inductive Effect (α : Type) where
  /-- An object is put into the cache. -/
  | put (k : ObjectKey) (obj : α)
  /-- A key is taken from the cache. -/
  | drop (k : ObjectKey)
  /-- The text of a key is queued. -/
  | enqueue (k : ObjectKey)
  /-- The cache has seen a complete list. -/
  | complete
deriving Repr

/-- The cache after a consequence. -/
def Effect.onCache (e : Effect α) (c : Cache α) : Cache α :=
  match e with
  | .put k obj => c.insert k obj
  | .drop k => c.erase k
  | .enqueue _ => c
  | .complete => c.markSynced

/-- The text that a consequence queues. -/
def Effect.queued? : Effect α → Option String
  | .enqueue k => some k.text
  | _ => none

variable [Object α]

/-- The key of an object that is gone: that of the object itself if there is a copy, else the
reported one if it is a key. -/
def Deleted.key? : Deleted α → Option ObjectKey
  | .object obj => ObjectKey.ofObject? obj
  | .unseen _ (some obj) => ObjectKey.ofObject? obj
  | .unseen key none => (ObjectKey.parse key).toOption

/-- What follows from a report; an object without a name is ignored. -/
def Notification.effects : Notification α → List (Effect α)
  | .added obj | .modified obj =>
    match ObjectKey.ofObject? obj with
    | some k => [.put k obj, .enqueue k]
    | none => []
  | .deleted what =>
    match what.key? with
    | some k => [.drop k, .enqueue k]
    | none => []

/-- An event of a watch that begins with a list and may have to begin anew. -/
inductive WatchEvent (α : Type) where
  /-- An object is new or has changed. -/
  | apply (obj : α)
  /-- An object is gone. -/
  | delete (obj : α)
  /-- A list begins. -/
  | listBegin
  /-- An object of the list. -/
  | listed (obj : α)
  /-- The list is complete. -/
  | listEnd
deriving Repr

/-- The list being received, if there is one. -/
structure Reflector (α : Type) where
  /-- The objects listed so far. -/
  listing : Option (List α) := none
deriving Repr, Inhabited

namespace Reflector

/-- What follows from an object that is new or has changed: whether it was known makes no
difference to the cache. -/
def applyEffects (obj : α) : List (Effect α) := (Notification.modified obj).effects

/-- What follows for a cached key from a complete list: a key that is not listed has vanished. -/
def vanishEffects (cache : Cache α) (listed : List ObjectKey) (k : ObjectKey) : List (Effect α) :=
  if k ∈ listed then []
  else (Notification.deleted (.unseen k.text (cache.objects.get? k))).effects

/-- What follows from a complete list for the keys that are cached when it is applied, one after
the other in the order of a list of them. -/
def vanishAll (listed : List ObjectKey) : List ObjectKey → Cache α → List (Effect α)
  | [], _ => []
  | k :: ks, cache =>
    let es := vanishEffects cache listed k
    es ++ vanishAll listed ks (es.foldl (fun c e => e.onCache c) cache)

/-- What follows from a complete list: the keys that vanished go first, in the order in which the
cache is walked, then every listed object is put in place, and only then is the cache complete. -/
def listEffects (cache : Cache α) (listed : List α) : List (Effect α) :=
  vanishAll (listed.filterMap ObjectKey.ofObject?) cache.objects.keys cache
    ++ listed.flatMap applyEffects
    ++ [.complete]

/-- What follows from an event, and the list as far as it has been received.  Until a list is
complete nothing of it reaches the cache. -/
def effects (r : Reflector α) (cache : Cache α) : WatchEvent α → List (Effect α) × Reflector α
  | .apply obj => (applyEffects obj, r)
  | .delete obj => ((Notification.deleted (.object obj)).effects, r)
  | .listBegin => ([], ⟨some []⟩)
  | .listed obj => ([], ⟨some (r.listing.getD [] ++ [obj])⟩)
  | .listEnd => (listEffects cache (r.listing.getD []), ⟨none⟩)

end Reflector

end BucketProvisioning.Watch
