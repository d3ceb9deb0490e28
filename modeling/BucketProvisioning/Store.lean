import BucketProvisioning.Key
import BucketProvisioning.Table

/-!
# Caches and records

For each kind of resource there are two stores.  The *cache* holds what the watch reports and is
written only as notifications arrive.  The *record* holds the last copy that was reconciled
successfully and is written only by the reconciler; a recorded object that is no longer cached, or
whose unique identifier differs from the cached one, has been deleted and is torn down from its
record.
-/

set_option autoImplicit false

namespace BucketProvisioning

open BucketProvisioning.Resource (Object)

/-- Objects by key. -/
abbrev Store (α : Type) := Table ObjectKey α

/-- The objects of a kind as the watch reports them. -/
structure Cache (α : Type) where
  /-- The objects. -/
  objects : Store α := {}
  /-- Whether a complete list has been applied. -/
  synced : Bool := false
deriving Inhabited

namespace Cache

variable {α : Type}

/-- The object of a key.  Before the first complete list an absent object may just not have been
seen yet, so nothing can be said about it. -/
def lookup (c : Cache α) (k : ObjectKey) : Except Failure (Option α) :=
  match c.objects.get? k with
  | some obj => .ok (some obj)
  | none =>
    if c.synced then .ok none
    else .error (.internal "cache" ("cache not synced, cannot resolve " ++ k.text))

/-- A look into a complete cache finds what is there. -/
theorem lookup_of_synced {c : Cache α} (synced : c.synced = true) (k : ObjectKey) :
    c.lookup k = .ok (c.objects.get? k) := by
  unfold lookup
  cases c.objects.get? k with
  | none => simp [synced]
  | some obj => rfl

/-- The cache with an object under a key. -/
def insert (c : Cache α) (k : ObjectKey) (obj : α) : Cache α :=
  { c with objects := c.objects.insert k obj }

/-- The cache without a key. -/
def erase (c : Cache α) (k : ObjectKey) : Cache α :=
  { c with objects := c.objects.erase k }

/-- The cache with its objects in the order of a list of its keys. -/
def arrange (c : Cache α) (ks : List ObjectKey) : Cache α :=
  { c with objects := c.objects.arrange ks }

/-- The cache after its first complete list. -/
def markSynced (c : Cache α) : Cache α := { c with synced := true }

end Cache

/-- Whether a recorded object is an earlier one than the live object of the same key. -/
def isSuperseded {α : Type} [Object α] (old live : α) : Bool :=
  (Object.uid? old).isSome && Object.uid? old ≠ Object.uid? live

/-- The recorded object that the live object of a key has taken the place of. -/
def superseded {α : Type} [Object α] (records : Store α) (k : ObjectKey) (live : α) : Option α :=
  (records.get? k).filter (isSuperseded · live)

end BucketProvisioning
