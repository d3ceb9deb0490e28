import BucketProvisioning.Store

/-!
# The stores of a kind

Cache and record of a kind together, and the ways in which a reconciler reads and writes them.
`answer_cache` says that none of them changes the cache.
-/

set_option autoImplicit false

namespace BucketProvisioning

/-- A way to read or write the stores of a kind. -/
inductive StoreAccess (α : Type) where
  /-- Looks a key up in the cache. -/
  | lookup (k : ObjectKey)
  /-- Reads the record of a key. -/
  | recordOf (k : ObjectKey)
  /-- Writes the record of a key. -/
  | remember (k : ObjectKey) (obj : α)
  /-- Erases the record of a key. -/
  | forget (k : ObjectKey)

/-- What an access gives. -/
def StoreAccess.Reply {α : Type} : StoreAccess α → Type
  | .lookup _ => Except Failure (Option α)
  | .recordOf _ => Option α
  | .remember _ _ => Unit
  | .forget _ => Unit

/-- The stores of a kind. -/
structure Stores (α : Type) where
  /-- What the watch reports. -/
  cache : Cache α := {}
  /-- The last copies that were reconciled. -/
  records : Store α := {}
deriving Inhabited

namespace Stores

variable {α : Type}

/-- What an access gives, and the stores after it. -/
def answer (s : Stores α) : (a : StoreAccess α) → a.Reply × Stores α
  | .lookup k => (s.cache.lookup k, s)
  | .recordOf k => (s.records.get? k, s)
  | .remember k obj => ((), { s with records := s.records.insert k obj })
  | .forget k => ((), { s with records := s.records.erase k })

/-- No program writes to the cache. -/
@[simp] theorem answer_cache (s : Stores α) (a : StoreAccess α) :
    (s.answer a).2.cache = s.cache := by
  cases a <;> rfl

end Stores

end BucketProvisioning
