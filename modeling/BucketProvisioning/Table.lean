/-!
# Finite maps

A `Table` is a finite map kept as a list of entries, at most one for each key once it has been
built by `insert` and `erase`.  The order of the entries is the order in which the keys were last
written, unless `arrange` has put them into another one; nothing in this library lets an answer
depend on it.

Main statements: `get?_insert` and `get?_erase` say what a look-up sees after a change, `mem_keys`
ties the list of keys to look-ups, `nodup_keys_insert` and `nodup_keys_erase` say that the keys
stay distinct, and `get?_arrange` that look-ups do not see the order.
-/

set_option autoImplicit false

namespace BucketProvisioning

/-- A finite map from `κ` to `α`. -/
structure Table (κ α : Type) where
  /-- The entries, oldest write first. -/
  entries : List (κ × α) := []
deriving Repr

namespace Table

variable {κ α β : Type} [DecidableEq κ]

instance : Inhabited (Table κ α) := ⟨{}⟩

/-- The map without entries. -/
def empty : Table κ α := {}

/-- The value stored under `k`. -/
def get? (t : Table κ α) (k : κ) : Option α :=
  (t.entries.find? fun e => e.1 = k).map Prod.snd

/-- Whether `k` has a value. -/
def contains (t : Table κ α) (k : κ) : Bool := (t.get? k).isSome

/-- The map without `k`. -/
def erase (t : Table κ α) (k : κ) : Table κ α :=
  ⟨t.entries.filter fun e => e.1 ≠ k⟩

/-- The map with `a` under `k`, in place of any earlier value. -/
def insert (t : Table κ α) (k : κ) (a : α) : Table κ α :=
  ⟨(t.erase k).entries ++ [(k, a)]⟩

/-- The keys that have a value. -/
def keys (t : Table κ α) : List κ := t.entries.map Prod.fst

/-- The number of entries. -/
def size (t : Table κ α) : Nat := t.entries.length

/-- Whether there is no entry. -/
def isEmpty (t : Table κ α) : Bool := t.entries.isEmpty

/-- The map that holds the pairs of a list, a later pair replacing an earlier one of its key. -/
def ofList (es : List (κ × α)) : Table κ α :=
  es.foldl (fun t e => t.insert e.1 e.2) empty

/-- The entries of the keys `ks`, in the order of that list. -/
def arrange (t : Table κ α) (ks : List κ) : Table κ α :=
  ⟨ks.filterMap fun k => (t.get? k).map (Prod.mk k)⟩

/-- Every value under the same key, changed by `f`. -/
def map (f : α → β) (t : Table κ α) : Table κ β :=
  ⟨t.entries.map fun e => (e.1, f e.2)⟩

/-- The entries that satisfy `p`. -/
def filter (p : κ → α → Bool) (t : Table κ α) : Table κ α :=
  ⟨t.entries.filter fun e => p e.1 e.2⟩

omit [DecidableEq κ] in
@[simp] theorem entries_empty : (empty : Table κ α).entries = [] := rfl

@[simp] theorem get?_empty (k : κ) : (empty : Table κ α).get? k = none := rfl

/-- A key that is erased is gone, and every other key is as it was. -/
theorem get?_erase (t : Table κ α) (k k' : κ) :
    (t.erase k).get? k' = if k' = k then none else t.get? k' := by
  obtain ⟨es⟩ := t
  induction es with
  | nil => simp [get?, erase]
  | cons e es ih =>
    simp only [get?, erase] at ih ⊢
    by_cases hk : e.1 = k
    · by_cases hk' : k' = k
      · simp_all
      · have : ¬ e.1 = k' := fun h => hk' (h.symm.trans hk)
        simp_all
    · by_cases hk' : e.1 = k'
      · have : ¬ k' = k := fun h => hk (hk'.trans h)
        simp_all
      · simp_all

/-- A key that is erased is gone. -/
@[simp] theorem get?_erase_self (t : Table κ α) (k : κ) : (t.erase k).get? k = none := by
  simp [get?_erase]

/-- Erasing a key leaves the others alone. -/
theorem get?_erase_of_ne (t : Table κ α) {k k' : κ} (h : k' ≠ k) :
    (t.erase k).get? k' = t.get? k' := by
  simp [get?_erase, h]

/-- A key that is written has the new value, and every other key is as it was. -/
theorem get?_insert (t : Table κ α) (k k' : κ) (a : α) :
    (t.insert k a).get? k' = if k' = k then some a else t.get? k' := by
  have h : (t.insert k a).get? k' = ((t.erase k).get? k').or (if k = k' then some a else none) := by
    simp only [get?, insert, List.find?_append]
    cases List.find? (fun e => decide (e.1 = k')) (t.erase k).entries <;>
      by_cases hk : k = k' <;> simp [hk]
  rw [h, get?_erase]
  by_cases hk : k' = k
  · simp [hk]
  · have : ¬ k = k' := fun h => hk h.symm
    simp [hk, this]

/-- A key that is written has the new value. -/
@[simp] theorem get?_insert_self (t : Table κ α) (k : κ) (a : α) :
    (t.insert k a).get? k = some a := by
  simp [get?_insert]

/-- Writing a key leaves the others alone. -/
theorem get?_insert_of_ne (t : Table κ α) {k k' : κ} (a : α) (h : k' ≠ k) :
    (t.insert k a).get? k' = t.get? k' := by
  simp [get?_insert, h]

/-- A key is listed exactly if a look-up finds it. -/
theorem mem_keys (t : Table κ α) (k : κ) : k ∈ t.keys ↔ t.contains k = true := by
  obtain ⟨es⟩ := t
  induction es with
  | nil => simp [keys, contains, get?]
  | cons e es ih =>
    simp only [keys, contains, get?] at ih ⊢
    by_cases hk : e.1 = k
    · simp [hk]
    · have hk' : ¬ k = e.1 := fun h => hk h.symm
      simp [hk, hk']

/-- Erasing keeps the keys distinct. -/
theorem nodup_keys_erase (t : Table κ α) (k : κ) (h : t.keys.Nodup) : (t.erase k).keys.Nodup :=
  h.sublist (List.filter_sublist.map Prod.fst)

/-- Writing keeps the keys distinct. -/
theorem nodup_keys_insert (t : Table κ α) (k : κ) (a : α) (h : t.keys.Nodup) :
    (t.insert k a).keys.Nodup := by
  have erased : k ∉ (t.erase k).keys := by
    rw [mem_keys, contains, get?_erase_self]
    simp
  have kept := nodup_keys_erase t k h
  simp only [keys, insert, List.map_append, List.map_cons, List.map_nil] at erased kept ⊢
  exact List.nodup_append.2 ⟨kept, by simp, by
    intro x hx y hy same
    rw [List.mem_singleton.1 hy] at same
    exact erased (same ▸ hx)⟩

/-! ## The order of the entries -/

/-- Only the keys of the list are found in what has been arranged by it. -/
theorem get?_arrange_eq_ite (t : Table κ α) (ks : List κ) (k : κ) :
    (t.arrange ks).get? k = if k ∈ ks then t.get? k else none := by
  induction ks with
  | nil => rfl
  | cons x ks ih =>
    -- a key without a value gets no entry, so it makes no difference to look-ups
    cases found : t.get? x with
    | none =>
      have skip : t.arrange (x :: ks) = t.arrange ks := by simp [arrange, found]
      rw [skip, ih]
      by_cases same : k = x
      · simp [same, found]
      · simp [same]
    | some a =>
      have entries : (t.arrange (x :: ks)).entries = (x, a) :: (t.arrange ks).entries := by
        simp [arrange, found]
      have here : (t.arrange (x :: ks)).get? k = if x = k then some a else (t.arrange ks).get? k := by
        unfold get?
        rw [entries, List.find?_cons]
        by_cases same : x = k <;> simp [same]
      rw [here, ih]
      by_cases same : x = k
      · simp [← same, found]
      · have other : k ≠ x := fun is => same is.symm
        simp [same, other]

/-- Look-ups do not see the order of the entries. -/
theorem get?_arrange {t : Table κ α} {ks : List κ} (same : ks.Perm t.keys) (k : κ) :
    (t.arrange ks).get? k = t.get? k := by
  rw [get?_arrange_eq_ite]
  split
  · rfl
  · rename_i absent
    rw [same.mem_iff, mem_keys, contains] at absent
    exact (Option.not_isSome_iff_eq_none.1 absent).symm

/-- What has been arranged by a list of its keys has them in the order of the list. -/
theorem keys_arrange {t : Table κ α} {ks : List κ} (known : ∀ k ∈ ks, k ∈ t.keys) :
    (t.arrange ks).keys = ks := by
  induction ks with
  | nil => rfl
  | cons k ks ih =>
    rw [List.forall_mem_cons, mem_keys, contains] at known
    obtain ⟨a, found⟩ := Option.isSome_iff_exists.1 known.1
    have rest := ih known.2
    simp only [arrange, keys] at rest ⊢
    simp [found, rest]

end Table

end BucketProvisioning
